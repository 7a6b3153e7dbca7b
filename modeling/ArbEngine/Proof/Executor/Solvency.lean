import ArbEngine.Proof.Executor.Flow
import ArbEngine.Proof.Inventory.TrackerLedger
import ArbEngine.Proof.Strategy.Signals

/-!
# No balance below zero

A fill spends one asset on its venue and adds to others (`net_fillPostings_ge`), and the two
legs of a flow are on different venues. So a tracker that can pay each leg of a signal in full
(`Affordable`) stays without debts whatever part of the legs goes through
(`FlowEnd.solvent`); `check_inventory` makes sure of that for both directions
(`affordable_of_generate`). On the exchange the price it checks is the price that is paid. In
the pool it is not, and there the spread does the rest: what is bought from the pool is
cheaper than what the exchange bids.
-/

namespace ArbEngine

open InventoryTracker

/-- No free balance is a debt. -/
def Solvent (t : InventoryTracker) : Prop := ∀ k, 0 ≤ t.free k

/-! ## What a fill spends -/

def spentAsset (side : TradeSide) (base quote : String) : String :=
  match side with
  | .buy => quote
  | .sell => base

def spentAmount (side : TradeSide) (filled price : ℚ) : ℚ :=
  match side with
  | .buy => filled * price
  | .sell => filled

section Fills

variable {signal : Signal} {base quote : String} {filled price : ℚ}

theorem spentAmount_mono {side : TradeSide} {size : ℚ} (hprice : 0 ≤ price)
    (h : filled ≤ size) : spentAmount side filled price ≤ spentAmount side size price := by
  cases side with
  | buy => exact mul_le_mul_of_nonneg_right h hprice
  | sell => exact h

/-- **A fill takes what it spends from one account**, and nothing from any other; the fee is
    paid out of what is received. -/
theorem net_fillPostings_ge (venue : Venue) (hpair : splitPair signal.pair = [base, quote])
    (hprice : 0 ≤ price) (h : 0 ≤ filled) (k : Venue × String) :
    -(if (venue, spentAsset (legSide signal.direction venue) base quote) = k then
        spentAmount (legSide signal.direction venue) filled price else 0) ≤
      Ledger.net (fillPostings signal venue filled price) k := by
  have worth : 0 ≤ filled * price := mul_nonneg h hprice
  rw [net_fillPostings hpair]
  cases legSide signal.direction venue with
  | buy =>
    show -(if (venue, quote) = k then filled * price else 0) ≤ _
    have received : 0 ≤ if (venue, base) = k then filled * (999 / 1000) else 0 := by
      split_ifs <;> linarith
    linarith
  | sell =>
    show -(if (venue, base) = k then filled else 0) ≤ _
    have received : 0 ≤ if (venue, quote) = k then filled * price * (999 / 1000) else 0 := by
      split_ifs <;> linarith
    linarith

/-- Where the venue can pay for the fill, no account of the venue gets into debt. -/
theorem free_updateInventory_nonneg {t : InventoryTracker} {venueStr : String}
    (hpair : splitPair signal.pair = [base, quote]) (hprice : 0 ≤ price) (h : 0 ≤ filled)
    (pays : spentAmount (legSide signal.direction (venueOf venueStr)) filled price ≤
      t.free (venueOf venueStr,
        spentAsset (legSide signal.direction (venueOf venueStr)) base quote))
    (solvent : Solvent t) : Solvent (updateInventory t venueStr signal filled price) := by
  intro k
  have taken := net_fillPostings_ge (venueOf venueStr) hpair hprice h k
  have before := solvent k
  rw [free_updateInventory, Ledger.postAll_apply]
  split_ifs at taken with hk
  · subst hk
    linarith
  · linarith

/-- A fill leaves the accounts of the other venue alone. -/
theorem free_updateInventory_other {t : InventoryTracker} {venueStr : String} {k : Venue × String}
    (h : venueOf venueStr ≠ k.1) :
    (updateInventory t venueStr signal filled price).free k = t.free k := by
  rw [free_updateInventory, Ledger.postAll_apply, net_fillPostings_other h, add_zero]

end Fills

/-! ## A signal that can be paid for -/

/-- The price a simulated leg fills at. -/
def Signal.legPrice (s : Signal) : Venue → ℚ
  | .cex => s.cexPrice
  | .wallet => s.dexPrice

/-- Each venue can pay its leg of the signal in full. -/
structure Affordable (t : InventoryTracker) (s : Signal) (base quote : String) : Prop where
  pair : splitPair s.pair = [base, quote]
  pays : ∀ venue, spentAmount (legSide s.direction venue) s.size (s.legPrice venue) ≤
    t.free (venue, spentAsset (legSide s.direction venue) base quote)

/-- A leg on `venue` that is worth booking: it fills no more than it is asked for, at the
    price of the signal. -/
structure Fair (s : Signal) (venue : Venue) (asked : ℚ) (leg : LegResult) : Prop where
  price : leg.price = s.legPrice venue
  nonneg : 0 ≤ leg.filled
  le : leg.filled ≤ asked

section Simulation

variable {config : ExecutorConfig} {cexElapsed dexElapsed : ℚ} {stamp : ℕ} {signal : Signal}
  {leg : LegResult} {asked : ℚ}

/-- Half of what was asked for is a fair fill. -/
theorem Fair.half {venue : Venue} (h : 0 ≤ asked) (price : leg.price = signal.legPrice venue)
    (filled : leg.filled = asked * (1 / 2)) : Fair signal venue asked leg := by
  refine ⟨price, ?_, ?_⟩
  · rw [filled]
    linarith
  · rw [filled]
    linarith

theorem simulateCexLeg_fair (h : 0 ≤ asked)
    (success : (simulateCexLeg stamp signal asked).success = true) :
    Fair signal .cex asked (simulateCexLeg stamp signal asked) := by
  unfold simulateCexLeg at success ⊢
  split at success
  · cases success
  · rename_i fails
    rw [if_neg fails]
    split
    · exact .half h rfl rfl
    · exact ⟨rfl, h, le_refl _⟩

theorem simulateDexLeg_fair (h : 0 ≤ asked)
    (success : (simulateDexLeg signal asked).success = true) :
    Fair signal .wallet asked (simulateDexLeg signal asked) := by
  unfold simulateDexLeg at success ⊢
  split at success
  · cases success
  · rename_i fails
    rw [if_neg fails]
    split
    · exact .half h rfl rfl
    · exact ⟨rfl, h, le_refl _⟩

theorem simulationLegs_cex_fair (size : Option ℚ) (h : 0 ≤ size.getD signal.size)
    (success : leg.success = true)
    (reply : (simulationLegs config cexElapsed dexElapsed stamp).cex signal size = some leg) :
    Fair signal .cex (size.getD signal.size) leg := by
  change (if cexElapsed < config.leg1TimeoutSec then some _ else none) = _ at reply
  split at reply
  · cases reply
    exact simulateCexLeg_fair h success
  · cases reply

theorem simulationLegs_dex_fair (h : 0 ≤ asked) (success : leg.success = true)
    (reply : (simulationLegs config cexElapsed dexElapsed stamp).dex signal asked = some leg) :
    Fair signal .wallet asked leg := by
  change (if dexElapsed < config.leg2TimeoutSec then some _ else none) = _ at reply
  split at reply
  · cases reply
    exact simulateDexLeg_fair h success
  · cases reply

theorem firstReply_fair (h : 0 ≤ signal.size) (success : leg.success = true)
    (reply : firstReply (simulationLegs config cexElapsed dexElapsed stamp) signal = some leg) :
    Fair signal (venueOf (firstVenue signal.direction)) signal.size leg := by
  unfold firstReply at reply
  cases hdir : signal.direction with
  | buyCexSellDex =>
    rw [hdir] at reply
    exact simulationLegs_cex_fair none h success reply
  | buyDexSellCex =>
    rw [hdir] at reply
    exact simulationLegs_dex_fair h success reply

theorem secondReply_fair (h : 0 ≤ asked) (success : leg.success = true)
    (reply : secondReply (simulationLegs config cexElapsed dexElapsed stamp) signal asked =
      some leg) : Fair signal (venueOf (secondVenue signal.direction)) asked leg := by
  unfold secondReply at reply
  cases hdir : signal.direction with
  | buyCexSellDex =>
    rw [hdir] at reply
    exact simulationLegs_dex_fair h success reply
  | buyDexSellCex =>
    rw [hdir] at reply
    exact simulationLegs_cex_fair (some asked) h success reply

end Simulation

/-! ## Executing it -/

section Execution

variable {t t' : InventoryTracker} {s : Signal} {base quote : String}

theorem firstVenue_ne_secondVenue (direction : Direction) :
    venueOf (firstVenue direction) ≠ venueOf (secondVenue direction) := by
  cases direction <;> decide

/-- Booking a fair fill that the venue can pay leaves no debt. -/
theorem Affordable.book_fair (h : Affordable t s base quote)
    (prices : ∀ venue, 0 ≤ s.legPrice venue) {venueStr : String} {asked : ℚ} {leg : LegResult}
    (fair : Fair s (venueOf venueStr) asked leg) (hasked : asked ≤ s.size)
    (same : ∀ asset, t'.free (venueOf venueStr, asset) = t.free (venueOf venueStr, asset))
    (solvent : Solvent t') : Solvent (updateInventory t' venueStr s leg.filled leg.price) := by
  rw [fair.price]
  refine free_updateInventory_nonneg h.pair (prices _) fair.nonneg ?_ solvent
  rw [same]
  exact (spentAmount_mono (prices _) (fair.le.trans hasked)).trans (h.pays _)

/-- **Whatever part of an affordable signal goes through, there is no debt.** -/
theorem FlowEnd.solvent {config : ExecutorConfig} {cexElapsed dexElapsed : ℚ} {stamp : ℕ}
    {path : List ExecEvent} {state : ExecutorState} {fill1 fill2 : Option ℚ}
    (h : FlowEnd config (simulationLegs config cexElapsed dexElapsed stamp) s t path t' state
      fill1 fill2)
    (affordable : Affordable t s base quote) (hsize : 0 ≤ s.size)
    (prices : ∀ venue, 0 ≤ s.legPrice venue) (solvent : Solvent t) : Solvent t' := by
  have first : ∀ leg, firstReply (simulationLegs config cexElapsed dexElapsed stamp) s = some leg →
      TakesFirst config s leg →
        Fair s (venueOf (firstVenue s.direction)) s.size leg ∧
          Solvent (updateInventory t (firstVenue s.direction) s leg.filled leg.price) := by
    intro leg hleg yes
    have fair := firstReply_fair hsize yes.1 hleg
    exact ⟨fair, affordable.book_fair prices fair le_rfl (fun _ => rfl) solvent⟩
  cases h with
  | silentFirst => exact solvent
  | refusedFirst => exact solvent
  | silentSecond leg hleg yes => exact (first leg hleg yes).2
  | refusedSecond leg leg2 hleg yes => exact (first leg hleg yes).2
  | finished leg leg2 hleg yes hleg2 yes2 =>
    obtain ⟨fair, booked⟩ := first leg hleg yes
    have fair2 := secondReply_fair fair.nonneg yes2 hleg2
    -- The first fill left the venue of the second one alone.
    refine affordable.book_fair prices fair2 fair.le ?_ booked
    intro asset
    exact free_updateInventory_other (firstVenue_ne_secondVenue s.direction)

end Execution

/-! ## What the generator checks -/

namespace SignalGenerator

/-- A signal says of the inventory what the check said of its own numbers. -/
theorem inventoryOk_of_filterCandidate {g : SignalGenerator} {env : QuoteEnv}
    {t : InventoryTracker} {pair : String} {size : ℚ} {c : Candidate} {s : Signal}
    (h : g.filterCandidate env t pair size c = some (.signal s)) :
    s.inventoryOk = checkInventory t s.pair s.direction s.size s.cexPrice := by
  unfold filterCandidate at h
  simp only at h
  split at h
  · cases h
  · have emitted := Option.some.inj h
    unfold emission at emitted
    split at emitted
    · cases emitted
      rfl
    · cases emitted

end SignalGenerator

/-- What the check wants to see of the asset a side spends. -/
def reserved (side : TradeSide) (size price : ℚ) : ℚ :=
  match side with
  | .buy => size * price * (101 / 100)
  | .sell => size

theorem checkInventory_eq_true {t : InventoryTracker} {pair : String} {direction : Direction}
    {size price : ℚ} (h : checkInventory t pair direction size price = true) :
    ∃ base quote, splitPair pair = [base, quote] ∧
      ∀ venue, reserved (legSide direction venue) size price ≤
        t.free (venue, spentAsset (legSide direction venue) base quote) := by
  unfold checkInventory at h
  split at h
  · rename_i base quote hpair
    refine ⟨base, quote, hpair, ?_⟩
    cases direction with
    | buyCexSellDex =>
      simp only [Bool.and_eq_true, decide_eq_true_eq] at h
      rintro (_ | _)
      · exact h.1
      · exact h.2
    | buyDexSellCex =>
      simp only [Bool.and_eq_true, decide_eq_true_eq] at h
      rintro (_ | _)
      · exact h.1
      · exact h.2
  · cases h

/-- A spread that is not negative buys at no more than it sells at. -/
theorem Reckoned.buyPrice_le {fees : FeeStructure} {config : GeneratorConfig} {s : Signal}
    (h : Reckoned fees config s) (spread : 0 ≤ config.minSpreadBps) (pos : 0 < s.buyPrice) :
    s.buyPrice ≤ s.sellPrice := by
  have wide := spread.trans h.wide
  rw [h.spread] at wide
  have gain : 0 ≤ (s.sellPrice - s.buyPrice) / s.buyPrice := by linarith
  have := mul_nonneg gain pos.le
  rw [div_mul_cancel₀ _ pos.ne'] at this
  linarith

/-- What a signal buys costs no more than the exchange's price, on either venue. -/
theorem Reckoned.legPrice_le {fees : FeeStructure} {config : GeneratorConfig} {s : Signal}
    (h : Reckoned fees config s) (spread : 0 ≤ config.minSpreadBps) (hdex : 0 < s.dexPrice)
    {venue : Venue} (buys : legSide s.direction venue = .buy) : s.legPrice venue ≤ s.cexPrice := by
  cases venue with
  | cex => exact le_refl _
  | wallet =>
    cases hdir : s.direction with
    | buyCexSellDex =>
      rw [hdir] at buys
      cases buys
    | buyDexSellCex =>
      -- The check knows the price of the exchange only; the spread keeps the pool's below it.
      have cheaper := h.buyPrice_le spread (by rw [Signal.buyPrice, hdir]; exact hdex)
      rw [Signal.buyPrice, Signal.sellPrice, hdir] at cheaper
      exact cheaper

/-- **A signal that passed the check can be paid for**, in the pool as well as on the
    exchange. -/
theorem affordable_of_generate {g g' : SignalGenerator} {env : QuoteEnv} {t : InventoryTracker}
    {pair : String} {size : ℚ} {s : Signal}
    (emitted : g.generate env t pair size = .ok (g', some (.signal s)))
    (ok : s.inventoryOk = true) (spread : 0 ≤ g.config.minSpreadBps) (hsize : 0 < s.size)
    (hcex : 0 < s.cexPrice) (hdex : 0 < s.dexPrice) :
    ∃ base quote, Affordable t s base quote := by
  obtain ⟨p, c, emits⟩ := (SignalGenerator.generate_eq_ok emitted).2 _ rfl
  rw [SignalGenerator.inventoryOk_of_filterCandidate emits.filtered] at ok
  obtain ⟨base, quote, hpair, enough⟩ := checkInventory_eq_true ok
  have worth : 0 < s.size * s.cexPrice := mul_pos hsize hcex
  refine ⟨base, quote, hpair, ?_⟩
  intro venue
  refine le_trans ?_ (enough venue)
  cases hside : legSide s.direction venue with
  | buy =>
    have paid : s.size * s.legPrice venue ≤ s.size * s.cexPrice :=
      mul_le_mul_of_nonneg_left (emits.reckoned.legPrice_le spread hdex hside) hsize.le
    show s.size * s.legPrice venue ≤ s.size * s.cexPrice * (101 / 100)
    linarith
  | sell => exact le_refl _

/-- **Executing a signal that passed the inventory check leaves no balance below zero**,
    whatever the simulated legs fill. -/
theorem inventory_check_keeps_solvent {g g' : SignalGenerator} {env : QuoteEnv}
    {pair : String} {size : ℚ} {s : Signal} (ex : Executor) (clock : ExecClock)
    (cexElapsed dexElapsed : ℚ) (stamp : ℕ)
    (emitted : g.generate env ex.inventory pair size = .ok (g', some (.signal s)))
    (ok : s.inventoryOk = true) (spread : 0 ≤ g.config.minSpreadBps) (hsize : 0 < s.size)
    (hcex : 0 < s.cexPrice) (hdex : 0 < s.dexPrice) (solvent : Solvent ex.inventory) :
    Solvent (ex.execute clock (simulationLegs ex.config cexElapsed dexElapsed stamp)
      s).2.1.inventory := by
  obtain ⟨base, quote, affordable⟩ :=
    affordable_of_generate emitted ok spread hsize hcex hdex
  rcases execute_cases ex clock (simulationLegs ex.config cexElapsed dexElapsed stamp) s with
    ⟨-, -, same, -⟩ | ⟨-, path, -, flow⟩
  · rw [same]
    exact solvent
  · refine flow.solvent affordable hsize.le ?_ solvent
    intro venue
    cases venue with
    | cex => exact hcex.le
    | wallet => exact hdex.le

/-- Two tokens, bought from the pool at a hundred and sold on the exchange at 103, out of a
    thousand of each. -/
theorem sample_execution_keeps_solvent :
    ∃ s, sampleEmission 103 104 = some s ∧
      ∀ cexElapsed dexElapsed, Solvent (Executor.execute
        { sampleExecutor with inventory := sampleStock } sampleClock
        (simulationLegs sampleExecutor.config cexElapsed dexElapsed 0) s).2.1.inventory := by
  have seen : (sampleEmission 103 104).map (fun s =>
      (s.size, s.cexPrice, s.dexPrice, s.inventoryOk)) = some (2, 103, 100, true) := by
    decide +kernel
  obtain ⟨s, hs, seen⟩ := Option.map_eq_some_iff.mp seen
  simp only [Prod.mk.injEq] at seen
  obtain ⟨hsize, hcex, hdex, ok⟩ := seen
  obtain ⟨g', emitted⟩ := sampleEmission_inv hs
  refine ⟨s, hs, ?_⟩
  intro cexElapsed dexElapsed
  refine inventory_check_keeps_solvent { sampleExecutor with inventory := sampleStock } sampleClock
    cexElapsed dexElapsed 0 emitted ok ?_ ?_ ?_ ?_ ?_
  · decide +kernel
  · rw [hsize]
    norm_num
  · rw [hcex]
    norm_num
  · rw [hdex]
    norm_num
  · intro k
    show (0 : ℚ) ≤ 1000
    norm_num

end ArbEngine
