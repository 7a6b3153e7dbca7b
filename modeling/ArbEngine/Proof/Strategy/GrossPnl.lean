import Mathlib.Tactic.Ring
import ArbEngine.Proof.Executor.Contexts
import ArbEngine.Proof.Strategy.Signals

/-!
# The gross profit a signal expects

A simulated execution with full fills earns the difference of the two prices on the size,
whichever way it trades (`simulated_gross`). The generator multiplies the spread with the value
of the trade on the exchange. The spread is relative to the price the trade buys at; so where
the exchange is the place to buy, the price cancels, and where it is the place to sell, the
product is too large by the ratio of the two prices (`expected_gross_eq_iff`).
-/

namespace ArbEngine

/-- The fee `calculate_pnl` takes off the gross profit of a context. -/
def ExecutionContext.flatFee (ctx : ExecutionContext) : ℚ :=
  ctx.leg1FillSize.getD 0 * ctx.leg1FillPrice.getD 0 * (2 / 1000)

/-! ## What an execution earns -/

section Simulation

variable {config : ExecutorConfig} {cexElapsed dexElapsed : ℚ} {stamp : ℕ} {signal : Signal}
  {leg : LegResult}

theorem simulateCexLeg_price {size : ℚ} (h : (simulateCexLeg stamp signal size).success = true) :
    (simulateCexLeg stamp signal size).price = signal.cexPrice := by
  unfold simulateCexLeg at h ⊢
  split at h
  · cases h
  · rename_i fails
    rw [if_neg fails]
    split <;> rfl

theorem simulateDexLeg_price {size : ℚ} (h : (simulateDexLeg signal size).success = true) :
    (simulateDexLeg signal size).price = signal.dexPrice := by
  unfold simulateDexLeg at h ⊢
  split at h
  · cases h
  · rename_i fails
    rw [if_neg fails]
    split <;> rfl

theorem simulationLegs_cex {size : Option ℚ} (success : leg.success = true)
    (h : (simulationLegs config cexElapsed dexElapsed stamp).cex signal size = some leg) :
    leg.price = signal.cexPrice := by
  change (if cexElapsed < config.leg1TimeoutSec then some _ else none) = _ at h
  split at h
  · cases h
    exact simulateCexLeg_price success
  · cases h

theorem simulationLegs_dex {size : ℚ} (success : leg.success = true)
    (h : (simulationLegs config cexElapsed dexElapsed stamp).dex signal size = some leg) :
    leg.price = signal.dexPrice := by
  change (if dexElapsed < config.leg2TimeoutSec then some _ else none) = _ at h
  split at h
  · cases h
    exact simulateDexLeg_price success
  · cases h

/-- The first leg of a simulation buys at the buying price of its signal. -/
theorem firstReply_simulated (success : leg.success = true)
    (h : firstReply (simulationLegs config cexElapsed dexElapsed stamp) signal = some leg) :
    leg.price = signal.buyPrice := by
  unfold firstReply at h
  unfold Signal.buyPrice
  cases hdir : signal.direction with
  | buyCexSellDex =>
    rw [hdir] at h
    exact simulationLegs_cex success h
  | buyDexSellCex =>
    rw [hdir] at h
    exact simulationLegs_dex success h

/-- The second leg sells at the selling price. -/
theorem secondReply_simulated {filled : ℚ} (success : leg.success = true)
    (h : secondReply (simulationLegs config cexElapsed dexElapsed stamp) signal filled =
      some leg) : leg.price = signal.sellPrice := by
  unfold secondReply at h
  unfold Signal.sellPrice
  cases hdir : signal.direction with
  | buyCexSellDex =>
    rw [hdir] at h
    exact simulationLegs_dex success h
  | buyDexSellCex =>
    rw [hdir] at h
    exact simulationLegs_cex success h

/-- **A simulated execution with full fills earns the difference of the prices**, before the
    flat fee. -/
theorem simulated_gross {ex : Executor} {clock : ExecClock}
    (full : FilledInFull signal
      (ex.execute clock (simulationLegs config cexElapsed dexElapsed stamp) signal).1) :
    (ex.execute clock (simulationLegs config cexElapsed dexElapsed stamp) signal).1.actualNetPnl =
      some (signal.size * (signal.sellPrice - signal.buyPrice) -
        (ex.execute clock (simulationLegs config cexElapsed dexElapsed stamp)
          signal).1.flatFee) := by
  obtain ⟨done, size1, -⟩ := full
  obtain ⟨leg, leg2, completes⟩ := execute_done_iff.mp done
  have settled := execute_completed completes
  have filled : leg.filled = signal.size := Option.some.inj (settled.size1.symm.trans size1)
  have bought := firstReply_simulated completes.2.takes.1 completes.2.first
  have sold := secondReply_simulated completes.2.success completes.2.second
  rw [settled.pnl, ExecutionContext.flatFee, settled.size1, settled.price1, roundTripPnl, filled,
    bought, sold]
  simp only [Option.getD_some]
  rw [mul_comm signal.size (signal.sellPrice - signal.buyPrice)]

end Simulation

/-! ## What a signal expects -/

/-- What the signal expects is the difference of its prices on its size, and what a simulated
    execution with full fills earns. -/
def ExpectsItsGross (s : Signal) : Prop :=
  s.expectedGrossPnl = s.size * (s.sellPrice - s.buyPrice) ∧
    ∀ (ex : Executor) (clock : ExecClock) (cexElapsed dexElapsed : ℚ) (stamp : ℕ),
      ex.config.simulationMode = true →
        FilledInFull s
            (ex.execute clock (simulationLegs ex.config cexElapsed dexElapsed stamp) s).1 →
          (ex.execute clock (simulationLegs ex.config cexElapsed dexElapsed stamp)
              s).1.actualNetPnl =
            some (s.expectedGrossPnl -
              (ex.execute clock (simulationLegs ex.config cexElapsed dexElapsed stamp)
                s).1.flatFee)

theorem expectsItsGross_iff {s : Signal} :
    ExpectsItsGross s ↔ s.expectedGrossPnl = s.size * (s.sellPrice - s.buyPrice) := by
  constructor
  · intro h
    exact h.1
  · intro h
    refine ⟨h, ?_⟩
    intro ex clock cexElapsed dexElapsed stamp _ full
    rw [h]
    exact simulated_gross full

/-- The gross profit a signal expects, as a share of the right one. -/
theorem Reckoned.gross_mul {fees : FeeStructure} {config : GeneratorConfig} {s : Signal}
    (h : Reckoned fees config s) :
    s.expectedGrossPnl * s.buyPrice = s.size * (s.sellPrice - s.buyPrice) * s.cexPrice := by
  have bought := h.bought
  rw [h.gross, h.spread]
  field_simp

/-- **The generator expects the right gross profit exactly where the trade buys on the
    exchange**, or where the two prices are the same. -/
theorem expected_gross_eq_iff {g g₁ g' : SignalGenerator} {env : QuoteEnv}
    {inventory : InventoryTracker} {pair : String} {size : ℚ} {p : PriceData} {s : Signal}
    (priced : g.fetchPrices env pair size = .ok (g₁, some p))
    (emitted : g.generate env inventory pair size = .ok (g', some (.signal s))) :
    ExpectsItsGross s ↔ CexIsCheaper g.config p ∨ p.dexBuy = p.cexBid := by
  obtain ⟨p', c, emits⟩ := (SignalGenerator.generate_eq_ok emitted).2 _ rfl
  obtain ⟨g₂, hp⟩ := emits.prices
  rw [priced] at hp
  cases hp
  obtain ⟨chosen, -, cheaper⟩ := chooseDirection_eq_some emits.chosen
  obtain ⟨⟨-, -, hdir, hcex⟩, hdex, -⟩ :=
    SignalGenerator.filterCandidate_eq_signal emits.filtered
  have reckoned := emits.reckoned
  have share := reckoned.gross_mul
  have bought := reckoned.bought
  have worth : s.size ≠ 0 ∧ s.cexPrice ≠ 0 := mul_ne_zero_iff.mp reckoned.value.ne'
  rw [expectsItsGross_iff]
  cases chosen with
  | buyCex =>
    change s.direction = .buyCexSellDex at hdir
    refine iff_of_true ?_ (.inl (cheaper.mp rfl))
    have hbuy : s.buyPrice = s.cexPrice := by rw [Signal.buyPrice, hdir]
    rw [hbuy] at share ⊢
    exact mul_right_cancel₀ worth.2 share
  | buyDex =>
    change s.direction = .buyDexSellCex at hdir
    change s.cexPrice = p.cexBid at hcex
    change p.dexBuy = _ at hdex
    have hbuy : s.buyPrice = s.dexPrice := by rw [Signal.buyPrice, hdir]
    have hsell : s.sellPrice = s.cexPrice := by rw [Signal.sellPrice, hdir]
    have dearer : ¬ CexIsCheaper g.config p := by
      intro h
      cases cheaper.mpr h
    rw [hbuy] at bought
    rw [hbuy, hsell] at share ⊢
    rw [or_iff_right dearer, hdex, ← hcex, XRat.fin.injEq]
    constructor
    · intro h
      rw [h] at share
      -- The price and the difference of the prices: one of the two makes no difference.
      have gap : s.size * (s.cexPrice - s.dexPrice) * (s.cexPrice - s.dexPrice) = 0 := by
        linarith
      have same : s.cexPrice - s.dexPrice = 0 := by
        rcases mul_eq_zero.mp gap with zero | zero
        · exact (mul_eq_zero.mp zero).resolve_left worth.1
        · exact zero
      exact (sub_eq_zero.mp same).symm
    · intro same
      rw [same] at share ⊢
      exact mul_right_cancel₀ worth.2 share

/-- Bought on the exchange at 97, sold to the pool at a hundred: six dollars are expected on two
    tokens. -/
theorem sample_buy_on_exchange :
    ∃ s, sampleEmission 96 97 = some s ∧ s.expectedGrossPnl = 6 ∧ ExpectsItsGross s := by
  have seen : (sampleEmission 96 97).map Signal.expectedGrossPnl = some 6 := by
    decide +kernel
  obtain ⟨s, hs, gross⟩ := Option.map_eq_some_iff.mp seen
  obtain ⟨g', emitted⟩ := sampleEmission_inv hs
  have fetched : (sampleGenerator.fetchPrices (sampleQuotes 96 97) "LINK/USDT" 2).toOption.bind
      Prod.snd = some { cexBid := 96, cexAsk := 97, dexBuy := .fin 100, dexSell := .fin 100 } := by
    decide +kernel
  obtain ⟨⟨g₁, p⟩, priced, hp⟩ := Option.bind_eq_some_iff.mp fetched
  cases hp
  refine ⟨s, hs, gross, (expected_gross_eq_iff (Outcome.toOption_eq_some.mp priced)
    emitted).mpr (.inl ?_)⟩
  decide +kernel

/-- **Bought from the pool at a hundred and sold on the exchange at 103**: 6.18 dollars are
    expected on two tokens, and a simulated execution with full fills earns six, less the flat
    fee of forty cents. -/
theorem sample_buy_from_pool :
    ∃ s ctx, sampleEmission 103 104 = some s ∧ 0 < s.size ∧ 0 < s.cexPrice ∧ 0 < s.dexPrice ∧
      (sampleExecutor.execute sampleClock (simulationLegs sampleExecutor.config 1 1 0) s).1 =
        ctx ∧
      FilledInFull s ctx ∧ s.expectedGrossPnl = 618 / 100 ∧
      ctx.actualNetPnl = some (6 - ctx.flatFee) ∧ ¬ ExpectsItsGross s := by
  have seen : (sampleEmission 103 104).map (fun s =>
      (s.size, s.cexPrice, s.dexPrice, s.expectedGrossPnl, s.sellPrice - s.buyPrice,
        decide (FilledInFull s (sampleExecutor.execute sampleClock
          (simulationLegs sampleExecutor.config 1 1 0) s).1))) =
      some (2, 103, 100, 618 / 100, 3, true) := by
    decide +kernel
  obtain ⟨s, hs, seen⟩ := Option.map_eq_some_iff.mp seen
  simp only [Prod.mk.injEq, decide_eq_true_eq] at seen
  obtain ⟨size, cexPrice, dexPrice, gross, gap, full⟩ := seen
  refine ⟨s, _, hs, ?_, ?_, ?_, rfl, full, gross, ?_, ?_⟩
  · rw [size]
    norm_num
  · rw [cexPrice]
    norm_num
  · rw [dexPrice]
    norm_num
  · rw [simulated_gross full, size, gap]
    norm_num
  · intro h
    have expected := h.1
    rw [gross, size, gap] at expected
    norm_num at expected

end ArbEngine
