import ArbEngine.Proof.Executor.Flow

/-!
# What a completed execution has hedged

`min_fill_ratio` is compared with one fill out of four: the first leg of the CEX-first flow.
`takesFirst_ratio` is what that comparison buys. The other three fills reach `Done`
unchecked, so a completed execution is hedged exactly when they happen to suffice
(`done_is_hedged_iff`). The lot size is one way in which the second leg of the DEX-first flow
does not: the CEX leg only ever asks for whole lots (`executeCexLeg_filled_le`), so a call that
got more out of the pool than the ratio leaves of a lot is `Done` without a hedge
(`not_hedged_of_lots`).
-/

namespace ArbEngine

/-- **A call that reached `Done` has filled both legs up to the configured ratio.** -/
def Hedged (ex : Executor) (clock : ExecClock) (legs : Legs) (signal : Signal) : Prop :=
  (ex.execute clock legs signal).1.state = .done →
    ∃ fill1 fill2, (ex.execute clock legs signal).1.leg1FillSize = some fill1 ∧
      (ex.execute clock legs signal).1.leg2FillSize = some fill2 ∧
      ex.config.minFillRatio * fill1 ≤ fill2 ∧ ex.config.minFillRatio * signal.size ≤ fill1

/-- The fills the code does not compare with the ratio: the second leg's in both flows, and
    the first leg's in the DEX-first flow or for a negative size. -/
def UnguardedFillsSuffice (ex : Executor) (clock : ExecClock) (legs : Legs) (signal : Signal) :
    Prop :=
  Admitted ex clock signal → ∀ leg, firstReply legs signal = some leg →
    TakesFirst ex.config signal leg → ∀ leg2, secondReply legs signal leg.filled = some leg2 →
      leg2.success = true →
        ex.config.minFillRatio * leg.filled ≤ leg2.filled ∧
          (signal.direction = .buyDexSellCex ∨ signal.size < 0 →
            ex.config.minFillRatio * signal.size ≤ leg.filled)

/-- A fill that is not below a ratio of a nonnegative size reaches it. -/
theorem le_of_fillRatioBelow {filled size ratio : ℚ} (hsize : 0 ≤ size)
    (h : fillRatioBelow filled size ratio = false) : ratio * size ≤ filled := by
  unfold fillRatioBelow at h
  by_cases hzero : size = 0
  · rw [if_pos hzero, decide_eq_false_iff_not, not_lt] at h
    rw [hzero, mul_zero]
    exact h
  · rw [if_neg hzero, decide_eq_false_iff_not, not_lt] at h
    exact (le_div_iff₀ (lt_of_le_of_ne hsize (Ne.symm hzero))).mp h

/-- What the one check in the code guarantees. -/
theorem takesFirst_ratio {config : ExecutorConfig} {signal : Signal} {leg : LegResult}
    (h : TakesFirst config signal leg)
    (hguard : ¬ (signal.direction = .buyDexSellCex ∨ signal.size < 0)) :
    config.minFillRatio * signal.size ≤ leg.filled := by
  obtain ⟨hdir, hsize⟩ := not_or.mp hguard
  have hcex : signal.direction = .buyCexSellDex := by
    cases hd : signal.direction with
    | buyCexSellDex => rfl
    | buyDexSellCex => exact absurd hd hdir
  exact le_of_fillRatioBelow (not_lt.mp hsize) (h.2 hcex)

/-- **A completed execution is hedged exactly when the unguarded fills suffice.** The fill ratio is
    checked for a first CEX leg of a size that is not negative; every other fill is unguarded, and
    nothing in the code makes it suffice. -/
theorem done_is_hedged_iff (ex : Executor) (clock : ExecClock) (legs : Legs) (signal : Signal) :
    Hedged ex clock legs signal ↔ UnguardedFillsSuffice ex clock legs signal := by
  unfold Hedged UnguardedFillsSuffice
  rcases execute_cases ex clock legs signal with
    ⟨hno, hstate, _, _⟩ | ⟨hadm, path, _, hend⟩
  · -- a call that was turned away is not done
    refine iff_of_true (fun h => ?_) (fun h => absurd h hno)
    rw [hstate] at h
    cases h
  · rcases hend.done_or_failed with
      ⟨leg, leg2, h, yes, h2, yes2, hdone, hfill1, hfill2⟩ | ⟨hfailed, refused⟩
    · rw [hfill1, hfill2]
      constructor
      · intro hhedged _ leg' hleg _ leg2' hleg2 _
        rw [h] at hleg
        cases hleg
        rw [h2] at hleg2
        cases hleg2
        obtain ⟨f1, f2, hf1, hf2, hsecond, hfirst⟩ := hhedged hdone
        cases hf1
        cases hf2
        exact ⟨hsecond, fun _ => hfirst⟩
      · intro hcond _
        obtain ⟨hsecond, hfirst⟩ := hcond hadm leg h yes leg2 h2 yes2
        refine ⟨leg.filled, leg2.filled, rfl, rfl, hsecond, ?_⟩
        -- here the ratio was checked, or the condition is about this leg
        by_cases hguard : signal.direction = .buyDexSellCex ∨ signal.size < 0
        · exact hfirst hguard
        · exact takesFirst_ratio yes hguard
    · -- a call that failed is not done either
      refine iff_of_true ?_ ?_
      · intro hdone
        rw [hfailed] at hdone
        cases hdone
      · intro _ leg hleg yes leg2 hleg2 yes2
        rw [refused leg hleg yes leg2 hleg2] at yes2
        cases yes2

/-- Two full fills are a hedge. -/
theorem sample_full_fills_hedged :
    Hedged sampleExecutor sampleClock (simulationLegs sampleExecutor.config (1 / 10) (1 / 10) 1)
      (sampleSignal .buyDexSellCex) := by
  refine (done_is_hedged_iff _ _ _ _).mpr ?_
  intro _ leg hleg _ leg2 hleg2 _
  have hfirst : firstReply (simulationLegs sampleExecutor.config (1 / 10) (1 / 10) 1)
      (sampleSignal .buyDexSellCex) = some (simulateDexLeg (sampleSignal .buyDexSellCex) 1) := by
    decide +kernel
  obtain rfl := Option.some.inj (hfirst.symm.trans hleg)
  have hsecond : secondReply (simulationLegs sampleExecutor.config (1 / 10) (1 / 10) 1)
      (sampleSignal .buyDexSellCex) (simulateDexLeg (sampleSignal .buyDexSellCex) 1).filled =
        some (simulateCexLeg 1 (sampleSignal .buyDexSellCex) 1) := by
    decide +kernel
  obtain rfl := Option.some.inj (hsecond.symm.trans hleg2)
  exact ⟨by decide +kernel, fun _ => by decide +kernel⟩

/-- The simulation's partial fills, DEX first: half of the size is bought, half of that is
    sold, and the call is `Done`. -/
theorem sample_partial_fills_not_hedged :
    ¬ Hedged sampleExecutor sampleClock (simulationLegs sampleExecutor.config (1 / 10) (1 / 10) 1)
      { sampleSignal .buyDexSellCex with pair := "PARTIAL/USDC" } := by
  intro h
  obtain ⟨f1, f2, hf1, hf2, hsecond, _⟩ := h (by decide +kernel)
  have h1 : f1 = 1 / 2 := Option.some.inj (hf1.symm.trans (by decide +kernel))
  have h2 : f2 = 1 / 4 := Option.some.inj (hf2.symm.trans (by decide +kernel))
  rw [h1, h2] at hsecond
  revert hsecond
  decide +kernel

/-! ## The lot size -/

/-- A leg that succeeds reports what the exchange says it has filled. -/
theorem cexOrderReply_filled {answer : Except String OrderResult} {leg : LegResult}
    (h : cexOrderReply answer = .ok leg) (hsucc : leg.success = true) :
    ∃ order, answer = .ok order ∧ leg.filled = order.amountFilled.human := by
  cases answer with
  | error e =>
    cases h
    cases hsucc
  | ok order =>
    obtain ⟨filled, hfilled, h⟩ := Outcome.bind_eq_ok.mp h
    refine ⟨order, rfl, ?_⟩
    cases h
    show filled = _
    unfold TokenAmount.toHuman at hfilled
    split at hfilled
    · exact (Outcome.ok.inj hfilled).symm
    · cases hfilled

/-- **The CEX leg fills whole lots only**, on an exchange that fills no more than it is asked
    for; what is left of a lot stays unhedged. -/
theorem executeCexLeg_filled_le {config : ExecutorConfig}
    {exchange : String → TradeSide → ℚ → ℚ → Except String OrderResult} {stamp : ℕ}
    {signal : Signal} {size : ℚ} {leg : LegResult} (hlive : config.simulationMode = false)
    (hfair : ∀ pair side amount price order, exchange pair side amount price = .ok order →
      order.amountFilled.human ≤ amount)
    (h : executeCexLeg config exchange stamp signal (some size) = .ok leg)
    (hsucc : leg.success = true) : leg.filled ≤ ⌊size⌋ := by
  unfold executeCexLeg at h
  rw [hlive] at h
  simp only [Bool.false_eq_true, if_false, Option.getD_some] at h
  generalize roundPrice _ priceTick = price at h
  split at h
  · cases h
    cases hsucc
  · obtain ⟨amount, hamount, h⟩ := Outcome.bind_eq_ok.mp h
    have hqty : amount = roundQuantity size lotSizeStep := by
      unfold orderAmount at hamount
      split at hamount
      · exact (Outcome.ok.inj hamount).symm
      · cases hamount
    obtain ⟨order, horder, hhuman⟩ := cexOrderReply_filled h hsucc
    rw [hhuman]
    refine le_trans (hfair _ _ _ _ _ horder) ?_
    rw [hqty, roundQuantity, lotSizeStep, div_one, mul_one]

/-- **A fill that is no whole number of lots is not hedged** where the ratio asks for more than the
    lots in it: the pool pays any amount, the exchange sells whole lots, and the call is `Done` all
    the same. The CEX leg is the live one, whether or not its answer is there in time. -/
theorem not_hedged_of_lots {ex : Executor} {clock : ExecClock} {legs : Legs} {signal : Signal}
    {exchange : String → TradeSide → ℚ → ℚ → Except String OrderResult} {stamp : ℕ}
    (live : ex.config.simulationMode = false)
    (fair : ∀ pair side amount price order, exchange pair side amount price = .ok order →
      order.amountFilled.human ≤ amount)
    (dexFirst : signal.direction = .buyDexSellCex)
    (cexLeg : ∀ filled leg, legs.cex signal (some filled) = some leg →
      executeCexLeg ex.config exchange stamp signal (some filled) = .ok leg)
    (short : ∀ leg, firstReply legs signal = some leg →
      (⌊leg.filled⌋ : ℚ) < ex.config.minFillRatio * leg.filled)
    (done : (ex.execute clock legs signal).1.state = .done) : ¬Hedged ex clock legs signal := by
  intro hedged
  obtain ⟨fill1, fill2, hfill1, hfill2, ratio, -⟩ := hedged done
  rcases execute_cases ex clock legs signal with ⟨_, hstate, _, _⟩ | ⟨_, path, _, hend⟩
  · rw [hstate] at done
    cases done
  · rcases hend.done_or_failed with
      ⟨leg, leg2, hfirst, _, hsecond, success, _, taken1, taken2⟩ | ⟨hfailed, _⟩
    · obtain rfl := Option.some.inj (hfill1.symm.trans taken1)
      obtain rfl := Option.some.inj (hfill2.symm.trans taken2)
      rw [secondReply, dexFirst] at hsecond
      have lots := executeCexLeg_filled_le live fair (cexLeg _ _ hsecond) success
      linarith [short leg hfirst]
    · rw [hfailed] at done
      cases done

end ArbEngine
