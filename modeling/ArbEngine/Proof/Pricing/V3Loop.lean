import ArbEngine.Proof.Pricing.V3Route

/-!
# When the V3 swap loop ends

The loop follows the route for one pass (`ends_iff_endsFrom_onePass`). If the route absorbs
the input, or a step on it panics, that pass is the whole run. Otherwise the swap stands at
the boundary price with input left over — and there is no branch for that: the next tick is
once more the boundary, the step towards it goes from a price to itself and takes nothing,
and the condition of the loop looks only at the input that is left.

What can still happen at the boundary depends on the two conversions. With the `f64` code of
the source the price of the boundary saturates (upwards) or is hit exactly (downwards), so
any tick the swap can meet again has the boundary's own price. `BoundaryFlat` says that; it
is needed for the runs that do not end and for nothing else.
-/

namespace ArbEngine
namespace UniswapV3Pool

/-! ## The first pass -/

/-- **The loop follows the route**, and goes on from where the pass ends. By induction on the ticks
    ahead: the loop looks for its next tick anew in every iteration and finds the head of the
    route, and crossing that tick leaves the rest of it. -/
theorem ends_iff_endsFrom_onePass {m : TickMath} {p : UniswapV3Pool} {z : Bool} {ks : List ℤ}
    {s : SwapState} {o : Outcome SwapState} (hks : p.ticksAhead z s.tick = ks)
    (h0 : 0 ≤ s.amountSpecifiedRemaining) (hlt : s.amountSpecifiedRemaining < 2 ^ 127) :
    Loop.Ends inputLeft (swapBody m p z) s o ↔
      Loop.EndsFrom inputLeft (swapBody m p z) (onePass m p z ks s) o := by
  induction ks generalizing s with
  | nil =>
    cases hin : inputLeft s with
    | false =>
      rw [onePass_of_not hin]
      exact Iff.rfl
    | true =>
      rw [Loop.ends_iff hin, onePass, if_pos hin, swapBody, getNextTick_eq, hks]
  | cons k ks ih =>
    cases hin : inputLeft s with
    | false =>
      rw [onePass_of_not hin]
      exact Iff.rfl
    | true =>
      rw [Loop.ends_iff hin, onePass, if_pos hin, swapBody, getNextTick_eq, hks]
      dsimp only
      cases hstep : swapIteration m p z (k, true) s with
      | err msg => exact Iff.rfl
      | panic => exact Iff.rfl
      | ok u =>
        obtain ⟨hit, c, hc, hcases⟩ := swapIteration_cases h0 hlt hstep
        rw [Outcome.ok_bind]
        rcases hcases with ⟨_, hzero⟩ | ⟨_, _, harr⟩
        · rw [onePass_of_not (inputLeft_eq_false.mpr hzero.le)]
        · obtain ⟨htick, _⟩ := harr.crossing rfl
          refine ih ?_ hit.nonneg (lt_of_le_of_lt hit.remaining_le hlt)
          rw [htick]
          exact ticksAhead_tickAfter hks

/-! ## At the boundary -/

/-- Every tick that is still ahead of the boundary price has that price. -/
def BoundaryFlat (m : TickMath) (p : UniswapV3Pool) (z : Bool) : Prop :=
  ∀ k ∈ p.ticks.keys, Beyond z (m.tickAtRatio (m.ratioAtTick (boundaryTick z))) k →
    m.ratioAtTick k = m.ratioAtTick (boundaryTick z) ∧ -2 ^ 31 < k ∧ k < 2 ^ 31

/-- Within the range of the tick type crossing never fails. -/
theorem crossTick_of_range {z : Bool} {k : ℤ} (hlo : -2 ^ 31 < k) (hhi : k < 2 ^ 31) :
    crossTick z k = .ok (tickAfter z k) := by
  cases z with
  | true =>
    simp only [crossTick, tickAfter, if_true, toI32]
    rw [if_pos ⟨by omega, by omega⟩]
  | false => rfl

/-- What is ahead after a crossing was ahead before it. -/
theorem beyond_of_tickAfter {z : Bool} {tick k j : ℤ} (hk : Beyond z tick k)
    (hj : Beyond z (tickAfter z k) j) : Beyond z tick j := by
  cases z <;> simp only [Beyond, tickAfter, if_true, if_false, Bool.false_eq_true] at hk hj ⊢ <;>
    omega

/-- **At the boundary an iteration changes nothing that matters.** The step towards the boundary
    price starts from that price, so it needs no input and takes none, and the price and the
    remaining input are what they were. The ticks it may still cross have this very price. -/
theorem atBoundary_keeps {m : TickMath} {p : UniswapV3Pool} {z : Bool} {s : SwapState}
    (hflat : BoundaryFlat m p z) (h : AtBoundary m p z s) :
    ∃ t, swapBody m p z s = .ok t ∧ AtBoundary m p z t := by
  have hstay := computeSwapStep_stay s.liquidity h.left.le h.lt h.price_pos h.fee
    h.fits
  have hpaid : Word.checkedAdd 0#128 0#128 = some 0#128 := by decide
  have hzero : (0#128).toInt = 0 := by decide
  have hrem : toI128 (s.amountSpecifiedRemaining - 0) = .ok s.amountSpecifiedRemaining := by
    have hrange : InI128 s.amountSpecifiedRemaining := ⟨by have := h.left; omega, h.lt⟩
    rw [sub_zero, toI128_eq_ok]
    exact ⟨hrange, rfl⟩
  have hcalc : toI128 (s.amountCalculated + 0) = .ok s.amountCalculated := by
    rw [add_zero, toI128_eq_ok]
    exact ⟨h.calculated, rfl⟩
  -- The next tick is one with the boundary's price, or the boundary itself.
  have hstep : ∀ next : ℤ × Bool, m.ratioAtTick next.1 = m.ratioAtTick (boundaryTick z) →
      swapIteration m p z next s =
        if next.2 = true then do
          let tick ← crossTick z next.1
          return { s with tick := tick, liquidity := p.crossed next.1 s.liquidity }
        else
          return { s with tick := m.tickAtRatio (m.ratioAtTick (boundaryTick z)) } := by
    intro next hnext
    have hprice : s.sqrtPriceX96 = (m.ratioAtTick next.1).setWidth 256 := by
      rw [h.price, hnext, ratio]
    have hback : getTickAtSqrtRatio m s.sqrtPriceX96 =
        .ok (m.tickAtRatio (m.ratioAtTick (boundaryTick z))) := by
      rw [h.price, getTickAtSqrtRatio_ratio]
    have hself : computeSwapStep s.sqrtPriceX96 s.sqrtPriceX96 s.liquidity
        s.amountSpecifiedRemaining p.fee = .ok (s.sqrtPriceX96, 0#128, 0#128, 0#128) := by
      rw [h.price]
      exact hstay
    unfold swapIteration getSqrtRatioAtTick
    rw [← hprice]
    simp only [Outcome.ok_bind, hself, hpaid, Outcome.unwrap_some, hzero, hrem, hcalc, hback,
      true_and]
    rfl
  unfold swapBody
  rw [getNextTick_eq]
  cases hahead : p.ticksAhead z s.tick with
  | nil =>
    dsimp only
    rw [hstep (boundaryTick z, false) rfl]
    refine ⟨_, rfl, ⟨h.price, h.price_pos, fun k hk => hk, h.left, h.lt, h.calculated, h.fee,
      h.fits⟩⟩
  | cons k ks =>
    obtain ⟨hmem, hbeyond⟩ := mem_ticksAhead_iff.mp (hahead ▸ List.mem_cons_self : k ∈ _)
    obtain ⟨hprice, hlo, hhi⟩ := hflat k hmem (h.tick k hbeyond)
    dsimp only
    rw [hstep (k, true) hprice]
    simp only [if_true, crossTick_of_range hlo hhi, Outcome.ok_bind]
    exact ⟨_, rfl, ⟨h.price, h.price_pos,
      fun j hj => h.tick j (beyond_of_tickAfter hbeyond hj), h.left, h.lt, h.calculated, h.fee,
      h.fits⟩⟩

/-- **A swap that gets to the boundary with input left never returns.** Being there is an invariant
    of the loop, and it implies the loop's condition. -/
theorem not_halts_of_atBoundary {m : TickMath} {p : UniswapV3Pool} {z : Bool} {s : SwapState}
    (hflat : BoundaryFlat m p z) (h : AtBoundary m p z s) :
    ¬ Loop.Halts inputLeft (swapBody m p z) s :=
  Loop.not_halts_of_invariant (AtBoundary m p z) (fun _ hs => atBoundary_keeps hflat hs)
    (fun _ hs => inputLeft_iff.mpr hs.left) h

/-! ## The whole call -/

section Call

variable (m : TickMath) (p : UniswapV3Pool) (amountIn : U256) (tokenIn : Token)

/-- The loop of the call performs finitely many iterations. -/
def Terminates : Prop := ∃ fuel r, getAmountOut m p fuel amountIn tokenIn = some r

/-- The call returns `Ok` or `Err`. -/
def Returns : Prop := ∃ fuel r, getAmountOut m p fuel amountIn tokenIn = some r ∧ r ≠ .panic

/-- **The liquidity on the route takes the whole input.** -/
def Absorbed : Prop :=
  Absorbs p.fee
    (routeCapacities m p (p.zeroForOne tokenIn) (p.ticksAhead (p.zeroForOne tokenIn) p.tick)
      p.sqrtPriceX96 p.liquidity) amountIn.toNat

/-- The pass from the pool's own state. -/
def passFromStart : Outcome SwapState :=
  onePass m p (p.zeroForOne tokenIn) (p.ticksAhead (p.zeroForOne tokenIn) p.tick)
    (p.startState amountIn.toNat)

/-- **A step on the route panics**, or the total cannot be converted at the end of it. -/
def Overflows : Prop :=
  (passFromStart m p amountIn tokenIn >>= fun s =>
    if inputLeft s then .ok 0#256 else u256FromI128 s.amountCalculated) = .panic

end Call

section Call

variable {m : TickMath} {p : UniswapV3Pool} {amountIn : U256} {tokenIn : Token}

/-- An answer of the call is an outcome of its loop, converted at the end. The two guards of the
    call are behind it: there is an input, and the input is a positive `i128`. -/
theorem getAmountOut_eq_some_iff (hne : amountIn ≠ 0#256) (hamt : amountIn.toNat < 2 ^ 127)
    {fuel : ℕ} {r : Outcome U256} :
    getAmountOut m p fuel amountIn tokenIn = some r ↔
      ∃ o, Loop.run inputLeft (swapBody m p (p.zeroForOne tokenIn)) fuel
          (p.startState amountIn.toNat) = some o ∧
        (o >>= fun s => u256FromI128 s.amountCalculated) = r := by
  have hi : toI128 amountIn.toNat = .ok (amountIn.toNat : ℤ) :=
    toI128_eq_ok.mpr ⟨⟨by omega, by omega⟩, rfl⟩
  unfold getAmountOut
  rw [if_neg hne, hi]
  simp only [Option.map_eq_some_iff]

/-- So the call terminates exactly where its loop does, -/
theorem terminates_iff_halts (hne : amountIn ≠ 0#256) (hamt : amountIn.toNat < 2 ^ 127) :
    Terminates m p amountIn tokenIn ↔
      Loop.Halts inputLeft (swapBody m p (p.zeroForOne tokenIn)) (p.startState amountIn.toNat) := by
  constructor
  · rintro ⟨fuel, r, h⟩
    obtain ⟨o, ho, _⟩ := (getAmountOut_eq_some_iff hne hamt).mp h
    exact ⟨o, fuel, ho⟩
  · rintro ⟨o, fuel, ho⟩
    exact ⟨fuel, _, (getAmountOut_eq_some_iff hne hamt).mpr ⟨o, ho, rfl⟩⟩

/-- and it returns where the loop ends without a panic, in the conversion included. -/
theorem returns_iff_ends (hne : amountIn ≠ 0#256) (hamt : amountIn.toNat < 2 ^ 127) :
    Returns m p amountIn tokenIn ↔
      ∃ o, Loop.Ends inputLeft (swapBody m p (p.zeroForOne tokenIn))
          (p.startState amountIn.toNat) o ∧
        (o >>= fun s => u256FromI128 s.amountCalculated) ≠ .panic := by
  constructor
  · rintro ⟨fuel, r, h, hr⟩
    obtain ⟨o, ho, rfl⟩ := (getAmountOut_eq_some_iff hne hamt).mp h
    exact ⟨o, ⟨fuel, ho⟩, hr⟩
  · rintro ⟨o, ⟨fuel, ho⟩, hr⟩
    exact ⟨fuel, _, (getAmountOut_eq_some_iff hne hamt).mpr ⟨o, ho, rfl⟩, hr⟩

/-- The three ways a pass from the start can end, and what each means for the loop. -/
theorem passFromStart_cases (m : TickMath) (p : UniswapV3Pool) (amountIn : U256)
    (tokenIn : Token) (hamt : amountIn.toNat < 2 ^ 127) :
    (passFromStart m p amountIn tokenIn = .panic ∧
        ∀ o, Loop.Ends inputLeft (swapBody m p (p.zeroForOne tokenIn))
          (p.startState amountIn.toNat) o ↔ o = .panic) ∨
      (∃ t, passFromStart m p amountIn tokenIn = .ok t ∧ inputLeft t = false ∧
        Absorbed m p amountIn tokenIn ∧
        ∀ o, Loop.Ends inputLeft (swapBody m p (p.zeroForOne tokenIn))
          (p.startState amountIn.toNat) o ↔ o = .ok t) ∨
      (∃ t, passFromStart m p amountIn tokenIn = .ok t ∧ inputLeft t = true ∧
        ¬ Absorbed m p amountIn tokenIn ∧ AtBoundary m p (p.zeroForOne tokenIn) t ∧
        ∀ o, Loop.Ends inputLeft (swapBody m p (p.zeroForOne tokenIn))
            (p.startState amountIn.toNat) o ↔
          Loop.Ends inputLeft (swapBody m p (p.zeroForOne tokenIn)) t o) := by
  -- the pass starts with the whole input, which is a small `i128`
  have h0 : 0 ≤ (p.startState amountIn.toNat).amountSpecifiedRemaining := Int.natCast_nonneg _
  have hlt : (p.startState amountIn.toNat).amountSpecifiedRemaining < 2 ^ 127 := by
    show (amountIn.toNat : ℤ) < 2 ^ 127
    exact_mod_cast hamt
  have hsim := fun o => ends_iff_endsFrom_onePass (m := m) (z := p.zeroForOne tokenIn) (o := o)
    (rfl : p.ticksAhead (p.zeroForOne tokenIn) (p.startState amountIn.toNat).tick = _) h0 hlt
  cases hpass : passFromStart m p amountIn tokenIn with
  | panic =>
    refine Or.inl ⟨rfl, fun o => ?_⟩
    rw [hsim o]
    change Loop.EndsFrom _ _ (passFromStart m p amountIn tokenIn) o ↔ _
    rw [hpass]
    exact Iff.rfl
  | err msg => exact absurd hpass (noErr_onePass msg)
  | ok t =>
    have habs := onePass_absorbs h0 hlt hpass
    have hends : ∀ o, Loop.Ends inputLeft (swapBody m p (p.zeroForOne tokenIn))
        (p.startState amountIn.toNat) o ↔
          Loop.Ends inputLeft (swapBody m p (p.zeroForOne tokenIn)) t o := by
      intro o
      rw [hsim o]
      change Loop.EndsFrom _ _ (passFromStart m p amountIn tokenIn) o ↔ _
      rw [hpass]
      exact Iff.rfl
    cases hin : inputLeft t with
    | false =>
      refine Or.inr (Or.inl ⟨t, rfl, hin, habs.mp (inputLeft_eq_false.mp hin), fun o => ?_⟩)
      rw [hends o]
      exact Loop.ends_of_not_iff hin
    | true =>
      have hleft := inputLeft_iff.mp hin
      refine Or.inr (Or.inr ⟨t, rfl, hin, fun h => ?_, ?_, hends⟩)
      · exact absurd (habs.mpr h) (not_le.mpr hleft)
      · exact onePass_atBoundary h0 hlt hpass hleft

end Call

/-- **The swap loop ends exactly when the route absorbs the input**, or a panic stops it on
    the way. The first half holds of every pair of monotone conversions; the second needs the
    boundary price to be flat, and then also tells the calls that return from those that
    panic. -/
theorem swapLoop_terminates_iff (m : TickMath) (p : UniswapV3Pool) (amountIn : U256)
    (tokenIn : Token) (hamt : amountIn.toNat < 2 ^ 127) :
    (Absorbed m p amountIn tokenIn ∨ Overflows m p amountIn tokenIn →
        Terminates m p amountIn tokenIn) ∧
      (BoundaryFlat m p (p.zeroForOne tokenIn) →
        (Terminates m p amountIn tokenIn ↔
            Absorbed m p amountIn tokenIn ∨ Overflows m p amountIn tokenIn) ∧
          (Returns m p amountIn tokenIn ↔
            Absorbed m p amountIn tokenIn ∧ ¬ Overflows m p amountIn tokenIn)) := by
  by_cases hne : amountIn = 0#256
  · -- Nothing to swap: the call answers before the loop.
    subst hne
    have hcall : getAmountOut m p 0 0#256 tokenIn = some (.ok 0#256) := rfl
    have hdone : inputLeft (p.startState ((0#256).toNat : ℤ)) = false := rfl
    have habs : Absorbed m p 0#256 tokenIn := absorbs_of_le (le_refl _)
    have hover : ¬ Overflows m p 0#256 tokenIn := by
      unfold Overflows passFromStart
      rw [onePass_of_not hdone, Outcome.ok_bind, hdone]
      intro h
      cases h
    have hterm : Terminates m p 0#256 tokenIn := ⟨0, _, hcall⟩
    have hret : Returns m p 0#256 tokenIn := ⟨0, _, hcall, by simp⟩
    exact ⟨fun _ => hterm, fun _ => ⟨iff_of_true hterm (Or.inl habs),
      iff_of_true hret ⟨habs, hover⟩⟩⟩
  · rw [terminates_iff_halts hne hamt, returns_iff_ends hne hamt]
    -- the three ends of the first pass
    rcases passFromStart_cases m p amountIn tokenIn hamt with
      ⟨hpass, hends⟩ | ⟨t, hpass, hin, habs, hends⟩ | ⟨t, hpass, hin, habs, hat, hends⟩
    · have hover : Overflows m p amountIn tokenIn := by
        unfold Overflows
        rw [hpass, Outcome.panic_bind]
      have hhalt : Loop.Halts inputLeft (swapBody m p (p.zeroForOne tokenIn))
          (p.startState amountIn.toNat) := ⟨_, (hends _).mpr rfl⟩
      refine ⟨fun _ => hhalt, fun _ => ⟨iff_of_true hhalt (Or.inr hover), ?_⟩⟩
      refine iff_of_false ?_ (fun h => h.2 hover)
      rintro ⟨o, ho, hr⟩
      rw [(hends o).mp ho] at hr
      exact hr rfl
    · have hhalt : Loop.Halts inputLeft (swapBody m p (p.zeroForOne tokenIn))
          (p.startState amountIn.toNat) := ⟨_, (hends _).mpr rfl⟩
      have hover : Overflows m p amountIn tokenIn ↔ u256FromI128 t.amountCalculated = .panic := by
        unfold Overflows
        rw [hpass, Outcome.ok_bind, hin]
        exact Iff.rfl
      refine ⟨fun _ => hhalt, fun _ => ⟨iff_of_true hhalt (Or.inl habs), ?_⟩⟩
      rw [hover]
      constructor
      · rintro ⟨o, ho, hr⟩
        rw [(hends o).mp ho] at hr
        exact ⟨habs, hr⟩
      · rintro ⟨_, hr⟩
        exact ⟨_, (hends _).mpr rfl, hr⟩
    · have hover : ¬ Overflows m p amountIn tokenIn := by
        unfold Overflows
        rw [hpass, Outcome.ok_bind, hin]
        intro h
        cases h
      refine ⟨fun h => absurd h (not_or.mpr ⟨habs, hover⟩), fun hflat => ?_⟩
      have hnot := not_halts_of_atBoundary hflat hat
      refine ⟨iff_of_false ?_ (not_or.mpr ⟨habs, hover⟩), iff_of_false ?_ (fun h => habs h.1)⟩
      · rintro ⟨o, ho⟩
        exact hnot ⟨o, (hends o).mp ho⟩
      · rintro ⟨o, ho, _⟩
        exact hnot ⟨o, (hends o).mp ho⟩

/-! ## Two pools as `from_chain` builds them -/

/-- Step functions through the values the `f64` code has at the ticks and prices met below:
    the price of tick 0 is `2^96`, and from tick 443637 on the price saturates. -/
def stepMath : TickMath where
  ratioAtTick t :=
    if t < 0 then 4295128738#128 else if t < 443637 then 1#128 <<< 96 else BitVec.allOnes 128
  tickAtRatio q :=
    if q < 1#128 <<< 96 then -887272 else if q < BitVec.allOnes 128 then 0 else 443636
  ratio_mono := by
    intro s t hst
    split_ifs <;> first | decide | omega
  tick_mono := by
    intro q r hqr
    rw [BitVec.le_def] at hqr
    simp only [BitVec.lt_def]
    split_ifs <;> omega

/-- A pool at price 1 without any initialised tick. -/
def tickless (liquidity : U128) : UniswapV3Pool where
  address := 0x9#160
  token0 := { address := 0x1#160, decimals := 18, symbol := "WETH" }
  token1 := { address := 0x2#160, decimals := 6, symbol := "USDC" }
  liquidity := liquidity
  sqrtPriceX96 := 1#256 <<< 96
  tick := 0
  fee := 3000#32
  tickSpacing := 60
  ticks := ∅

/-- With liquidity the pool absorbs 1000 units of its second token and answers, within its first
    segment. -/
theorem tickless_returns :
    Terminates stepMath (tickless 1000000000000000000#128) 1000#256
        (tickless 1000000000000000000#128).token1 ∧
      Returns stepMath (tickless 1000000000000000000#128) 1000#256
        (tickless 1000000000000000000#128).token1 := by
  have hflat : BoundaryFlat stepMath (tickless 1000000000000000000#128)
      ((tickless 1000000000000000000#128).zeroForOne
        (tickless 1000000000000000000#128).token1) := by
    intro k hk
    cases hk
  have h := swapLoop_terminates_iff stepMath (tickless 1000000000000000000#128) 1000#256
    (tickless 1000000000000000000#128).token1 (by decide)
  have habs : Absorbed stepMath (tickless 1000000000000000000#128) 1000#256
      (tickless 1000000000000000000#128).token1 := by
    unfold Absorbed
    decide +kernel
  have hover : ¬ Overflows stepMath (tickless 1000000000000000000#128) 1000#256
      (tickless 1000000000000000000#128).token1 := by
    unfold Overflows
    decide +kernel
  exact ⟨h.1 (Or.inl habs), ((h.2 hflat).2).mpr ⟨habs, hover⟩⟩

/-- Without liquidity it loops for ever at the boundary price: no segment of the route takes
    anything. -/
theorem tickless_empty_not_terminates :
    ¬ Terminates stepMath (tickless 0#128) 1000#256 (tickless 0#128).token1 := by
  have hflat : BoundaryFlat stepMath (tickless 0#128)
      ((tickless 0#128).zeroForOne (tickless 0#128).token1) := by
    intro k hk
    cases hk
  rw [terminates_iff_halts (by decide) (by decide)]
  rintro ⟨o, ho⟩
  rcases passFromStart_cases stepMath (tickless 0#128) 1000#256 (tickless 0#128).token1
    (by decide) with
    ⟨hpass, _⟩ | ⟨t, _, _, habs, _⟩ | ⟨t, _, _, _, hat, hends⟩
  · revert hpass
    decide +kernel
  · revert habs
    unfold Absorbed
    decide +kernel
  · exact not_halts_of_atBoundary hflat hat ⟨o, (hends o).mp ho⟩

end UniswapV3Pool
end ArbEngine
