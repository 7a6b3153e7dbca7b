import ArbEngine.Proof.Pricing.V3Step

/-!
# The route of a swap

A swap meets the initialised ticks of its direction one after another (`ticksAhead`) and
then the boundary. `onePass` runs the body of the loop along that route, every tick once and
the boundary once; it is a recursion over the list of ticks, so it always ends.

What the segments of the route can take is known without running anything:
`routeCapacities` reads it off the prices and the liquidity, and `Absorbs` pays for one
segment after another until the input is used up or the route ends. `onePass_absorbs` says
that the two agree wherever the pass does not panic.
-/

namespace ArbEngine
namespace UniswapV3Pool

/-! ## Ticks ahead -/

/-- `k` is still ahead of a swap at `tick`. -/
def Beyond (zeroForOne : Bool) (tick k : ℤ) : Prop :=
  if zeroForOne then k ≤ tick else tick < k

instance (zeroForOne : Bool) (tick k : ℤ) : Decidable (Beyond zeroForOne tick k) := by
  unfold Beyond
  infer_instance

/-- The initialised ticks in the order in which the swap meets them. -/
def ticksInOrder (p : UniswapV3Pool) (zeroForOne : Bool) : List ℤ :=
  if zeroForOne then (p.ticks.keys.insertionSort (· ≤ ·)).reverse
  else p.ticks.keys.insertionSort (· ≤ ·)

/-- The initialised ticks that a swap at this tick has still to meet, in its order. -/
def ticksAhead (p : UniswapV3Pool) (zeroForOne : Bool) (tick : ℤ) : List ℤ :=
  (p.ticksInOrder zeroForOne).filter (Beyond zeroForOne tick ·)

/-- The tick the pool is at once it has crossed `k`. -/
def tickAfter (zeroForOne : Bool) (k : ℤ) : ℤ := if zeroForOne then k - 1 else k

/-- Once a tick is crossed, what is ahead is what lies strictly behind it. -/
theorem beyond_tickAfter_iff {z : Bool} {k j : ℤ} :
    Beyond z (tickAfter z k) j ↔ if z then j < k else k < j := by
  cases z
  · simp [Beyond, tickAfter]
  · show j ≤ k - 1 ↔ j < k
    exact Int.le_sub_one_iff

/-- The ticks ahead are the initialised ones in the direction of the swap. -/
theorem mem_ticksAhead_iff {p : UniswapV3Pool} {z : Bool} {tick k : ℤ} :
    k ∈ p.ticksAhead z tick ↔ k ∈ p.ticks.keys ∧ Beyond z tick k := by
  cases z <;> simp [ticksAhead, ticksInOrder]

/-- **The next tick is the first one ahead**, or the boundary if there is none. The source searches
    its keys anew in every iteration; here the search is the head of one list. -/
theorem getNextTick_eq (p : UniswapV3Pool) (z : Bool) (tick : ℤ) :
    p.getNextTick tick z =
      match p.ticksAhead z tick with
      | [] => (boundaryTick z, false)
      | k :: _ => (k, true) := by
  cases z with
  | true =>
    have hfind : (p.ticks.keys.insertionSort (· ≤ ·)).reverse.find? (· ≤ tick) =
        (p.ticksAhead true tick).head? := by
      rw [ticksAhead, List.head?_filter]
      rfl
    simp only [getNextTick, if_true, hfind]
    cases p.ticksAhead true tick <;> rfl
  | false =>
    have hfind : (p.ticks.keys.insertionSort (· ≤ ·)).find? (tick < ·) =
        (p.ticksAhead false tick).head? := by
      rw [ticksAhead, List.head?_filter]
      rfl
    simp only [getNextTick, Bool.false_eq_true, if_false, hfind]
    cases p.ticksAhead false tick <;> rfl

/-- In a strictly sorted list, what follows the first element that satisfies an upward-closed
    predicate is what lies strictly above that element. By induction on the list, up to that
    element and then at once. -/
theorem filter_above_head {α : Type} {r : α → α → Prop} [DecidableRel r]
    (irrefl : ∀ a, ¬ r a a) (trans : ∀ {a b c}, r a b → r b c → r a c) {P : α → Bool}
    (up : ∀ {a b}, r a b → P a → P b) {l : List α} (hl : l.Pairwise r) {k : α} {rest : List α}
    (h : l.filter P = k :: rest) : l.filter (r k ·) = rest := by
  induction l with
  | nil => simp at h
  | cons x xs ih =>
    obtain ⟨hx, hxs⟩ := List.pairwise_cons.mp hl
    by_cases hP : P x = true
    · -- `x` is the first such element: everything after it satisfies both predicates.
      rw [List.filter_cons_of_pos hP] at h
      obtain ⟨rfl, hrest⟩ := List.cons.inj h
      have hall : xs.filter P = xs :=
        List.filter_eq_self.mpr fun y hy => up (hx y hy) hP
      have habove : xs.filter (r x ·) = xs :=
        List.filter_eq_self.mpr fun y hy => by simpa using hx y hy
      rw [List.filter_cons_of_neg (by simpa using irrefl x), habove, ← hrest, hall]
    · rw [List.filter_cons_of_neg hP] at h
      have hk : k ∈ xs := (List.mem_filter.mp (h ▸ List.mem_cons_self)).1
      have hnot : ¬ r k x := fun hkx => irrefl x (trans (hx k hk) hkx)
      rw [List.filter_cons_of_neg (by simpa using hnot)]
      exact ih hxs h

/-- The keys of a map are distinct, so their order is strict. -/
theorem ticksInOrder_pairwise (p : UniswapV3Pool) (z : Bool) :
    (p.ticksInOrder z).Pairwise fun j k => if z then k < j else j < k := by
  have hnodup : (p.ticks.keys.insertionSort (· ≤ ·)).Nodup :=
    (List.perm_insertionSort (· ≤ ·) _).nodup_iff.mpr p.ticks.keys_nodup
  have hsorted : (p.ticks.keys.insertionSort (· ≤ ·)).Pairwise (· < ·) := by
    refine (List.Pairwise.and (List.pairwise_insertionSort (· ≤ ·) _) hnodup).imp ?_
    intro j k hjk
    exact lt_of_le_of_ne hjk.1 hjk.2
  cases z with
  | true => simpa [ticksInOrder, List.pairwise_reverse] using hsorted
  | false => simpa [ticksInOrder] using hsorted

/-- **Crossing a tick takes it off the route.** -/
theorem ticksAhead_tickAfter {p : UniswapV3Pool} {z : Bool} {tick k : ℤ} {rest : List ℤ}
    (h : p.ticksAhead z tick = k :: rest) : p.ticksAhead z (tickAfter z k) = rest := by
  have hsorted := p.ticksInOrder_pairwise z
  -- the order is that of the direction, upwards or downwards
  have hfilter := filter_above_head (r := fun j k => if z then k < j else j < k)
    (P := (Beyond z tick ·)) (fun a => by simp) (fun {a b c} hab hbc => by
      cases z
      · exact lt_trans (by simpa using hab) (by simpa using hbc)
      · exact lt_trans (by simpa using hbc) (by simpa using hab))
    (fun {a b} hab ha => by
      cases z
      · simp only [Beyond, Bool.false_eq_true, if_false, decide_eq_true_eq] at hab ha ⊢
        omega
      · simp only [Beyond, if_true, decide_eq_true_eq] at hab ha ⊢
        omega) hsorted h
  rw [← hfilter, ticksAhead]
  congr 1
  funext j
  rw [decide_eq_decide]
  exact beyond_tickAfter_iff

/-! ## One iteration -/

/-- The price of a tick, as the loop holds it. -/
def ratio (m : TickMath) (tick : ℤ) : U256 := (m.ratioAtTick tick).setWidth 256

/-- The liquidity after crossing the initialised tick `k`. -/
def crossed (p : UniswapV3Pool) (k : ℤ) (liquidity : U128) : U128 :=
  crossLiquidity liquidity ((p.ticks.lookup k).getD default).liquidityNet

/-- The range an `i128` total has to stay in. -/
def InI128 (z : ℤ) : Prop := -2 ^ 127 ≤ z ∧ z < 2 ^ 127

/-- The conversion answers within the range of the type, with the number itself. -/
theorem toI128_eq_ok {z y : ℤ} : toI128 z = .ok y ↔ InI128 z ∧ y = z := by
  unfold toI128 InI128
  by_cases h : -2 ^ 127 ≤ z ∧ z < 2 ^ 127
  · rw [if_pos h]
    exact ⟨fun hy => ⟨h, (Outcome.ok.inj hy).symm⟩, fun hy => by rw [hy.2]⟩
  · rw [if_neg h]
    exact ⟨fun hy => (by cases hy), fun hy => absurd hy.1 h⟩

/-- Crossing downwards leaves the pool one tick below, unless that is below all ticks. -/
theorem crossTick_eq_ok {z : Bool} {k tick : ℤ} (h : crossTick z k = .ok tick) :
    tick = tickAfter z k := by
  cases z with
  | true =>
    simp only [crossTick, if_true, toI32] at h
    split at h
    · exact (Outcome.ok.inj h).symm
    · cases h
  | false => exact (Outcome.ok.inj h).symm

/-- The tick of the price of a tick, which need not be the tick itself: both directions go through
    floating point. -/
theorem getTickAtSqrtRatio_ratio (m : TickMath) (tick : ℤ) :
    getTickAtSqrtRatio m (ratio m tick) = .ok (m.tickAtRatio (m.ratioAtTick tick)) := by
  unfold getTickAtSqrtRatio ratio
  rw [toU128_setWidth, Outcome.ok_bind, Outcome.pure_eq_ok]

/-- What an iteration leaves behind that moved the price all the way to its next tick. -/
structure Arrived (m : TickMath) (p : UniswapV3Pool) (z : Bool) (next : ℤ × Bool)
    (s t : SwapState) : Prop where
  price : t.sqrtPriceX96 = ratio m next.1
  crossing : next.2 = true →
    t.tick = tickAfter z next.1 ∧ t.liquidity = p.crossed next.1 s.liquidity
  boundary : next.2 = false →
    t.tick = m.tickAtRatio (m.ratioAtTick next.1) ∧ t.liquidity = s.liquidity

/-- What every successful iteration leaves behind. -/
structure Iterated (p : UniswapV3Pool) (s t : SwapState) : Prop where
  fee : p.fee.toNat ≤ 1000000
  fits : s.amountSpecifiedRemaining.toNat * (1000000 - p.fee.toNat) < 2 ^ 128
  calculated : InI128 t.amountCalculated
  nonneg : 0 ≤ t.amountSpecifiedRemaining
  remaining_le : t.amountSpecifiedRemaining ≤ s.amountSpecifiedRemaining

/-- **Everything a successful iteration does**: it uses the input up, or it arrives. The step says
    how much it takes (`computeSwapStep_cases`); arriving, the iteration crosses the tick or reads
    the tick off the price. -/
theorem swapIteration_cases {m : TickMath} {p : UniswapV3Pool} {z : Bool} {next : ℤ × Bool}
    {s t : SwapState} (h0 : 0 ≤ s.amountSpecifiedRemaining)
    (hlt : s.amountSpecifiedRemaining < 2 ^ 127) (h : swapIteration m p z next s = .ok t) :
    Iterated p s t ∧
      ∃ c, amountInMax s.sqrtPriceX96 (ratio m next.1) (s.liquidity.setWidth 256) = .ok c ∧
        ((lessFeeOf p.fee s.amountSpecifiedRemaining.toNat < c.toNat ∧
            t.amountSpecifiedRemaining = 0) ∨
          (c.toNat ≤ lessFeeOf p.fee s.amountSpecifiedRemaining.toNat ∧
            t.amountSpecifiedRemaining =
              s.amountSpecifiedRemaining - (c.toNat + feeOn p.fee c.toNat : ℕ) ∧
            Arrived m p z next s t)) := by
  unfold swapIteration getSqrtRatioAtTick at h
  rw [Outcome.ok_bind] at h
  change (computeSwapStep s.sqrtPriceX96 (ratio m next.1) s.liquidity
    s.amountSpecifiedRemaining p.fee >>= _) = _ at h
  obtain ⟨⟨price, amountIn, amountOut, feeAmount⟩, hstep, h⟩ := Outcome.bind_eq_ok.mp h
  obtain ⟨paid, hpaid, h⟩ := Outcome.bind_eq_ok.mp h
  obtain ⟨remaining, hrem, h⟩ := Outcome.bind_eq_ok.mp h
  obtain ⟨calculated, hcalc, h⟩ := Outcome.bind_eq_ok.mp h
  obtain ⟨hfee, hfits, c, hc, hcases⟩ := computeSwapStep_cases h0 hlt hstep
  have hpaid := Word.checkedAdd_eq_some.mp (Outcome.unwrap_eq_ok.mp hpaid)
  obtain ⟨_, hrem⟩ := toI128_eq_ok.mp hrem
  obtain ⟨hrange, hcalc⟩ := toI128_eq_ok.mp hcalc
  rw [← hcalc] at hrange
  -- The step never takes more than is left, so the total it takes is a small `i128`.
  have hle : paid.toNat ≤ s.amountSpecifiedRemaining.toNat := by
    rcases hcases with ⟨hle, _, hin, hkept⟩ | ⟨_, htotal⟩
    · rw [hpaid, hin, hkept]
      exact cost_le hfee hle
    · rw [hpaid]
      exact htotal.le
  have hint : paid.toInt = paid.toNat := BitVec.toInt_eq_toNat_of_lt (by omega)
  rw [hint] at hrem
  -- Both ends of the iteration set the two totals and the price alike.
  have hends : t.amountSpecifiedRemaining = remaining ∧ t.amountCalculated = calculated ∧
      t.sqrtPriceX96 = price ∧ (price = ratio m next.1 → Arrived m p z next s t) := by
    dsimp only at h
    split at h
    · rename_i hcross
      obtain ⟨hprice, hinit⟩ := hcross
      obtain ⟨tick, htick, h⟩ := Outcome.bind_eq_ok.mp h
      cases h
      exact ⟨rfl, rfl, rfl, fun hp => ⟨hp, fun _ => ⟨crossTick_eq_ok htick, rfl⟩, fun hno => by
        rw [hinit] at hno
        cases hno⟩⟩
    · rename_i hcross
      obtain ⟨tick, htick, h⟩ := Outcome.bind_eq_ok.mp h
      cases h
      refine ⟨rfl, rfl, rfl, fun hp => ⟨hp, fun hyes => absurd ⟨hp, hyes⟩ hcross, fun _ => ⟨?_, rfl⟩⟩⟩
      rw [hp, getTickAtSqrtRatio_ratio] at htick
      exact (Outcome.ok.inj htick).symm
  obtain ⟨htrem, htcalc, htprice, harrived⟩ := hends
  refine ⟨⟨hfee, hfits, htcalc ▸ hrange, by omega, by omega⟩, c, hc, ?_⟩
  rcases hcases with ⟨hfill, hprice, hin, hkept⟩ | ⟨hshort, htotal⟩
  · -- the step has filled its segment
    refine Or.inr ⟨hfill, ?_, harrived hprice⟩
    rw [htrem, hrem, hpaid, hin, hkept]
  · -- the step has stopped short of the next tick
    exact Or.inl ⟨hshort, by omega⟩

/-! ## The body reports no error -/

theorem noErr_toU128 (x : U256) : Outcome.NoErr (toU128 x) :=
  .ite Outcome.noErr_ok Outcome.noErr_panic

theorem noErr_wordDiv {w : ℕ} (a b : BitVec w) : Outcome.NoErr (wordDiv a b) :=
  .ite Outcome.noErr_panic Outcome.noErr_ok

theorem noErr_toI128 (z : ℤ) : Outcome.NoErr (toI128 z) :=
  .ite Outcome.noErr_ok Outcome.noErr_panic

/-- No part of a step reports an error: what does not fit is unwrapped, and panics. -/
theorem noErr_computeSwapStep (start target : U256) (liquidity : U128) (remaining : ℤ)
    (fee : U32) : Outcome.NoErr (computeSwapStep start target liquidity remaining fee) := by
  have hin : Outcome.NoErr (amountInMax start target (liquidity.setWidth 256)) :=
    .ite (noErr_wordDiv _ _) (noErr_wordDiv _ _)
  have hout : Outcome.NoErr (amountOutMax start target (liquidity.setWidth 256)) :=
    .ite (noErr_wordDiv _ _) (noErr_wordDiv _ _)
  have hnext : ∀ z L x, Outcome.NoErr (sqrtPNext z start L x) := fun z L x =>
    .ite
      (.bind Outcome.noErr_unwrap fun _ => .bind Outcome.noErr_unwrap fun _ =>
        .bind Outcome.noErr_unwrap fun _ => .bind Outcome.noErr_unwrap fun _ =>
          .bind Outcome.noErr_unwrap fun _ => noErr_wordDiv _ _)
      (.bind Outcome.noErr_unwrap fun _ => .bind (noErr_wordDiv _ _) fun _ => Outcome.noErr_ok)
  have hto : ∀ z n L, Outcome.NoErr (amountOutTo z start n L) := fun z n L =>
    .ite
      (.bind Outcome.noErr_unwrap fun _ => .bind Outcome.noErr_unwrap fun _ => noErr_wordDiv _ _)
      (.bind Outcome.noErr_unwrap fun _ => .bind Outcome.noErr_unwrap fun _ =>
        .bind Outcome.noErr_unwrap fun _ => .bind Outcome.noErr_unwrap fun _ => noErr_wordDiv _ _)
  have hless : ∀ r, Outcome.NoErr (lessFee r fee) := fun r =>
    .bind Outcome.noErr_unwrap fun _ => .bind Outcome.noErr_unwrap fun _ => Outcome.noErr_ok
  refine .bind (hless _) fun _ => .bind hin fun _ => .bind (noErr_toU128 _) fun _ => .ite ?_ ?_
  · exact .bind hout fun _ => .bind Outcome.noErr_unwrap fun _ =>
      .bind (noErr_toU128 _) fun _ => Outcome.noErr_ok
  · exact .bind (hnext _ _ _) fun _ => .bind (hto _ _ _) fun _ =>
      .bind (noErr_toU128 _) fun _ => .bind Outcome.noErr_unwrap fun _ => Outcome.noErr_ok

/-- **The loop has no error path**: it panics or goes on. -/
theorem noErr_swapIteration (m : TickMath) (p : UniswapV3Pool) (z : Bool) (next : ℤ × Bool)
    (s : SwapState) : Outcome.NoErr (swapIteration m p z next s) := by
  refine .bind Outcome.noErr_ok fun _ => .bind (noErr_computeSwapStep _ _ _ _ _) fun _ =>
    .bind Outcome.noErr_unwrap fun _ => .bind (noErr_toI128 _) fun _ =>
      .bind (noErr_toI128 _) fun _ => .ite (.bind ?_ fun _ => Outcome.noErr_ok)
        (.bind (.bind (noErr_toU128 _) fun _ => Outcome.noErr_ok) fun _ => Outcome.noErr_ok)
  exact .ite (.ite Outcome.noErr_ok Outcome.noErr_panic) Outcome.noErr_ok

/-! ## What the route can take -/

/-- The input that moves the price from `start` to `target` at this liquidity, before the fee. -/
def segmentCapacity (start target : U256) (liquidity : U128) : ℕ :=
  match amountInMax start target (liquidity.setWidth 256) with
  | .ok c => c.toNat
  | _ => 0

/-- The capacities of the segments from a price through these ticks to the boundary. -/
def routeCapacities (m : TickMath) (p : UniswapV3Pool) (z : Bool) :
    List ℤ → U256 → U128 → List ℕ
  | [], price, liquidity => [segmentCapacity price (ratio m (boundaryTick z)) liquidity]
  | k :: ks, price, liquidity =>
      segmentCapacity price (ratio m k) liquidity ::
        routeCapacities m p z ks (ratio m k) (p.crossed k liquidity)

/-- Paying for one segment after another, fee included, uses this amount up. -/
def Absorbs (fee : U32) : List ℕ → ℤ → Prop
  | [], remaining => remaining ≤ 0
  | c :: cs, remaining =>
      remaining ≤ 0 ∨ lessFeeOf fee remaining.toNat < c ∨
        Absorbs fee cs (remaining - (c + feeOn fee c : ℕ))

instance decidableAbsorbs (fee : U32) : ∀ cs remaining, Decidable (Absorbs fee cs remaining)
  | [], _ => inferInstanceAs (Decidable (_ ≤ _))
  | _ :: cs, _ =>
      have := decidableAbsorbs fee cs
      inferInstanceAs (Decidable (_ ∨ _ ∨ _))

/-- Without an input there is nothing to pay. -/
theorem absorbs_of_le {fee : U32} {cs : List ℕ} {remaining : ℤ} (h : remaining ≤ 0) :
    Absorbs fee cs remaining := by
  cases cs with
  | nil => exact h
  | cons c cs => exact Or.inl h

/-! ## One pass -/

/-- The body of the loop at each of these ticks and then at the boundary, as long as there is
    input left. -/
def onePass (m : TickMath) (p : UniswapV3Pool) (z : Bool) : List ℤ → SwapState →
    Outcome SwapState
  | [], s => if inputLeft s then swapIteration m p z (boundaryTick z, false) s else .ok s
  | k :: ks, s =>
      if inputLeft s then swapIteration m p z (k, true) s >>= onePass m p z ks else .ok s

section Pass

variable {m : TickMath} {p : UniswapV3Pool} {z : Bool} {ks : List ℤ} {s t : SwapState}

theorem inputLeft_iff : inputLeft s = true ↔ 0 < s.amountSpecifiedRemaining := by
  simp [inputLeft]

theorem inputLeft_eq_false : inputLeft s = false ↔ s.amountSpecifiedRemaining ≤ 0 := by
  simp [inputLeft]

/-- Without an input the pass is over. -/
theorem onePass_of_not (h : inputLeft s = false) : onePass m p z ks s = .ok s := by
  cases ks <;> simp [onePass, h]

/-- A pass reports no error either. -/
theorem noErr_onePass : Outcome.NoErr (onePass m p z ks s) := by
  induction ks generalizing s with
  | nil => exact .ite (noErr_swapIteration _ _ _ _ _) Outcome.noErr_ok
  | cons k ks ih => exact .ite (.bind (noErr_swapIteration _ _ _ _ _) fun _ => ih) Outcome.noErr_ok

/-- At the end of the route there is the boundary, if any input is left. -/
theorem onePass_nil_cases (h : onePass m p z [] s = .ok t) :
    (s.amountSpecifiedRemaining ≤ 0 ∧ t = s) ∨
      (0 < s.amountSpecifiedRemaining ∧
        swapIteration m p z (boundaryTick z, false) s = .ok t) := by
  cases hin : inputLeft s with
  | false =>
    rw [onePass_of_not hin] at h
    exact .inl ⟨inputLeft_eq_false.mp hin, (Outcome.ok.inj h).symm⟩
  | true =>
    rw [onePass, if_pos hin] at h
    exact .inr ⟨inputLeft_iff.mp hin, h⟩

/-- And before it the ticks, one iteration for each. -/
theorem onePass_cons_cases {k : ℤ} (h : onePass m p z (k :: ks) s = .ok t) :
    (s.amountSpecifiedRemaining ≤ 0 ∧ t = s) ∨
      (0 < s.amountSpecifiedRemaining ∧
        ∃ u, swapIteration m p z (k, true) s = .ok u ∧ onePass m p z ks u = .ok t) := by
  cases hin : inputLeft s with
  | false =>
    rw [onePass_of_not hin] at h
    exact .inl ⟨inputLeft_eq_false.mp hin, (Outcome.ok.inj h).symm⟩
  | true =>
    rw [onePass, if_pos hin] at h
    exact .inr ⟨inputLeft_iff.mp hin, Outcome.bind_eq_ok.mp h⟩

/-- **A pass uses the input up exactly when the route absorbs it.** By induction on the route: a
    segment that is not filled ends the pass with nothing left, and one that is filled leaves the
    rest to the route behind it, from the price and with the liquidity that crossing its tick
    gives. -/
theorem onePass_absorbs (h0 : 0 ≤ s.amountSpecifiedRemaining)
    (hlt : s.amountSpecifiedRemaining < 2 ^ 127) (h : onePass m p z ks s = .ok t) :
    t.amountSpecifiedRemaining ≤ 0 ↔
      Absorbs p.fee (routeCapacities m p z ks s.sqrtPriceX96 s.liquidity)
        s.amountSpecifiedRemaining := by
  induction ks generalizing s with
  | nil =>
    obtain ⟨hdone, rfl⟩ | ⟨hpos, h⟩ := onePass_nil_cases h
    · exact iff_of_true hdone (absorbs_of_le hdone)
    obtain ⟨_, c, hc, hcases⟩ := swapIteration_cases h0 hlt h
    simp only [routeCapacities, segmentCapacity, hc, Absorbs]
    rcases hcases with ⟨hshort, hzero⟩ | ⟨hfill, hrem, _⟩
    · exact iff_of_true hzero.le (Or.inr (Or.inl hshort))
    · rw [hrem, or_iff_right (by omega), or_iff_right (by omega)]
  | cons k ks ih =>
    obtain ⟨hdone, rfl⟩ | ⟨hpos, u, hu, h⟩ := onePass_cons_cases h
    · exact iff_of_true hdone (absorbs_of_le hdone)
    obtain ⟨hit, c, hc, hcases⟩ := swapIteration_cases h0 hlt hu
    simp only [routeCapacities, segmentCapacity, hc, Absorbs]
    rcases hcases with ⟨hshort, hzero⟩ | ⟨hfill, hrem, harr⟩
    · rw [onePass_of_not (inputLeft_eq_false.mpr hzero.le)] at h
      cases h
      exact iff_of_true hzero.le (Or.inr (Or.inl hshort))
    · have hrest := ih hit.nonneg (lt_of_le_of_lt hit.remaining_le hlt) h
      obtain ⟨_, hliq⟩ := harr.crossing rfl
      rw [harr.price, hliq, hrem] at hrest
      rw [hrest, or_iff_right (by omega), or_iff_right (by omega)]

/-- The state of a swap that has run past its last initialised tick and still has input. -/
structure AtBoundary (m : TickMath) (p : UniswapV3Pool) (z : Bool) (t : SwapState) : Prop where
  price : t.sqrtPriceX96 = ratio m (boundaryTick z)
  price_pos : 0 < (m.ratioAtTick (boundaryTick z)).toNat
  tick : ∀ k, Beyond z t.tick k → Beyond z (m.tickAtRatio (m.ratioAtTick (boundaryTick z))) k
  left : 0 < t.amountSpecifiedRemaining
  lt : t.amountSpecifiedRemaining < 2 ^ 127
  calculated : InI128 t.amountCalculated
  fee : p.fee.toNat ≤ 1000000
  fits : t.amountSpecifiedRemaining.toNat * (1000000 - p.fee.toNat) < 2 ^ 128

/-- A step whose target is the price zero divides by zero. -/
theorem amountInMax_zero_target (start liquidity : U256) :
    amountInMax start 0#256 liquidity = .panic := by
  have hle : 0#256 ≤ start := by
    rw [BitVec.le_def]
    exact Nat.zero_le _
  have hmul : Word.checkedMul start 0#256 = some 0#256 := by simp [Word.checkedMul]
  unfold amountInMax amount0Between wordDiv
  rw [if_pos hle]
  simp [hmul]

/-- **A pass that leaves input over ends at the boundary.** -/
theorem onePass_atBoundary (h0 : 0 ≤ s.amountSpecifiedRemaining)
    (hlt : s.amountSpecifiedRemaining < 2 ^ 127) (h : onePass m p z ks s = .ok t)
    (hleft : 0 < t.amountSpecifiedRemaining) : AtBoundary m p z t := by
  induction ks generalizing s with
  | nil =>
    obtain ⟨hdone, rfl⟩ | ⟨_, h⟩ := onePass_nil_cases h
    · exact absurd hdone (not_le.mpr hleft)
    obtain ⟨hit, c, hc, hcases⟩ := swapIteration_cases h0 hlt h
    rcases hcases with ⟨_, hzero⟩ | ⟨_, hrem, harr⟩
    · omega
    · have hle := hit.remaining_le
      obtain ⟨htick, _⟩ := harr.boundary rfl
      refine ⟨harr.price, ?_, fun k hk => htick ▸ hk, hleft, lt_of_le_of_lt hle hlt,
        hit.calculated, hit.fee, ?_⟩
      · -- a boundary at the price zero would have made the step divide by zero
        by_contra hzero
        have hz : m.ratioAtTick (boundaryTick z) = 0#128 :=
          BitVec.eq_of_toNat_eq (Nat.le_zero.mp (Nat.le_of_not_lt hzero))
        rw [ratio, hz] at hc
        change amountInMax _ 0#256 _ = _ at hc
        rw [amountInMax_zero_target] at hc
        cases hc
      · refine lt_of_le_of_lt (Nat.mul_le_mul_right _ ?_) hit.fits
        omega
  | cons k ks ih =>
    obtain ⟨hdone, rfl⟩ | ⟨_, u, hu, h⟩ := onePass_cons_cases h
    · exact absurd hdone (not_le.mpr hleft)
    obtain ⟨hit, _⟩ := swapIteration_cases h0 hlt hu
    exact ih hit.nonneg (lt_of_le_of_lt hit.remaining_le hlt) h

end Pass

end UniswapV3Pool
end ArbEngine
