import ArbEngine.Proof.Pricing.V3Exact

/-!
# Where a swap step is safe

A step multiplies a liquidity of 128 bits, a price of 160 and the 96 places of a price. Where a
product leaves 256 bits it becomes zero, or one in a denominator, or the step panics, and each of
the eight products does so on its own. `safe_step_iff` says for which inputs of the on-chain range
nothing of this shows: the step answers, between its two prices, for no more than it was offered,
and pays nothing for nothing.
-/

namespace ArbEngine
namespace UniswapV3Pool

/-- **What a step should guarantee**: it answers, it stays between its prices, it takes no more
    than it was offered, and it pays nothing for nothing. -/
def SafeStep (start target : U256) (liquidity : U128) (remaining : ℤ) (fee : U32) : Prop :=
  ∃ (price : U256) (paid out kept : U128),
    computeSwapStep start target liquidity remaining fee = .ok (price, paid, out, kept) ∧
      min start.toNat target.toNat ≤ price.toNat ∧ price.toNat ≤ max start.toNat target.toNat ∧
      ((paid.toNat + kept.toNat : ℕ) : ℤ) ≤ remaining ∧
      (0 < out.toNat → 0 < paid.toNat + kept.toNat)

/-! ## The condition -/

/-- On the way down. The cost of the whole way is `gap * 2 ^ 96 / (start * target)` while its two
    products fit; it is free once `gap * 2 ^ 96` does not, and nothing is divided once
    `start * target` does not. -/
def SafeDown (start target liquidity less fee : ℕ) : Prop :=
  let gap := liquidity * (start - target)
  let area := start * target
  2 ^ 256 ≤ gap ∨
  (gap < 2 ^ 160 ∧ area < 2 ^ 256 ∧ gap * 2 ^ 96 / area < 2 ^ 128 ∧
    (gap * 2 ^ 96 / area ≤ less →
      gap * 2 ^ 96 / area * fee < 2 ^ 128 ∧ (2 ^ 96 ≤ gap → area ≤ gap * 2 ^ 96)) ∧
    (less < gap * 2 ^ 96 / area → liquidity * start < 2 ^ 160)) ∨
  (gap < 2 ^ 32 ∧ 2 ^ 256 ≤ area ∧ (gap * 2 ^ 96 ≤ less → gap * 2 ^ 96 * fee < 2 ^ 128) ∧
    (less < gap * 2 ^ 96 → less = 0 ∧ liquidity * start < 2 ^ 160))

/-- On the way up, where the fraction is what is paid out. The cost is `gap / 2 ^ 96` and has one
    product. Whether the whole way may be free depends on how the fraction rounds: it must not pay
    where the cost is rounded down to zero. -/
def SafeUp (start target liquidity less fee : ℕ) : Prop :=
  let gap := liquidity * (target - start)
  let area := start * target
  let moved := movedBy liquidity less
  2 ^ 256 ≤ gap ∨
  (gap < 2 ^ 224 ∧
    (gap / 2 ^ 96 ≤ less → gap / 2 ^ 96 * fee < 2 ^ 128 ∧
      (2 ^ 160 ≤ gap ∨ gap = 0 ∨
        (area < 2 ^ 256 ∧ gap * 2 ^ 96 / area < 2 ^ 128 ∧
          (area ≤ gap * 2 ^ 96 → 2 ^ 96 ≤ gap)))) ∧
    (less < gap / 2 ^ 96 → liquidity * moved < 2 ^ 160 ∧ start * (start + moved) < 2 ^ 256 ∧
      liquidity * moved * 2 ^ 96 / (start * (start + moved)) < 2 ^ 128))

/-- The whole condition: the product with the fee fits, and the way is safe in its direction. -/
def SafeInput (start target liquidity remaining less fee : ℕ) : Prop :=
  remaining * (1000000 - fee) < 2 ^ 128 ∧
    if target ≤ start then SafeDown start target liquidity less fee
    else SafeUp start target liquidity less fee

/-! ## In numbers -/

/-- The whole way is safe to go. -/
def ReachSafe (start target liquidity fee : ℕ) : Prop :=
  amountInOf start target liquidity * fee < 2 ^ 128 ∧
    amountOutOf start target liquidity < 2 ^ 128 ∧
    (0 < amountOutOf start target liquidity → 0 < amountInOf start target liquidity)

/-- There is a safe price to stop at. -/
def StopSafe (start target liquidity less : ℕ) : Prop :=
  ∃ price out : ℕ, StopsAt start target liquidity less price out ∧ out < 2 ^ 128 ∧
    min start target ≤ price ∧ price ≤ max start target

/-- The step is safe, with `less` to spend. -/
def NumbersSafe (start target liquidity less fee : ℕ) : Prop :=
  amountInOf start target liquidity < 2 ^ 128 ∧
    if amountInOf start target liquidity ≤ less then ReachSafe start target liquidity fee
    else StopSafe start target liquidity less

/-- A safe step, without its words. Where the way can be paid for, the step has to reach the target
    safely, and where it cannot, it has to stop safely. -/
theorem safeStep_iff {start target : U256} {liquidity : U128} {remaining : ℤ} {fee : U32}
    (segment : Segment start.toNat target.toNat) (h0 : 0 < remaining)
    (hlt : remaining < 2 ^ 127) (hfee : fee.toNat ≤ 1000000) :
    SafeStep start target liquidity remaining fee ↔
      remaining.toNat * (1000000 - fee.toNat) < 2 ^ 128 ∧
        NumbersSafe start.toNat target.toNat liquidity.toNat (lessFeeOf fee remaining.toNat)
          fee.toNat := by
  unfold SafeStep NumbersSafe
  simp only [computeSwapStep_eq_ok_iff segment h0.le hlt hfee]
  constructor
  · rintro ⟨price, paid, out, kept, ⟨hfits, hin, h⟩, above, below, -, free⟩
    refine ⟨hfits, hin, ?_⟩
    rcases h with reaches | stops
    · rw [if_pos reaches.enough]
      refine ⟨reaches.fee_fits, reaches.out_eq ▸ out.isLt, ?_⟩
      intro paysOut
      rw [← reaches.out_eq] at paysOut
      -- The fee is a share of the amount: without the amount there is none either.
      have costs := free paysOut
      rw [reaches.paid_eq, reaches.kept_eq] at costs
      apply Nat.pos_of_ne_zero
      intro none
      rw [none, Nat.zero_mul] at costs
      exact absurd costs (by decide)
    · rw [if_neg (Nat.not_le.mpr stops.short)]
      exact ⟨price.toNat, out.toNat, stops.stops, out.isLt, above, below⟩
  · rintro ⟨hfits, hin, h⟩
    split at h
    · rename_i enough
      obtain ⟨hfee128, hout128, free⟩ := h
      obtain ⟨paid, hpaid⟩ := Word.exists_toNat_eq hin
      obtain ⟨out, hout⟩ := Word.exists_toNat_eq hout128
      obtain ⟨kept, hkept⟩ := Word.exists_toNat_eq (w := 128)
        (n := (amountInOf start.toNat target.toNat liquidity.toNat * fee.toNat) ⌈/⌉ 1000000)
        (by rw [Nat.ceilDiv_eq_add_pred_div]; omega)
      have cost : paid.toNat + kept.toNat ≤ remaining.toNat := by
        rw [hpaid, hkept]
        exact cost_le hfee enough
      refine ⟨target, paid, out, kept, ⟨hfits, hin, .inl ?_⟩, min_le_right _ _, le_max_right _ _,
        by omega, ?_⟩
      · exact ⟨enough, hfee128, rfl, hpaid, hout, hkept⟩
      · intro paysOut
        rw [hout] at paysOut
        have costs := free paysOut
        omega
    · rename_i short
      obtain ⟨price, out, stops, hout128, above, below⟩ := h
      -- A step that stops short spends its whole input, so it is never free.
      have room : max start.toNat target.toNat < 2 ^ 256 := max_lt start.isLt target.isLt
      obtain ⟨price, rfl⟩ := Word.exists_toNat_eq (w := 256) (lt_of_le_of_lt below room)
      obtain ⟨out, rfl⟩ := Word.exists_toNat_eq hout128
      have le := lessFeeOf_le fee remaining.toNat
      obtain ⟨paid, hpaid⟩ := Word.exists_toNat_eq (w := 128)
        (n := lessFeeOf fee remaining.toNat) (by omega)
      obtain ⟨kept, hkept⟩ := Word.exists_toNat_eq (w := 128)
        (n := remaining.toNat - lessFeeOf fee remaining.toNat) (by omega)
      refine ⟨price, paid, out, kept, ⟨hfits, hin, .inr ?_⟩, above, below, by omega, by omega⟩
      exact ⟨Nat.lt_of_not_le short, stops, hpaid, hkept⟩

/-! ## Down -/

section Down

variable {start target liquidity less fee : ℕ}

/-- A step down can stop safely where the liquidity times its price leaves room for the 96 places.
    The price it stops at is then between the two by itself. -/
theorem stopSafe_down_iff (segment : Segment start target) (down : target ≤ start)
    (hL : 0 < liquidity)
    (short : less < liquidity * (start - target) * 2 ^ 96 / (start * target)) :
    StopSafe start target liquidity less ↔ liquidity * start < 2 ^ 160 := by
  unfold StopSafe StopsAt
  simp only [if_pos down, min_eq_right down, max_eq_left down]
  constructor
  · rintro ⟨price, out, ⟨hnum, -⟩, -⟩
    omega
  · intro fits
    have hnum : liquidity * start * 2 ^ 96 < 2 ^ 256 := by omega
    have hden := ((Nat.le_mul_of_pos_left _ segment.target_pos).trans
      (target_mul_le down short)).trans_lt hnum
    have hmul : less * start < 2 ^ 256 := lt_of_le_of_lt (Nat.le_add_left _ _) hden
    have paid : liquidity * (start - priceBelow start liquidity less) ≤ liquidity * start :=
      Nat.mul_le_mul_left _ (Nat.sub_le _ _)
    exact ⟨_, _, ⟨hnum, hmul, hden, rfl, rfl⟩, by omega, target_le_priceBelow down hL short,
      priceBelow_le⟩

/-- Nothing to spend moves nothing. -/
theorem priceBelow_zero (hL : 0 < liquidity) : priceBelow start liquidity 0 = start := by
  unfold priceBelow
  rw [Nat.zero_mul, Nat.add_zero, Nat.mul_right_comm]
  exact Nat.mul_div_cancel_left _ (Nat.mul_pos hL (by norm_num))

/-- A cost that is not divided is never worth its input: only a step that has none to spend
    stops between its prices. -/
theorem stopSafe_undivided_iff (hs : 0 < start) (down : target ≤ start) (hL : 0 < liquidity)
    (small : liquidity * (start - target) < 2 ^ 32) (large : 2 ^ 256 ≤ start * target) :
    StopSafe start target liquidity less ↔ less = 0 ∧ liquidity * start < 2 ^ 160 := by
  have pos : 0 < liquidity * 2 ^ 96 := Nat.mul_pos hL (by norm_num)
  unfold StopSafe StopsAt
  simp only [if_pos down, min_eq_right down, max_eq_left down]
  constructor
  · rintro ⟨price, out, ⟨hnum, -, -, rfl, -⟩, -, above, -⟩
    refine ⟨?_, by omega⟩
    unfold priceBelow at above
    rw [Nat.le_div_iff_mul_le (Nat.add_pos_left pos _)] at above
    obtain ⟨diff, rfl⟩ := Nat.exists_eq_add_of_le down
    rw [Nat.add_sub_cancel_left] at small
    have spent : less * ((target + diff) * target) ≤ liquidity * diff * 2 ^ 96 := by
      have expand : target * (liquidity * 2 ^ 96 + less * (target + diff)) =
          liquidity * target * 2 ^ 96 + less * ((target + diff) * target) := by ring
      have expand' : liquidity * (target + diff) * 2 ^ 96 =
          liquidity * target * 2 ^ 96 + liquidity * diff * 2 ^ 96 := by ring
      omega
    by_contra some
    -- One unit spent weighs `2 ^ 256`; a gap below `2 ^ 32` is worth less than `2 ^ 128`.
    have : 1 * 2 ^ 256 ≤ less * ((target + diff) * target) :=
      Nat.mul_le_mul (Nat.pos_of_ne_zero some) large
    omega
  · rintro ⟨rfl, fits⟩
    have room : liquidity ≤ liquidity * start := Nat.le_mul_of_pos_right _ hs
    refine ⟨_, _, ⟨by omega, by omega, ?_, rfl, rfl⟩, ?_, ?_, priceBelow_le⟩
    · omega
    · rw [priceBelow_zero hL, Nat.sub_self, Nat.mul_zero, Nat.zero_div]
      norm_num
    · rw [priceBelow_zero hL]
      exact down

section Amounts

variable (down : target ≤ start)
include down

/-- On the way down the first token goes in. -/
theorem amountInOf_down :
    amountInOf start target liquidity = amount0Of liquidity (start - target) start target :=
  if_pos down

/-- And the second comes out. -/
theorem amountOutOf_down :
    amountOutOf start target liquidity = amount1Of liquidity (start - target) := if_pos down

/-- Both products fit: the cost is the fraction, rounded down, and the payout a shift. A step that
    is not free has to pay for what it gets. -/
theorem safeDown_divided_iff (segment : Segment start target)
    (small : liquidity * (start - target) < 2 ^ 160) (fits : start * target < 2 ^ 256) :
    NumbersSafe start target liquidity less fee ↔ SafeDown start target liquidity less fee := by
  have area : 0 < start * target := Nat.mul_pos segment.start_pos segment.target_pos
  have in_eq : amountInOf start target liquidity =
      liquidity * (start - target) * 2 ^ 96 / (start * target) :=
    (amountInOf_down down).trans (amount0Of_of_fits (by omega) fits)
  have out_eq : amountOutOf start target liquidity = liquidity * (start - target) / 2 ^ 96 :=
    (amountOutOf_down down).trans (amount1Of_of_fits (by omega))
  have costs : 0 < liquidity * (start - target) * 2 ^ 96 / (start * target) ↔
      start * target ≤ liquidity * (start - target) * 2 ^ 96 :=
    Nat.div_pos_iff.trans (and_iff_right area)
  have stop : less < liquidity * (start - target) * 2 ^ 96 / (start * target) →
      (StopSafe start target liquidity less ↔ liquidity * start < 2 ^ 160) := by
    intro short
    exact stopSafe_down_iff segment down (liquidity_pos (in_eq ▸ short)) short
  unfold NumbersSafe ReachSafe
  simp only [SafeDown, in_eq, out_eq, costs]
  generalize liquidity * (start - target) = gap at *
  generalize hc : gap * 2 ^ 96 / (start * target) = cost at *
  split
  · grind
  · rename_i short
    rw [stop (Nat.lt_of_not_le short)]
    grind

/-- The product of the prices overflows and counts as one, so nothing is divided and the smallest
    gap there is costs `2 ^ 96`. -/
theorem safeDown_undivided_iff (hs : 0 < start)
    (small : liquidity * (start - target) < 2 ^ 160) (wide : 2 ^ 256 ≤ start * target) :
    NumbersSafe start target liquidity less fee ↔ SafeDown start target liquidity less fee := by
  have in_eq : amountInOf start target liquidity = liquidity * (start - target) * 2 ^ 96 :=
    (amountInOf_down down).trans (amount0Of_undivided small wide)
  have out_eq : amountOutOf start target liquidity = liquidity * (start - target) / 2 ^ 96 :=
    (amountOutOf_down down).trans (amount1Of_of_fits (by omega))
  have stop : liquidity * (start - target) < 2 ^ 32 →
      less < liquidity * (start - target) * 2 ^ 96 →
      (StopSafe start target liquidity less ↔ less = 0 ∧ liquidity * start < 2 ^ 160) := by
    intro tiny short
    exact stopSafe_undivided_iff hs down (liquidity_pos (in_eq ▸ short)) tiny wide
  unfold NumbersSafe ReachSafe
  simp only [SafeDown, in_eq, out_eq]
  generalize liquidity * (start - target) = gap at *
  by_cases tiny : gap < 2 ^ 32
  · split
    · have none : gap / 2 ^ 96 = 0 := Nat.div_eq_of_lt (by omega)
      rw [none]
      grind
    · rename_i short
      rw [stop tiny (Nat.lt_of_not_le short)]
      grind
  · have large : ¬ gap * 2 ^ 96 < 2 ^ 128 := by omega
    grind

/-- The cost overflows and counts as zero. The step then reaches its target for nothing, which is
    safe only if it pays nothing either: the payout overflows as well. -/
theorem safeDown_large_iff (large : 2 ^ 160 ≤ liquidity * (start - target)) :
    NumbersSafe start target liquidity less fee ↔ SafeDown start target liquidity less fee := by
  have in_eq : amountInOf start target liquidity = 0 :=
    (amountInOf_down down).trans (amount0Of_of_large large)
  have out_eq : amountOutOf start target liquidity = _ := amountOutOf_down down
  unfold NumbersSafe ReachSafe
  rw [in_eq, if_pos (Nat.zero_le _), out_eq, Nat.zero_mul]
  simp only [SafeDown, amount1Of]
  generalize liquidity * (start - target) = gap at *
  rcases lt_or_ge gap (2 ^ 256) with fits | beyond
  · have paysOut : 0 < gap / 2 ^ 96 := Nat.div_pos (by omega) (by norm_num)
    rw [fitOr_of_lt fits]
    grind
  · rw [fitOr_of_le beyond, Nat.zero_div]
    grind

end Amounts

/-- **The way down is safe exactly where `SafeDown` says.** -/
theorem safeDown_iff (segment : Segment start target) (down : target ≤ start) :
    NumbersSafe start target liquidity less fee ↔ SafeDown start target liquidity less fee := by
  -- The three ranges of `SafeDown`: the cost is divided, it is not, or it has overflowed.
  rcases lt_or_ge (liquidity * (start - target)) (2 ^ 160) with small | large
  · rcases lt_or_ge (start * target) (2 ^ 256) with fits | wide
    · exact safeDown_divided_iff down segment small fits
    · exact safeDown_undivided_iff down segment.start_pos small wide
  · exact safeDown_large_iff down large

end Down

/-! ## Up -/

section Up

variable {start target liquidity less fee : ℕ} (up : ¬ target ≤ start)
include up

/-- On the way up the second token goes in. -/
theorem amountInOf_up :
    amountInOf start target liquidity = amount1Of liquidity (target - start) := if_neg up

/-- And the first comes out. -/
theorem amountOutOf_up :
    amountOutOf start target liquidity = amount0Of liquidity (target - start) start target :=
  if_neg up

/-- A step up can stop safely where its three products fit. -/
theorem stopSafe_up_iff (short : less < liquidity * (target - start) / 2 ^ 96) :
    StopSafe start target liquidity less ↔
      liquidity * movedBy liquidity less < 2 ^ 160 ∧
        start * (start + movedBy liquidity less) < 2 ^ 256 ∧
        liquidity * movedBy liquidity less * 2 ^ 96 /
          (start * (start + movedBy liquidity less)) < 2 ^ 128 := by
  have le := movedBy_le short
  unfold StopSafe StopsAt
  simp only [if_neg up]
  constructor
  · rintro ⟨price, out, ⟨hnum, hden, rfl, rfl⟩, hout, -⟩
    exact ⟨by omega, hden, hout⟩
  · rintro ⟨hnum, hden, hout⟩
    refine ⟨_, _, ⟨by omega, hden, rfl, rfl⟩, hout, ?_, ?_⟩
    · exact (min_le_left _ _).trans (Nat.le_add_right _ _)
    · apply le_trans _ (le_max_right _ _)
      omega

/-- Paying out the fraction for the whole way. -/
theorem reachSafe_up_iff (segment : Segment start target)
    (fits : liquidity * (target - start) < 2 ^ 224) :
    ReachSafe start target liquidity fee ↔
      liquidity * (target - start) / 2 ^ 96 * fee < 2 ^ 128 ∧
        (2 ^ 160 ≤ liquidity * (target - start) ∨ liquidity * (target - start) = 0 ∨
          (start * target < 2 ^ 256 ∧
            liquidity * (target - start) * 2 ^ 96 / (start * target) < 2 ^ 128 ∧
            (start * target ≤ liquidity * (target - start) * 2 ^ 96 →
              2 ^ 96 ≤ liquidity * (target - start)))) := by
  have area : 0 < start * target := Nat.mul_pos segment.start_pos segment.target_pos
  have in_eq : amountInOf start target liquidity = liquidity * (target - start) / 2 ^ 96 :=
    (amountInOf_up up).trans (amount1Of_of_fits (by omega))
  have out_eq : amountOutOf start target liquidity = _ := amountOutOf_up up
  have costs : 0 < liquidity * (target - start) / 2 ^ 96 ↔
      2 ^ 96 ≤ liquidity * (target - start) := Nat.div_pos_iff.trans (and_iff_right (by norm_num))
  unfold ReachSafe
  rw [in_eq, costs, out_eq]
  rcases lt_or_ge (liquidity * (target - start)) (2 ^ 160) with small | large
  · rcases lt_or_ge (start * target) (2 ^ 256) with narrow | wide
    · have paysOut : 0 < liquidity * (target - start) * 2 ^ 96 / (start * target) ↔
          start * target ≤ liquidity * (target - start) * 2 ^ 96 :=
        Nat.div_pos_iff.trans (and_iff_right area)
      rw [amount0Of_of_fits (by omega) narrow, paysOut]
      generalize liquidity * (target - start) = gap at *
      rcases Nat.eq_zero_or_pos gap with rfl | some
      · simp
        grind
      · grind
    · rw [amount0Of_undivided small wide]
      generalize liquidity * (target - start) = gap at *
      -- What is paid out undivided is at least `2 ^ 96` for an input of nothing.
      constructor
      · rintro ⟨hfee, hout, free⟩
        refine ⟨hfee, .inr (.inl ?_)⟩
        by_contra some
        have := free (by omega)
        omega
      · rintro ⟨hfee, many | none | ⟨narrow, -⟩⟩
        · omega
        · rw [none]
          exact ⟨by norm_num, by norm_num, fun h => absurd h (by norm_num)⟩
        · exact absurd narrow (Nat.not_lt.mpr wide)
  · rw [amount0Of_of_large large]
    grind

/-- **The way up is safe exactly where `SafeUp` says.** -/
theorem safeUp_iff (segment : Segment start target) :
    NumbersSafe start target liquidity less fee ↔ SafeUp start target liquidity less fee := by
  unfold NumbersSafe
  -- Beyond 256 bits cost and payout are both zero; below, the fraction decides.
  rcases lt_or_ge (liquidity * (target - start)) (2 ^ 256) with fits | beyond
  · have in_eq : amountInOf start target liquidity = liquidity * (target - start) / 2 ^ 96 :=
      (amountInOf_up up).trans (amount1Of_of_fits fits)
    have room : liquidity * (target - start) / 2 ^ 96 < 2 ^ 128 ↔
        liquidity * (target - start) < 2 ^ 224 := by
      rw [Nat.div_lt_iff_lt_mul (by norm_num)]
      norm_num
    simp only [SafeUp, in_eq, room]
    by_cases small : liquidity * (target - start) < 2 ^ 224
    · rw [reachSafe_up_iff up segment small]
      split
      · grind
      · rename_i short
        rw [stopSafe_up_iff up (Nat.lt_of_not_le short)]
        grind
    · grind
  · have in_eq : amountInOf start target liquidity = 0 := by
      rw [amountInOf_up up, amount1Of, fitOr_of_le beyond, Nat.zero_div]
    have out_eq : amountOutOf start target liquidity = 0 := by
      rw [amountOutOf_up up, amount0Of_of_large (by omega)]
    unfold ReachSafe
    rw [in_eq, out_eq, if_pos (Nat.zero_le _), Nat.zero_mul]
    simp only [SafeUp]
    exact iff_of_true ⟨by norm_num, by norm_num, by norm_num, id⟩ (.inl beyond)

end Up

/-! ## Both ways -/

/-- **A step on the on-chain range is safe exactly for the inputs of `SafeInput`.** -/
theorem safe_step_iff (start target : U256) (liquidity : U128) (remaining : ℤ) (fee : U32)
    (hstart : 4295128739 ≤ start.toNat ∧ start.toNat < 2 ^ 160)
    (htarget : 4295128739 ≤ target.toNat ∧ target.toNat < 2 ^ 160)
    (hfee : fee.toNat ≤ 1000000) (hremaining : 0 < remaining ∧ remaining < 2 ^ 127) :
    SafeStep start target liquidity remaining fee ↔
      SafeInput start.toNat target.toNat liquidity.toNat remaining.toNat
        (lessFeeOf fee remaining.toNat) fee.toNat := by
  have segment : Segment start.toNat target.toNat :=
    ⟨by omega, hstart.2, by omega, htarget.2⟩
  unfold SafeInput
  rw [safeStep_iff segment hremaining.1 hremaining.2 hfee]
  by_cases down : target.toNat ≤ start.toNat
  · rw [if_pos down, safeDown_iff segment down]
  · rw [if_neg down, safeUp_iff down segment]

/-- From price four to price one with a liquidity of a million: a thousand do not reach, and the
    step stops on the way. -/
theorem sample_step_safe :
    SafeStep (2#256 * q96) q96 1000000#128 1000 3000#32 := by
  refine (safe_step_iff _ _ _ _ _ (by decide) (by decide) (by decide) (by decide)).mpr ?_
  refine ⟨by decide, ?_⟩
  rw [if_pos (by decide)]
  exact .inr (.inl (by decide +kernel))

/-- **With a liquidity of `2 ^ 64` the same way is free**: `gap * 2 ^ 96` overflows and counts as
    zero, so the step takes nothing and pays `2 ^ 64`. -/
theorem sample_step_free :
    computeSwapStep (2#256 * q96) q96 18446744073709551616#128 1000 3000#32 =
      .ok (q96, 0#128, 18446744073709551616#128, 0#128) ∧
    ¬ SafeStep (2#256 * q96) q96 18446744073709551616#128 1000 3000#32 := by
  have free : computeSwapStep (2#256 * q96) q96 18446744073709551616#128 1000 3000#32 =
      .ok (q96, 0#128, 18446744073709551616#128, 0#128) := by decide +kernel
  refine ⟨free, ?_⟩
  rintro ⟨price, paid, out, kept, answer, -, -, -, costs⟩
  rw [free] at answer
  cases answer
  exact absurd (costs (by decide)) (by decide)

end UniswapV3Pool
end ArbEngine
