import ArbEngine.Lib.SwapMath
import ArbEngine.Proof.Pricing.V3Exact

/-!
# The swap step beside the contract's

`SwapMath.computeSwapStep` is what Uniswap's contract computes. The step of the engine rounds
what is paid in down where the contract rounds it up, and takes its fee of the input without the
fee. Where no product overflows the two agree exactly on the steps where these differences do not
show (`matches_solidity_iff`).

The contract's own function is in `SwapMath`, over numbers without bounds. It is the other side of
the comparison and models nothing of the engine. Where a product of the engine does overflow there
is nothing to compare: the contract has a 512-bit product for it.
-/

namespace ArbEngine
namespace UniswapV3Pool

/-- **The step answers, and it answers what the contract does.** -/
def MatchesSolidity (start target : U256) (liquidity : U128) (remaining : ℤ) (fee : U32) : Prop :=
  ∃ (price : U256) (paid out kept : U128),
    computeSwapStep start target liquidity remaining fee = .ok (price, paid, out, kept) ∧
      SwapMath.computeSwapStep start.toNat target.toNat liquidity.toNat remaining.toNat
        fee.toNat = ⟨price.toNat, paid.toNat, out.toNat, kept.toNat⟩

/-! ## Conditions -/

/-- What it takes to move the price all the way, as a fraction. -/
def inNum (start target liquidity : ℕ) : ℕ :=
  if target ≤ start then liquidity * (start - target) * 2 ^ 96 else liquidity * (target - start)

/-- What that fraction is divided by. On the way up it is the 96 places of a price, and nothing
    else. -/
def inDen (start target : ℕ) : ℕ := if target ≤ start then start * target else 2 ^ 96

/-- No product of 256 bits that the step makes overflows. Which products these are depends on the
    direction and on whether the target is reached. -/
def ProductsFit (start target liquidity less : ℕ) : Prop :=
  if target ≤ start then
    liquidity * (start - target) * 2 ^ 96 < 2 ^ 256 ∧ start * target < 2 ^ 256 ∧
      (less < inNum start target liquidity / inDen start target →
        liquidity * start * 2 ^ 96 < 2 ^ 256 ∧ less * start < 2 ^ 256)
  else
    liquidity * (target - start) < 2 ^ 256 ∧
      (inNum start target liquidity / inDen start target ≤ less →
        liquidity * (target - start) * 2 ^ 96 < 2 ^ 256 ∧ start * target < 2 ^ 256) ∧
      (less < inNum start target liquidity / inDen start target →
        liquidity * movedBy liquidity less * 2 ^ 96 < 2 ^ 256 ∧
          start * (start + movedBy liquidity less) < 2 ^ 256)

/-- The amounts fit 128 bits, and so do the two products with the fee. -/
def AmountsFit (start target liquidity remaining less fee : ℕ) : Prop :=
  remaining * (1000000 - fee) < 2 ^ 128 ∧
    inNum start target liquidity / inDen start target < 2 ^ 128 ∧
    if inNum start target liquidity / inDen start target ≤ less then
      inNum start target liquidity / inDen start target * fee < 2 ^ 128 ∧
        (start < target → liquidity * (target - start) * 2 ^ 96 / (start * target) < 2 ^ 128)
    else
      start < target → liquidity * movedBy liquidity less * 2 ^ 96 /
        (start * (start + movedBy liquidity less)) < 2 ^ 128

/-- **The differences do not show.** A step that reaches its target divides exactly, and its fee
    comes to the same on either base; one that stops short divides exactly on its way down, and
    loses less than one unit of input on its way up. -/
def RoundsAlike (start target liquidity less fee : ℕ) : Prop :=
  if inNum start target liquidity / inDen start target ≤ less then
    inDen start target ∣ inNum start target liquidity ∧
      (inNum start target liquidity / inDen start target * fee) ⌈/⌉ 1000000 =
        (inNum start target liquidity / inDen start target * fee) ⌈/⌉ (1000000 - fee)
  else if target ≤ start then
    liquidity * 2 ^ 96 + less * start ∣ liquidity * start * 2 ^ 96
  else less * 2 ^ 96 % liquidity < 2 ^ 96

/-! ## All the way -/

section Numbers

variable {start target liquidity less : ℕ}

/-- A fraction with prices below the line is one. -/
theorem inDen_pos (segment : Segment start target) : 0 < inDen start target := by
  unfold inDen
  split
  · exact Nat.mul_pos segment.start_pos segment.target_pos
  · norm_num

/-- Where the products fit, the engine rounds the fraction down. -/
theorem amountInOf_eq (fits : ProductsFit start target liquidity less) :
    amountInOf start target liquidity = inNum start target liquidity / inDen start target := by
  unfold ProductsFit at fits
  unfold amountInOf inNum inDen
  split at fits
  · rename_i down
    rw [if_pos down, if_pos down, if_pos down]
    exact amount0Of_of_fits fits.1 fits.2.1
  · rename_i up
    rw [if_neg up, if_neg up, if_neg up]
    exact amount1Of_of_fits fits.1

/-- And the contract rounds it up, in both directions. -/
theorem solidity_amountIn_eq (segment : Segment start target) :
    SwapMath.amountIn start target liquidity target =
      inNum start target liquidity ⌈/⌉ inDen start target := by
  unfold SwapMath.amountIn inNum inDen
  split
  · rw [SwapMath.ceilDiv_ceilDiv _ segment.start_pos segment.target_pos, Nat.mul_right_comm]
  · rfl

/-- What is paid out is rounded down on both sides. -/
theorem solidity_amountOut_eq (fits : ProductsFit start target liquidity less)
    (enough : inNum start target liquidity / inDen start target ≤ less) :
    SwapMath.amountOut start target liquidity target = amountOutOf start target liquidity := by
  unfold ProductsFit at fits
  unfold SwapMath.amountOut amountOutOf
  split at fits
  · rename_i down
    rw [if_pos down, if_pos down, amount1Of_of_fits (by omega)]
  · rename_i up
    obtain ⟨hnum, hden⟩ := fits.2.1 enough
    rw [if_neg up, if_neg up, amount0Of_of_fits hnum hden, Nat.div_div_eq_div_mul,
      Nat.mul_right_comm, Nat.mul_comm target start]

/-- What is paid for the whole way fits by itself on the way down. -/
theorem amountOutOf_lt_iff (fits : ProductsFit start target liquidity less)
    (enough : inNum start target liquidity / inDen start target ≤ less) :
    amountOutOf start target liquidity < 2 ^ 128 ↔
      (start < target → liquidity * (target - start) * 2 ^ 96 / (start * target) < 2 ^ 128) := by
  unfold ProductsFit at fits
  unfold amountOutOf
  split at fits
  · rename_i down
    have small : liquidity * (start - target) / 2 ^ 96 < 2 ^ 128 := by omega
    rw [if_pos down, amount1Of_of_fits (by omega)]
    exact iff_of_true small (fun up => absurd down (Nat.not_le.mpr up))
  · rename_i up
    obtain ⟨hnum, hden⟩ := fits.2.1 enough
    rw [if_neg up, amount0Of_of_fits hnum hden]
    exact ⟨fun h _ => h, fun h => h (Nat.lt_of_not_le up)⟩

/-! ## Stopping short -/

/-- A stop on the way down, without its overflows. -/
theorem stopsAt_down {price out : ℕ} (ht : 0 < target) (down : target ≤ start)
    (hnum : liquidity * start * 2 ^ 96 < 2 ^ 256) (hmul : less * start < 2 ^ 256)
    (short : less < liquidity * (start - target) * 2 ^ 96 / (start * target)) :
    StopsAt start target liquidity less price out ↔
      price = priceBelow start liquidity less ∧
        out = liquidity * (start - price) / 2 ^ 96 := by
  have den := ((Nat.le_mul_of_pos_left _ ht).trans (target_mul_le down short)).trans_lt hnum
  unfold StopsAt
  rw [if_pos down, and_iff_right hnum, and_iff_right hmul, and_iff_right den]

/-- A stop on the way up. -/
theorem stopsAt_up {price out : ℕ} (up : ¬ target ≤ start)
    (hnum : liquidity * movedBy liquidity less * 2 ^ 96 < 2 ^ 256)
    (hden : start * (start + movedBy liquidity less) < 2 ^ 256) :
    StopsAt start target liquidity less price out ↔
      price = start + movedBy liquidity less ∧
        out = liquidity * movedBy liquidity less * 2 ^ 96 / (start * price) := by
  unfold StopsAt
  rw [if_neg up, and_iff_right hnum, and_iff_right hden]

/-- The two roundings of a price on its way down: the contract rounds the exact price up, the
    engine rounds it down. -/
theorem nextPrice_eq_priceBelow_iff (down : target ≤ start) (hL : 0 < liquidity) :
    SwapMath.nextPrice start target liquidity less = priceBelow start liquidity less ↔
      liquidity * 2 ^ 96 + less * start ∣ liquidity * start * 2 ^ 96 := by
  unfold SwapMath.nextPrice priceBelow
  rw [if_pos down, Nat.mul_right_comm liquidity (2 ^ 96) start]
  exact SwapMath.ceilDiv_eq_div_iff (Nat.add_pos_left (Nat.mul_pos hL (by norm_num)) _)

/-- Where the price is exact, the contract takes the whole input for it too. -/
theorem amountIn_priceBelow (down : target ≤ start) (segment : Segment start target)
    (hL : 0 < liquidity)
    (short : less < liquidity * (start - target) * 2 ^ 96 / (start * target))
    (dvd : liquidity * 2 ^ 96 + less * start ∣ liquidity * start * 2 ^ 96) :
    SwapMath.amountIn start target liquidity (priceBelow start liquidity less) = less := by
  apply SwapMath.amountIn_of_exact down segment.start_pos
  · exact lt_of_lt_of_le segment.target_pos (target_le_priceBelow down hL short)
  · rw [Nat.mul_right_comm liquidity (2 ^ 96) start]
    exact Nat.div_mul_cancel dvd

/-- On the way up the price is the same; what it took need not be. -/
theorem amountIn_above_iff (up : ¬ target ≤ start) (hL : 0 < liquidity) :
    SwapMath.amountIn start target liquidity (start + movedBy liquidity less) = less ↔
      less * 2 ^ 96 % liquidity < 2 ^ 96 := by
  unfold SwapMath.amountIn
  rw [if_neg up, Nat.add_sub_cancel_left]
  exact SwapMath.ceilDiv_moved_eq_iff hL

/-- What is paid out is rounded down twice by the contract and once by the engine; it comes to the
    same. -/
theorem amountOut_above (up : ¬ target ≤ start) :
    SwapMath.amountOut start target liquidity (start + movedBy liquidity less) =
      liquidity * movedBy liquidity less * 2 ^ 96 /
        (start * (start + movedBy liquidity less)) := by
  unfold SwapMath.amountOut
  rw [if_neg up, Nat.add_sub_cancel_left, Nat.div_div_eq_div_mul, Nat.mul_right_comm,
    Nat.mul_comm (start + _) start]

/-- A price that is stopped at is a word. -/
theorem StopsAt.price_lt {price out : ℕ} (h : StopsAt start target liquidity less price out)
    (segment : Segment start target) : price < 2 ^ 256 := by
  have hs := segment.start_lt
  unfold StopsAt at h
  split at h
  · obtain ⟨-, -, -, rfl, -⟩ := h
    exact lt_of_le_of_lt priceBelow_le (by omega)
  · obtain ⟨-, hden, rfl, -⟩ := h
    exact lt_of_le_of_lt (Nat.le_mul_of_pos_left _ segment.start_pos) hden

/-- What a stop pays on its way down always fits. -/
theorem StopsAt.out_lt_iff {price out : ℕ} (h : StopsAt start target liquidity less price out) :
    out < 2 ^ 128 ↔
      (start < target → liquidity * movedBy liquidity less * 2 ^ 96 /
        (start * (start + movedBy liquidity less)) < 2 ^ 128) := by
  unfold StopsAt at h
  split at h
  · rename_i down
    obtain ⟨hnum, -, -, -, rfl⟩ := h
    have le : liquidity * (start - price) ≤ liquidity * start :=
      Nat.mul_le_mul_left _ (Nat.sub_le _ _)
    exact iff_of_true (by omega) (fun up => absurd down (Nat.not_le.mpr up))
  · rename_i up
    obtain ⟨-, -, rfl, rfl⟩ := h
    exact ⟨fun small _ => small, fun small => small (Nat.lt_of_not_le up)⟩

/-- **The step stops where the contract does**, and for the whole input: on its way down. -/
theorem stopsAlike_down_iff (segment : Segment start target) (down : target ≤ start)
    (hL : 0 < liquidity) (hnum : liquidity * start * 2 ^ 96 < 2 ^ 256)
    (hmul : less * start < 2 ^ 256)
    (short : less < liquidity * (start - target) * 2 ^ 96 / (start * target)) :
    (StopsAt start target liquidity less (SwapMath.nextPrice start target liquidity less)
        (SwapMath.amountOut start target liquidity
          (SwapMath.nextPrice start target liquidity less)) ∧
      SwapMath.amountIn start target liquidity
        (SwapMath.nextPrice start target liquidity less) = less) ↔
    liquidity * 2 ^ 96 + less * start ∣ liquidity * start * 2 ^ 96 := by
  rw [stopsAt_down segment.target_pos down hnum hmul short, ← nextPrice_eq_priceBelow_iff down hL]
  constructor
  · rintro ⟨⟨same, -⟩, -⟩
    exact same
  · intro same
    have dvd := (nextPrice_eq_priceBelow_iff down hL).mp same
    rw [same]
    exact ⟨⟨rfl, if_pos down⟩, amountIn_priceBelow down segment hL short dvd⟩

/-- On its way up it always stops at the same price. -/
theorem stopsAlike_up_iff (up : ¬ target ≤ start) (hL : 0 < liquidity)
    (hnum : liquidity * movedBy liquidity less * 2 ^ 96 < 2 ^ 256)
    (hden : start * (start + movedBy liquidity less) < 2 ^ 256) :
    (StopsAt start target liquidity less (SwapMath.nextPrice start target liquidity less)
        (SwapMath.amountOut start target liquidity
          (SwapMath.nextPrice start target liquidity less)) ∧
      SwapMath.amountIn start target liquidity
        (SwapMath.nextPrice start target liquidity less) = less) ↔
    less * 2 ^ 96 % liquidity < 2 ^ 96 := by
  have next_eq : SwapMath.nextPrice start target liquidity less =
      start + movedBy liquidity less := if_neg up
  rw [stopsAt_up up hnum hden, next_eq, amountOut_above up, amountIn_above_iff up hL]
  exact and_iff_right ⟨rfl, rfl⟩

/-- Either way, where no product overflows. -/
theorem stopsAlike_iff (fee : ℕ) (segment : Segment start target) (hL : 0 < liquidity)
    (fits : ProductsFit start target liquidity less)
    (short : less < inNum start target liquidity / inDen start target) :
    (StopsAt start target liquidity less (SwapMath.nextPrice start target liquidity less)
        (SwapMath.amountOut start target liquidity
          (SwapMath.nextPrice start target liquidity less)) ∧
      SwapMath.amountIn start target liquidity
        (SwapMath.nextPrice start target liquidity less) = less) ↔
    RoundsAlike start target liquidity less fee := by
  unfold ProductsFit at fits
  unfold RoundsAlike
  rw [if_neg (Nat.not_le.mpr short)]
  by_cases down : target ≤ start
  · rw [if_pos down] at fits ⊢
    obtain ⟨hnum, hmul⟩ := fits.2.2 short
    simp only [inNum, inDen, if_pos down] at short
    exact stopsAlike_down_iff segment down hL hnum hmul short
  · rw [if_neg down] at fits ⊢
    obtain ⟨hnum, hden⟩ := fits.2.2 short
    exact stopsAlike_up_iff down hL hnum hden

end Numbers

section Step

variable {start target : U256} {liquidity : U128} {remaining : ℤ} {fee : U32}

/-- A step that reaches its target. The contract rounds what it takes up, so the two can only agree
    where there is nothing to round. -/
theorem matches_of_enough_iff (segment : Segment start.toNat target.toNat)
    (h0 : 0 ≤ remaining) (hlt : remaining < 2 ^ 127) (hfee : fee.toNat ≤ 1000000)
    (fits : ProductsFit start.toNat target.toNat liquidity.toNat (lessFeeOf fee remaining.toNat))
    (enough : inNum start.toNat target.toNat liquidity.toNat / inDen start.toNat target.toNat ≤
      lessFeeOf fee remaining.toNat) :
    MatchesSolidity start target liquidity remaining fee ↔
      AmountsFit start.toNat target.toNat liquidity.toNat remaining.toNat
        (lessFeeOf fee remaining.toNat) fee.toNat ∧
      RoundsAlike start.toNat target.toNat liquidity.toNat (lessFeeOf fee remaining.toNat)
        fee.toNat := by
  have hin := amountInOf_eq fits
  have hsol : SwapMath.amountIn start.toNat target.toNat liquidity.toNat target.toNat = _ :=
    solidity_amountIn_eq segment
  have exact_iff := SwapMath.ceilDiv_eq_div_iff (a := inNum start.toNat target.toNat
    liquidity.toNat) (inDen_pos segment)
  have out_iff := amountOutOf_lt_iff fits enough
  have enough' : amountInOf start.toNat target.toNat liquidity.toNat ≤
      lessFeeOf fee remaining.toNat := hin.trans_le enough
  unfold MatchesSolidity AmountsFit RoundsAlike
  simp only [computeSwapStep_eq_ok_iff segment h0 hlt hfee, ← out_iff, ← hin, if_pos enough']
  constructor
  · rintro ⟨price, paid, out, kept, ⟨hfits, hin128, h⟩, hS⟩
    rcases h with reaches | stops
    · -- The contract rounds the amount up, and may fall short where the code arrives: then it stops
      -- at another price than the target.
      by_cases all : SwapMath.amountIn start.toNat target.toNat liquidity.toNat target.toNat ≤
        SwapMath.lessFee remaining.toNat fee.toNat
      · rw [SwapMath.computeSwapStep_of_enough all, SwapMath.Step.mk.injEq] at hS
        obtain ⟨-, hpaid, -, hkept⟩ := hS
        have same : inNum start.toNat target.toNat liquidity.toNat ⌈/⌉
            inDen start.toNat target.toNat =
            amountInOf start.toNat target.toNat liquidity.toNat := by
          rw [← hsol, hpaid, reaches.paid_eq]
        refine ⟨⟨hfits, hin128, reaches.fee_fits, reaches.out_eq ▸ out.isLt⟩, ?_, ?_⟩
        · exact exact_iff.mp (by rw [same, hin])
        · rw [← reaches.kept_eq, ← hkept, hsol, same]
      · have stopped := SwapMath.computeSwapStep_of_short segment.start_pos segment.target_pos
          (Nat.lt_of_not_le all) rfl
        rw [stopped, SwapMath.Step.mk.injEq, reaches.price_eq] at hS
        exact absurd hS.1 (SwapMath.nextPrice_ne_target segment.start_pos segment.target_pos
          (Nat.lt_of_not_le all))
    · exact absurd enough' (Nat.not_le.mpr stops.short)
  · rintro ⟨⟨hfits, hin128, hfee128, hout128⟩, hdvd, hceil⟩
    have same : SwapMath.amountIn start.toNat target.toNat liquidity.toNat target.toNat =
        amountInOf start.toNat target.toNat liquidity.toNat := by
      rw [hsol, hin, exact_iff.mpr hdvd]
    obtain ⟨paid, hpaid⟩ := Word.exists_toNat_eq hin128
    obtain ⟨out, hout⟩ := Word.exists_toNat_eq hout128
    obtain ⟨kept, hkept⟩ := Word.exists_toNat_eq (w := 128)
      (n := (amountInOf start.toNat target.toNat liquidity.toNat * fee.toNat) ⌈/⌉ 1000000)
      (by rw [Nat.ceilDiv_eq_add_pred_div]; omega)
    refine ⟨target, paid, out, kept, ⟨hfits, hin128, .inl ?_⟩, ?_⟩
    · exact ⟨enough', hfee128, rfl, hpaid, hout, hkept⟩
    · have all : SwapMath.amountIn start.toNat target.toNat liquidity.toNat target.toNat ≤
          SwapMath.lessFee remaining.toNat fee.toNat := by
        rw [same]
        exact enough'
      rw [SwapMath.computeSwapStep_of_enough all, SwapMath.Step.mk.injEq, same,
        solidity_amountOut_eq fits enough]
      exact ⟨rfl, hpaid.symm, hout.symm, by rw [hkept, hceil]⟩

/-- A step that stops short beside the contract's, which stops short as well. -/
theorem matches_of_short_iff (segment : Segment start.toNat target.toNat)
    (h0 : 0 ≤ remaining) (hlt : remaining < 2 ^ 127) (hfee : fee.toNat ≤ 1000000)
    (fits : ProductsFit start.toNat target.toNat liquidity.toNat (lessFeeOf fee remaining.toNat))
    (short : lessFeeOf fee remaining.toNat <
      inNum start.toNat target.toNat liquidity.toNat / inDen start.toNat target.toNat) :
    MatchesSolidity start target liquidity remaining fee ↔
      AmountsFit start.toNat target.toNat liquidity.toNat remaining.toNat
        (lessFeeOf fee remaining.toNat) fee.toNat ∧
      RoundsAlike start.toNat target.toNat liquidity.toNat (lessFeeOf fee remaining.toNat)
        fee.toNat := by
  have hin := amountInOf_eq fits
  -- Rounded up the amount is only further away, so the contract stops short as well.
  have shortS : SwapMath.lessFee remaining.toNat fee.toNat <
      SwapMath.amountIn start.toNat target.toNat liquidity.toNat target.toNat := by
    rw [solidity_amountIn_eq segment]
    exact lt_of_lt_of_le short (SwapMath.div_le_ceilDiv (inDen_pos segment))
  have stopped := SwapMath.computeSwapStep_of_short segment.start_pos segment.target_pos shortS rfl
  have less_eq : SwapMath.lessFee remaining.toNat fee.toNat = lessFeeOf fee remaining.toNat := rfl
  have shortIn := short.trans_eq hin.symm
  have alike := stopsAlike_iff fee.toNat segment (liquidity_pos shortIn) fits short
  unfold MatchesSolidity AmountsFit
  simp only [computeSwapStep_eq_ok_iff segment h0 hlt hfee, stopped, less_eq,
    SwapMath.Step.mk.injEq, ← hin, if_neg (Nat.not_le.mpr shortIn)]
  constructor
  · rintro ⟨price, paid, out, kept, ⟨hfits, hin128, reaches | stops⟩, hprice, hpaid, hout, -⟩
    · exact absurd reaches.enough (Nat.not_le.mpr shortIn)
    · have stopsAt := stops.stops
      have small := stopsAt.out_lt_iff.mp out.isLt
      rw [← hprice, ← hout] at stopsAt
      exact ⟨⟨hfits, hin128, small⟩, alike.mp ⟨stopsAt, hpaid.trans stops.paid_eq⟩⟩
  · rintro ⟨⟨hfits, hin128, small⟩, rounds⟩
    obtain ⟨stopsAt, whole⟩ := alike.mpr rounds
    obtain ⟨price, hprice⟩ := Word.exists_toNat_eq (stopsAt.price_lt segment)
    obtain ⟨out, hout⟩ := Word.exists_toNat_eq (stopsAt.out_lt_iff.mpr small)
    obtain ⟨paid, hpaid⟩ := Word.exists_toNat_eq (w := 128)
      (lt_of_le_of_lt (lessFeeOf_le fee remaining.toNat) (by omega))
    obtain ⟨kept, hkept⟩ := Word.exists_toNat_eq (w := 128)
      (n := remaining.toNat - lessFeeOf fee remaining.toNat) (by omega)
    rw [whole]
    refine ⟨price, paid, out, kept, ⟨hfits, hin128, .inr ⟨shortIn, ?_, hpaid, hkept⟩⟩,
      hprice.symm, hpaid.symm, hout.symm, hkept.symm⟩
    rw [hprice, hout]
    exact stopsAt

/-- **The step is the contract's exactly where its amounts fit and the roundings do not show.** By
    whether the engine's step reaches its target; where it does not, neither does the contract's,
    which asks for more. -/
theorem matches_solidity_iff (segment : Segment start.toNat target.toNat)
    (h0 : 0 ≤ remaining) (hlt : remaining < 2 ^ 127) (hfee : fee.toNat < 1000000)
    (fits : ProductsFit start.toNat target.toNat liquidity.toNat
      (lessFeeOf fee remaining.toNat)) :
    MatchesSolidity start target liquidity remaining fee ↔
      AmountsFit start.toNat target.toNat liquidity.toNat remaining.toNat
        (lessFeeOf fee remaining.toNat) fee.toNat ∧
      RoundsAlike start.toNat target.toNat liquidity.toNat (lessFeeOf fee remaining.toNat)
        fee.toNat := by
  by_cases enough : inNum start.toNat target.toNat liquidity.toNat /
      inDen start.toNat target.toNat ≤ lessFeeOf fee remaining.toNat
  · exact matches_of_enough_iff segment h0 hlt hfee.le fits enough
  · exact matches_of_short_iff segment h0 hlt hfee.le fits (Nat.lt_of_not_le enough)

end Step

/-! ## From price one to price four -/

def samplePrice : U256 := q96

def sampleTarget : U256 := 2#256 * q96

/-- Both prices are in range. -/
theorem sampleSegment : Segment samplePrice.toNat sampleTarget.toNat :=
  ⟨by decide, by decide, by decide, by decide⟩

/-- A thousand units at a fee of 0.3% stop short, and less than one of them is lost. -/
theorem sample_short_step_matches :
    MatchesSolidity samplePrice sampleTarget 1000000#128 1000 3000#32 := by
  refine (matches_solidity_iff sampleSegment (by decide) (by decide) (by decide) ?_).mpr ⟨?_, ?_⟩
  · unfold ProductsFit
    decide +kernel
  · unfold AmountsFit
    decide +kernel
  · unfold RoundsAlike
    decide +kernel

/-- **Two million units reach the target**: the step keeps a fee of 3000 where the contract keeps
    3010. -/
theorem sample_fee_too_low :
    computeSwapStep samplePrice sampleTarget 1000000#128 2000000 3000#32 =
      .ok (sampleTarget, 1000000#128, 500000#128, 3000#128) ∧
    SwapMath.computeSwapStep samplePrice.toNat sampleTarget.toNat 1000000 2000000 3000 =
      ⟨sampleTarget.toNat, 1000000, 500000, 3010⟩ ∧
    ProductsFit samplePrice.toNat sampleTarget.toNat (1000000#128).toNat
      (lessFeeOf 3000#32 (2000000 : ℤ).toNat) ∧
    ¬ MatchesSolidity samplePrice sampleTarget 1000000#128 2000000 3000#32 := by
  have fits : ProductsFit samplePrice.toNat sampleTarget.toNat (1000000#128).toNat
      (lessFeeOf 3000#32 (2000000 : ℤ).toNat) := by
    unfold ProductsFit
    decide +kernel
  refine ⟨by decide +kernel, by decide +kernel, fits, ?_⟩
  intro same
  obtain ⟨-, alike⟩ := (matches_of_enough_iff sampleSegment (by decide) (by decide) (by decide)
    fits (by decide +kernel)).mp same
  revert alike
  unfold RoundsAlike
  decide +kernel

end UniswapV3Pool
end ArbEngine
