import Mathlib.Algebra.Order.Floor.Div
import Mathlib.Tactic.Linarith
import Mathlib.Tactic.Ring

/-!
# The swap step of a concentrated-liquidity pool

What an exact-input step between two square-root prices takes, pays and moves to, as the
contracts of Uniswap V3 compute it, over the natural numbers. Prices carry 96 binary places,
fees are in millionths. Amounts paid in are rounded up, amounts paid out down, and a price that
is stopped at is rounded against the trader.

The general facts are about the two roundings: `ceilDiv_ceilDiv` folds two divisions into one,
and a price that is stopped at has not reached its target (`nextPrice_ne_target`).
-/

namespace SwapMath

/-! ## Rounding -/

theorem lt_ceilDiv_iff {a b k : ℕ} (hb : 0 < b) : k < a ⌈/⌉ b ↔ b * k < a := by
  rw [← Nat.not_le, ← Nat.not_le, not_iff_not, ceilDiv_le_iff_le_mul hb]

/-- Rounding up twice is rounding up once. -/
theorem ceilDiv_ceilDiv {b c : ℕ} (a : ℕ) (hb : 0 < b) (hc : 0 < c) :
    a ⌈/⌉ b ⌈/⌉ c = a ⌈/⌉ (b * c) := by
  apply eq_of_forall_ge_iff
  intro k
  rw [ceilDiv_le_iff_le_mul hc, ceilDiv_le_iff_le_mul hb,
    ceilDiv_le_iff_le_mul (Nat.mul_pos hb hc), Nat.mul_assoc]

theorem div_le_ceilDiv {a b : ℕ} (hb : 0 < b) : a / b ≤ a ⌈/⌉ b := by
  apply Nat.div_le_of_le_mul
  exact (ceilDiv_le_iff_le_mul hb).mp le_rfl

/-- The two roundings agree where the division is exact. -/
theorem ceilDiv_eq_div_iff {a b : ℕ} (hb : 0 < b) : a ⌈/⌉ b = a / b ↔ b ∣ a := by
  constructor
  · intro h
    have up : a ≤ b * (a / b) := (ceilDiv_le_iff_le_mul hb).mp h.le
    exact ⟨a / b, le_antisymm up (Nat.mul_div_le a b)⟩
  · rintro ⟨k, rfl⟩
    apply le_antisymm
    · rw [ceilDiv_le_iff_le_mul hb, Nat.mul_div_cancel_left _ hb]
    · exact div_le_ceilDiv hb

/-! ## A step -/

/-- The part of the input that is not kept as the fee. -/
def lessFee (remaining fee : ℕ) : ℕ := remaining * (1000000 - fee) / 1000000

/-- What moving the price to `next` takes, on the way to the target. -/
def amountIn (start target liquidity next : ℕ) : ℕ :=
  if target ≤ start then (liquidity * 2 ^ 96 * (start - next)) ⌈/⌉ start ⌈/⌉ next
  else (liquidity * (next - start)) ⌈/⌉ 2 ^ 96

/-- What moving the price to `next` pays. -/
def amountOut (start target liquidity next : ℕ) : ℕ :=
  if target ≤ start then liquidity * (start - next) / 2 ^ 96
  else liquidity * 2 ^ 96 * (next - start) / next / start

/-- Where an input stops that does not take the price to the target. -/
def nextPrice (start target liquidity amount : ℕ) : ℕ :=
  if target ≤ start then
    (liquidity * 2 ^ 96 * start) ⌈/⌉ (liquidity * 2 ^ 96 + amount * start)
  else start + amount * 2 ^ 96 / liquidity

structure Step where
  price : ℕ
  amountIn : ℕ
  amountOut : ℕ
  fee : ℕ
deriving DecidableEq, Repr

/-- The contract compares the price it has moved to with the target, not the input. -/
def computeSwapStep (start target liquidity remaining fee : ℕ) : Step :=
  let less := lessFee remaining fee
  let next :=
    if amountIn start target liquidity target ≤ less then target
    else nextPrice start target liquidity less
  let paid := amountIn start target liquidity next
  { price := next
    amountIn := paid
    amountOut := amountOut start target liquidity next
    fee := if next = target then (paid * fee) ⌈/⌉ (1000000 - fee) else remaining - paid }

/-! ## Stopping short -/

section Short

variable {start target liquidity amount : ℕ}

/-- **An input that is not enough stops before the target.** -/
theorem nextPrice_ne_target (hs : 0 < start) (ht : 0 < target)
    (short : amount < amountIn start target liquidity target) :
    nextPrice start target liquidity amount ≠ target := by
  unfold amountIn at short
  unfold nextPrice
  by_cases down : target ≤ start
  · rw [if_pos down, ceilDiv_ceilDiv _ hs ht, lt_ceilDiv_iff (Nat.mul_pos hs ht)] at short
    rw [if_pos down]
    obtain ⟨diff, rfl⟩ := Nat.exists_eq_add_of_le down
    rw [Nat.add_sub_cancel_left] at short
    have pos : 0 < liquidity * 2 ^ 96 := by
      apply Nat.pos_of_ne_zero
      intro h
      rw [h, Nat.zero_mul] at short
      exact absurd short (Nat.not_lt_zero _)
    apply Nat.ne_of_gt
    rw [lt_ceilDiv_iff (Nat.add_pos_left pos _)]
    calc (liquidity * 2 ^ 96 + amount * (target + diff)) * target
        = liquidity * 2 ^ 96 * target + (target + diff) * target * amount := by ring
      _ < liquidity * 2 ^ 96 * target + liquidity * 2 ^ 96 * diff := by omega
      _ = liquidity * 2 ^ 96 * (target + diff) := by ring
  · rw [if_neg down, lt_ceilDiv_iff (by norm_num)] at short
    rw [if_neg down]
    obtain ⟨diff, rfl⟩ := Nat.exists_eq_add_of_le (Nat.le_of_not_le down)
    rw [Nat.add_sub_cancel_left] at short
    have moved : amount * 2 ^ 96 / liquidity < diff := by
      apply Nat.div_lt_of_lt_mul
      omega
    omega

/-- **A stop that divides exactly takes the whole input.** -/
theorem amountIn_of_exact {next : ℕ} (down : target ≤ start) (hs : 0 < start) (hn : 0 < next)
    (h : next * (liquidity * 2 ^ 96 + amount * start) = liquidity * 2 ^ 96 * start) :
    amountIn start target liquidity next = amount := by
  have split : liquidity * 2 ^ 96 * (start - next) = start * next * amount := by
    have expand : liquidity * 2 ^ 96 * start =
        liquidity * 2 ^ 96 * next + start * next * amount := by
      rw [← h]
      ring
    rw [Nat.mul_sub, expand, Nat.add_sub_cancel_left]
  have pos := Nat.mul_pos hs hn
  unfold amountIn
  rw [if_pos down, ceilDiv_ceilDiv _ hs hn, split,
    (ceilDiv_eq_div_iff pos).mpr (Nat.dvd_mul_right _ _), Nat.mul_div_cancel_left _ pos]

/-- On the way up a stop takes the whole input where less than one unit of it is lost. -/
theorem ceilDiv_moved_eq_iff (hL : 0 < liquidity) :
    (liquidity * (amount * 2 ^ 96 / liquidity)) ⌈/⌉ 2 ^ 96 = amount ↔
      amount * 2 ^ 96 % liquidity < 2 ^ 96 := by
  have divided := Nat.div_add_mod (amount * 2 ^ 96) liquidity
  generalize liquidity * (amount * 2 ^ 96 / liquidity) = moved at *
  have rest := Nat.mod_lt (amount * 2 ^ 96) hL
  rw [Nat.ceilDiv_eq_add_pred_div]
  omega

end Short

/-! ## The two kinds of step -/

section Step

variable {start target liquidity remaining fee : ℕ}

theorem computeSwapStep_of_enough
    (enough : amountIn start target liquidity target ≤ lessFee remaining fee) :
    computeSwapStep start target liquidity remaining fee =
      { price := target
        amountIn := amountIn start target liquidity target
        amountOut := amountOut start target liquidity target
        fee := (amountIn start target liquidity target * fee) ⌈/⌉ (1000000 - fee) } := by
  unfold computeSwapStep
  simp only [if_pos enough, if_true]

theorem computeSwapStep_of_short {next : ℕ} (hs : 0 < start) (ht : 0 < target)
    (short : lessFee remaining fee < amountIn start target liquidity target)
    (hnext : next = nextPrice start target liquidity (lessFee remaining fee)) :
    computeSwapStep start target liquidity remaining fee =
      { price := next
        amountIn := amountIn start target liquidity next
        amountOut := amountOut start target liquidity next
        fee := remaining - amountIn start target liquidity next } := by
  unfold computeSwapStep
  simp only [if_neg (Nat.not_le.mpr short), if_neg (nextPrice_ne_target hs ht short), hnext]

end Step

end SwapMath
