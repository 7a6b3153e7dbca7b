import Mathlib.Tactic.FieldSimp
import Mathlib.Tactic.Positivity
import ArbEngine.Proof.Pricing.V2Inverse

/-!
# The execution price of a V2 pair

An execution price is a quote in the units people read: what is paid out for each unit paid in,
both with their decimals. It is below the spot price, the ratio of the two reserves
(`price_lt_spot`); so buying and selling against the same reserves loses, on whatever amounts
(`price_mul_lt_one`).
-/

namespace ArbEngine
namespace UniswapV2Pair

open ConstantProduct

/-! ## What a price is made of -/

theorem u256ToDecimal_eq_ok {val : U256} {decimals : ℕ} {x : ℚ}
    (h : u256ToDecimal val decimals = .ok x) :
    x = (parseDecimal val).getD 0 / 10 ^ decimals := by
  unfold u256ToDecimal at h
  split at h
  · exact (Outcome.ok.inj h).symm
  · cases h

/-- An integer that counts for something has been parsed. -/
theorem parseDecimal_of_ne_zero {val : U256} (h : (parseDecimal val).getD 0 ≠ 0) :
    (parseDecimal val).getD 0 = val.toNat := by
  unfold parseDecimal at h ⊢
  split
  · rfl
  · rename_i hbig
    rw [if_neg hbig] at h
    exact absurd rfl h

theorem decimalDiv_eq_ok {a b x : ℚ} (h : decimalDiv a b = .ok x) : x = a / b := by
  unfold decimalDiv at h
  split at h
  · exact (Outcome.ok.inj h).symm
  · cases h

/-- **A positive price is the quotient of what is paid out and what is paid in.** -/
theorem getExecutionPrice_eq_ok {p : UniswapV2Pair} {tok : Token} {amount : U256} {x : ℚ}
    (h : p.getExecutionPrice amount tok = .ok x) (hx : 0 < x) :
    ∃ out, p.getAmountOut amount tok = .ok out ∧ 0 < amount.toNat ∧ 0 < out.toNat ∧
      x = (out.toNat / 10 ^ (p.otherToken tok).decimals) /
        (amount.toNat / 10 ^ tok.decimals) := by
  unfold getExecutionPrice at h
  obtain ⟨out, hout, h⟩ := Outcome.bind_eq_ok.mp h
  obtain ⟨aIn, hin, h⟩ := Outcome.bind_eq_ok.mp h
  obtain ⟨aOut, haOut, h⟩ := Outcome.bind_eq_ok.mp h
  have hin := u256ToDecimal_eq_ok hin
  have haOut := u256ToDecimal_eq_ok haOut
  split at h
  · cases h
    exact absurd hx (lt_irrefl 0)
  · rename_i hne
    have hquot := decimalDiv_eq_ok h
    have hne' : aOut ≠ 0 := by
      rintro rfl
      rw [zero_div] at hquot
      exact hx.ne' hquot
    have parsedIn : (parseDecimal amount).getD 0 ≠ 0 := by
      intro hzero
      rw [hzero, zero_div] at hin
      exact hne hin
    have parsedOut : (parseDecimal out).getD 0 ≠ 0 := by
      intro hzero
      rw [hzero, zero_div] at haOut
      exact hne' haOut
    rw [parseDecimal_of_ne_zero parsedIn] at hin parsedIn
    rw [parseDecimal_of_ne_zero parsedOut] at haOut parsedOut
    refine ⟨out, hout, ?_, ?_, ?_⟩
    · exact Nat.pos_of_ne_zero (Nat.cast_ne_zero.mp parsedIn)
    · exact Nat.pos_of_ne_zero (Nat.cast_ne_zero.mp parsedOut)
    · rw [hquot, hin, haOut]

/-! ## Prices against the reserves -/

/-- A reserve in the units people read. -/
def humanReserve (p : UniswapV2Pair) (side : Side) : ℚ :=
  (p.reserve side).toNat / 10 ^ (p.token side).decimals

theorem otherToken_token {p : UniswapV2Pair} (hne : ¬ p.SameToken) (side : Side) :
    p.otherToken (p.token side) = p.token side.other := by
  cases side with
  | token0 => exact if_pos rfl
  | token1 => exact if_neg fun h => hne h.symm

section Price

variable {p : UniswapV2Pair} {side : Side} {a b : U256} {x y : ℚ}

theorem humanReserve_pos (h0 : 0 < p.reserve0.toNat) (h1 : 0 < p.reserve1.toNat) :
    0 < p.humanReserve side := by
  have hpos : (0 : ℚ) < (p.reserve side).toNat := Nat.cast_pos.mpr (reserve_pos h0 h1 side)
  unfold humanReserve
  positivity

/-- **A price is below the ratio of the reserves.** -/
theorem price_lt_spot (hne : ¬ p.SameToken) (h0 : 0 < p.reserve0.toNat)
    (h1 : 0 < p.reserve1.toNat) (h : p.getExecutionPrice a (p.token side) = .ok x) (hx : 0 < x) :
    x * p.humanReserve side < p.humanReserve side.other := by
  obtain ⟨out, hout, hin, hpos, rfl⟩ := getExecutionPrice_eq_ok h hx
  rw [otherToken_token hne]
  have hquote : out.toNat = quote p.keptBps 10000 a.toNat (p.reserve side).toNat
      (p.reserve side.other).toNat :=
    getAmountOut_quote (getReservesOrdered_token hne side) (reserve_pos h0 h1 side) hout
  have hlt : out.toNat * (p.reserve side).toNat < a.toNat * (p.reserve side.other).toNat := by
    rw [hquote] at hpos ⊢
    exact quote_mul_lt (reserve_pos h0 h1 side) (by norm_num) (Nat.sub_le _ _)
      (reserve_pos h0 h1 side.other) hpos
  have hlt' : (out.toNat : ℚ) * (p.reserve side).toNat <
      a.toNat * (p.reserve side.other).toNat := by
    exact_mod_cast hlt
  have hin' : (0 : ℚ) < a.toNat := Nat.cast_pos.mpr hin
  unfold humanReserve
  calc (out.toNat : ℚ) / 10 ^ (p.token side.other).decimals /
          (a.toNat / 10 ^ (p.token side).decimals) *
          ((p.reserve side).toNat / 10 ^ (p.token side).decimals)
      = out.toNat * (p.reserve side).toNat /
          (a.toNat * 10 ^ (p.token side.other).decimals) := by
        field_simp
    _ < a.toNat * (p.reserve side.other).toNat /
          (a.toNat * 10 ^ (p.token side.other).decimals) := by
        apply div_lt_div_of_pos_right hlt'
        positivity
    _ = (p.reserve side.other).toNat / 10 ^ (p.token side.other).decimals := by
        field_simp

/-- **Two prices in opposite directions lose**, each on an amount of its own. -/
theorem price_mul_lt_one (side : Side) (hne : ¬ p.SameToken) (h0 : 0 < p.reserve0.toNat)
    (h1 : 0 < p.reserve1.toNat) (hsell : p.getExecutionPrice a (p.token side) = .ok x)
    (hbuy : p.getExecutionPrice b (p.token side.other) = .ok y) (hx : 0 < x) (hy : 0 < y) :
    x * y < 1 := by
  have sell := price_lt_spot hne h0 h1 hsell hx
  have buy := price_lt_spot hne h0 h1 hbuy hy
  have back : side.other.other = side := by cases side <;> rfl
  rw [back] at buy
  have hpos : 0 < p.humanReserve side := humanReserve_pos h0 h1
  have round : x * y * p.humanReserve side < 1 * p.humanReserve side := by
    calc x * y * p.humanReserve side = y * (x * p.humanReserve side) := by ring
      _ < y * p.humanReserve side.other := by exact mul_lt_mul_of_pos_left sell hy
      _ < p.humanReserve side := buy
      _ = 1 * p.humanReserve side := (one_mul _).symm
  exact lt_of_mul_lt_mul_right round hpos.le

end Price

/-! ## The same pair with its tokens the other way round -/

/-- The pair with the order of its tokens exchanged. -/
def swapped (p : UniswapV2Pair) : UniswapV2Pair :=
  { p with
    token0 := p.token1
    token1 := p.token0
    reserve0 := p.reserve1
    reserve1 := p.reserve0 }

/-- **The order of the tokens does not matter to a price.** -/
theorem getExecutionPrice_swapped {p : UniswapV2Pair} (hne : ¬ p.SameToken) (side : Side)
    (amount : U256) :
    p.swapped.getExecutionPrice amount (p.token side) =
      p.getExecutionPrice amount (p.token side) := by
  have hne' : ¬ p.token1.address = p.token0.address := fun h => hne h.symm
  have hne'' : ¬ p.token0.address = p.token1.address := hne
  have reserves : p.swapped.getReservesOrdered (p.token side) =
      p.getReservesOrdered (p.token side) := by
    cases side <;> simp [getReservesOrdered, swapped, token, hne', hne'']
  have other : p.swapped.otherToken (p.token side) = p.otherToken (p.token side) := by
    cases side <;> simp [otherToken, swapped, token, hne', hne'']
  have out : p.swapped.getAmountOut amount (p.token side) =
      p.getAmountOut amount (p.token side) := by
    unfold getAmountOut
    rw [reserves]
    rfl
  unfold getExecutionPrice
  rw [out, other]

end UniswapV2Pair
end ArbEngine
