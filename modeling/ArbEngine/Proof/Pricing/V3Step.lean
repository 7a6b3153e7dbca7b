import Mathlib.Algebra.Order.Floor.Div
import Mathlib.Tactic.Linarith
import Mathlib.Tactic.Ring
import ArbEngine.Pricing.AmmV3

/-!
# What one swap step takes

`computeSwapStep` either moves the price all the way to its target, taking what that costs
and the fee on it, or stops short and takes everything that is left. Which of the two it
does is decided by one comparison of natural numbers, and that comparison is all the loop
proof needs: `computeSwapStep_cases` is the interface.

The second result is about the steps that go nowhere. From a price to itself a step costs
nothing, takes nothing and pays nothing, whatever the liquidity (`computeSwapStep_stay`).
-/

namespace ArbEngine
namespace UniswapV3Pool

/-- The part of an amount that is priced. -/
def lessFeeOf (fee : U32) (amount : ℕ) : ℕ := amount * (1000000 - fee.toNat) / 1000000

/-- The fee charged on top of an input that filled a segment. -/
def feeOn (fee : U32) (amount : ℕ) : ℕ := (amount * fee.toNat) ⌈/⌉ 1000000

/-! ## Words -/

/-- A narrowing that answers keeps the number. -/
theorem toU128_eq_ok {x : U256} {y : U128} (h : toU128 x = .ok y) : y.toNat = x.toNat := by
  unfold toU128 at h
  split at h
  · rename_i hlt
    cases h
    rw [BitVec.toNat_setWidth, Nat.mod_eq_of_lt hlt]
  · cases h

/-- Widening and narrowing again is nothing. -/
theorem toU128_setWidth (x : U128) : toU128 (x.setWidth 256) = .ok x := by
  have hx : (x.setWidth 256).toNat = x.toNat :=
    BitVec.toNat_setWidth_of_le (by norm_num)
  have hlt : x.toNat < 2 ^ 128 := x.isLt
  unfold toU128
  rw [if_pos (by rw [hx]; exact hlt), Outcome.ok.injEq]
  exact BitVec.eq_of_toNat_eq (by rw [BitVec.toNat_setWidth, hx, Nat.mod_eq_of_lt hlt])

theorem toNat_fee (fee : U32) : (fee.setWidth 128).toNat = fee.toNat :=
  BitVec.toNat_setWidth_of_le (by norm_num)

theorem toNat_million : (1000000#128).toNat = 1000000 := by decide

/-- An amount that is not negative and has room is its own word. -/
theorem toNat_ofInt {z : ℤ} (h0 : 0 ≤ z) (h : z < 2 ^ 127) :
    (BitVec.ofInt 128 z).toNat = z.toNat := by
  rw [BitVec.toNat_ofInt, Int.emod_eq_of_lt h0 (by omega)]

/-- The source divides and adds one if there is a remainder; that is the quotient rounded up. -/
theorem toNat_divCeil (a : U128) : (divCeil a 1000000#128).toNat = a.toNat ⌈/⌉ 1000000 := by
  have ha : a.toNat < 2 ^ 128 := a.isLt
  have hmod : a % 1000000#128 = 0#128 ↔ a.toNat % 1000000 = 0 := by
    rw [← BitVec.toNat_inj, BitVec.toNat_umod, toNat_million]
    rfl
  unfold divCeil
  rw [Nat.ceilDiv_eq_add_pred_div, BitVec.toNat_add, BitVec.toNat_udiv, toNat_million]
  by_cases h : a.toNat % 1000000 = 0
  · rw [if_pos (hmod.mpr h)]
    simp only [BitVec.toNat_ofNat, Nat.zero_mod]
    omega
  · rw [if_neg (fun hz => h (hmod.mp hz))]
    have hone : (1#128).toNat = 1 := by decide
    rw [hone]
    omega

/-! ## The fee -/

/-- The input less its fee, where it answers. The source unwraps both the subtraction and the
    product, so both have to fit. -/
theorem lessFee_eq_ok {r a : U128} {fee : U32} (h : lessFee r fee = .ok a) :
    fee.toNat ≤ 1000000 ∧ r.toNat * (1000000 - fee.toNat) < 2 ^ 128 ∧
      a.toNat = lessFeeOf fee r.toNat := by
  unfold lessFee at h
  obtain ⟨kept, hk, h⟩ := Outcome.bind_eq_ok.mp h
  obtain ⟨prod, hp, h⟩ := Outcome.bind_eq_ok.mp h
  obtain ⟨hle, hk⟩ := Word.checkedSub_eq_some.mp (Outcome.unwrap_eq_ok.mp hk)
  have hp := Word.checkedMul_eq_some.mp (Outcome.unwrap_eq_ok.mp hp)
  rw [toNat_million, toNat_fee] at hle hk
  rw [hk] at hp
  cases h
  refine ⟨hle, hp ▸ prod.isLt, ?_⟩
  rw [BitVec.toNat_udiv, hp, toNat_million]
  rfl

/-- It answers where they do. -/
theorem lessFee_of_lt {r : U128} {fee : U32} (hfee : fee.toNat ≤ 1000000)
    (hr : r.toNat * (1000000 - fee.toNat) < 2 ^ 128) : ∃ a, lessFee r fee = .ok a := by
  obtain ⟨kept, hk, hkv⟩ := Word.checkedSub_of_le (a := 1000000#128) (b := fee.setWidth 128)
    (by rw [toNat_million, toNat_fee]; exact hfee)
  obtain ⟨prod, hp, _⟩ := Word.checkedMul_of_lt (a := r) (b := kept)
    (by rw [hkv, toNat_million, toNat_fee]; exact hr)
  refine ⟨prod / 1000000#128, ?_⟩
  unfold lessFee
  rw [hk, Outcome.unwrap_some, Outcome.ok_bind, hp, Outcome.unwrap_some, Outcome.ok_bind,
    Outcome.pure_eq_ok]

/-- **What fills a segment and the fee on it never exceed what was offered.** -/
theorem cost_le {fee : U32} (hfee : fee.toNat ≤ 1000000) {c amount : ℕ}
    (h : c ≤ lessFeeOf fee amount) : c + feeOn fee c ≤ amount := by
  have hfloor : c * 1000000 ≤ amount * (1000000 - fee.toNat) :=
    (Nat.le_div_iff_mul_le (by norm_num)).mp h
  -- The fee and what it leaves are a million together, which turns the ceiling into a sum.
  obtain ⟨kept, hkept⟩ := Nat.exists_eq_add_of_le hfee
  have hk : 1000000 - fee.toNat = kept := by omega
  rw [hk] at hfloor
  have hca : c ≤ amount := by
    by_contra hlt
    have : amount * kept ≤ amount * 1000000 := Nat.mul_le_mul_left _ (by omega)
    omega
  have hpaid : (c * fee.toNat) ⌈/⌉ 1000000 ≤ amount - c := by
    rw [ceilDiv_le_iff_le_mul (by norm_num)]
    obtain ⟨d, rfl⟩ := Nat.exists_eq_add_of_le hca
    have hsplit : (c + d) * 1000000 = (c + d) * fee.toNat + (c + d) * kept := by
      rw [hkept]
      ring
    have hcf : c * fee.toNat ≤ (c + d) * fee.toNat := Nat.mul_le_mul_right _ hca
    rw [Nat.add_sub_cancel_left]
    nlinarith
  unfold feeOn
  omega

/-! ## A step -/

/-- **Everything a successful step does**: all the way, or everything that is left. -/
theorem computeSwapStep_cases {start target price : U256} {liquidity paid out kept : U128}
    {remaining : ℤ} {fee : U32} (h0 : 0 ≤ remaining) (hlt : remaining < 2 ^ 127)
    (h : computeSwapStep start target liquidity remaining fee = .ok (price, paid, out, kept)) :
    fee.toNat ≤ 1000000 ∧ remaining.toNat * (1000000 - fee.toNat) < 2 ^ 128 ∧
      ∃ c, amountInMax start target (liquidity.setWidth 256) = .ok c ∧
        ((c.toNat ≤ lessFeeOf fee remaining.toNat ∧ price = target ∧ paid.toNat = c.toNat ∧
            kept.toNat = feeOn fee c.toNat) ∨
          (lessFeeOf fee remaining.toNat < c.toNat ∧
            paid.toNat + kept.toNat = remaining.toNat)) := by
  unfold computeSwapStep at h
  obtain ⟨less, hless, h⟩ := Outcome.bind_eq_ok.mp h
  obtain ⟨c, hc, h⟩ := Outcome.bind_eq_ok.mp h
  obtain ⟨c', hc', h⟩ := Outcome.bind_eq_ok.mp h
  obtain ⟨hfee, hfits, hlessv⟩ := lessFee_eq_ok hless
  rw [toNat_ofInt h0 hlt] at hfits hlessv
  have hcv := toU128_eq_ok hc'
  refine ⟨hfee, hfits, c, hc, ?_⟩
  split at h
  · rename_i hle
    obtain ⟨o, _, h⟩ := Outcome.bind_eq_ok.mp h
    obtain ⟨prod, hprod, h⟩ := Outcome.bind_eq_ok.mp h
    obtain ⟨o', _, h⟩ := Outcome.bind_eq_ok.mp h
    have hprod := Word.checkedMul_eq_some.mp (Outcome.unwrap_eq_ok.mp hprod)
    cases h
    rw [BitVec.le_def, hcv, hlessv] at hle
    refine Or.inl ⟨hle, rfl, hcv, ?_⟩
    rw [toNat_divCeil, hprod, hcv, toNat_fee]
    rfl
  · rename_i hlt
    obtain ⟨n, _, h⟩ := Outcome.bind_eq_ok.mp h
    obtain ⟨o, _, h⟩ := Outcome.bind_eq_ok.mp h
    obtain ⟨o', _, h⟩ := Outcome.bind_eq_ok.mp h
    obtain ⟨f, hf, h⟩ := Outcome.bind_eq_ok.mp h
    obtain ⟨hle, hf⟩ := Word.checkedSub_eq_some.mp (Outcome.unwrap_eq_ok.mp hf)
    cases h
    rw [BitVec.le_def, hcv, hlessv] at hlt
    rw [toNat_ofInt h0 ‹_›] at hle hf
    exact Or.inr ⟨Nat.lt_of_not_le hlt, by omega⟩

/-- No distance, no amount, in the first token. -/
theorem amount0Between_zero {liquidity start target : U256} (hs : 0 < start.toNat)
    (ht : 0 < target.toNat) (hfit : start.toNat * target.toNat < 2 ^ 256) :
    amount0Between liquidity 0#256 start target = .ok 0#256 := by
  obtain ⟨d, hd, hdv⟩ := Word.checkedMul_of_lt hfit
  have hd0 : d ≠ 0#256 := by
    intro h0
    rw [h0] at hdv
    have := Nat.mul_pos hs ht
    simp only [BitVec.toNat_ofNat, Nat.zero_mod] at hdv
    omega
  have hnone : Word.checkedMul liquidity 0#256 = some 0#256 := by
    simp [Word.checkedMul]
  have hnum : Word.checkedMul 0#256 q96 = some 0#256 := by decide
  unfold amount0Between
  rw [hnone, Option.getD_some, hnum, hd, Option.getD_some, Option.getD_some]
  unfold wordDiv
  dsimp only
  rw [if_neg hd0, BitVec.zero_udiv]

/-- And in the second. -/
theorem amount1Between_zero {liquidity : U256} :
    amount1Between liquidity 0#256 = .ok 0#256 := by
  have hnone : Word.checkedMul liquidity 0#256 = some 0#256 := by
    simp [Word.checkedMul]
  unfold amount1Between
  rw [hnone, Option.getD_some]
  decide

/-- **A step from a price to itself** takes nothing and pays nothing, at any liquidity. -/
theorem computeSwapStep_stay {price : U128} (liquidity : U128) {remaining : ℤ} {fee : U32}
    (h0 : 0 ≤ remaining) (hlt : remaining < 2 ^ 127) (hp : 0 < price.toNat)
    (hfee : fee.toNat ≤ 1000000)
    (hfits : remaining.toNat * (1000000 - fee.toNat) < 2 ^ 128) :
    computeSwapStep (price.setWidth 256) (price.setWidth 256) liquidity remaining fee =
      .ok (price.setWidth 256, 0#128, 0#128, 0#128) := by
  have hpv : (price.setWidth 256).toNat = price.toNat :=
    BitVec.toNat_setWidth_of_le (by norm_num)
  have hsq : (price.setWidth 256).toNat * (price.setWidth 256).toNat < 2 ^ 256 := by
    rw [hpv]
    calc price.toNat * price.toNat < 2 ^ 128 * 2 ^ 128 :=
          Nat.mul_lt_mul_of_lt_of_lt price.isLt price.isLt
      _ = 2 ^ 256 := by norm_num
  obtain ⟨less, hless⟩ := lessFee_of_lt (r := BitVec.ofInt 128 remaining) hfee
    (by rw [toNat_ofInt h0 hlt]; exact hfits)
  have hgap : gap (price.setWidth 256) (price.setWidth 256) = 0#256 := by
    unfold gap Word.checkedSub
    simp
  have hle : price.setWidth 256 ≤ price.setWidth 256 := BitVec.le_refl _
  have hmul : Word.checkedMul 0#128 (fee.setWidth 128) = some 0#128 := by
    simp [Word.checkedMul]
  have hzero : toU128 0#256 = .ok 0#128 := by decide
  have hceil : divCeil 0#128 1000000#128 = 0#128 := by decide
  have hin : amountInMax (price.setWidth 256) (price.setWidth 256) (liquidity.setWidth 256) =
      .ok 0#256 := by
    unfold amountInMax
    rw [if_pos hle, hgap]
    exact amount0Between_zero (by rw [hpv]; exact hp) (by rw [hpv]; exact hp) hsq
  have hout : amountOutMax (price.setWidth 256) (price.setWidth 256) (liquidity.setWidth 256) =
      .ok 0#256 := by
    unfold amountOutMax
    rw [if_pos hle, hgap]
    exact amount1Between_zero
  have hroom : 0#128 ≤ less := by
    rw [BitVec.le_def]
    exact Nat.zero_le _
  unfold computeSwapStep
  simp only [hless, hin, hzero, if_pos hroom, hout, hmul, hceil, Outcome.ok_bind,
    Outcome.unwrap_some, Outcome.pure_eq_ok]

end UniswapV3Pool
end ArbEngine
