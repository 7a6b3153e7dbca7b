import ArbEngine.Pricing.Pool
import ArbEngine.Proof.Pricing.V2Price
import ArbEngine.Proof.Pricing.V3Loop

/-!
# One law for the prices of both kinds of pool

What a pool says of a trade should agree with what it would pay: the execution price is the
quote for each unit of the input, it is below the spot price by the fee at least, and the price
impact is no less than the fee (`PriceLaw`).

A V2 pair prices its own quote, and keeps the law wherever its numbers fit a `Decimal`
(`UniswapV2Pair.keeps_law_iff`). A V3 pool answers with its spot price whatever the amount; it
keeps the law only without a fee, and where the swap happens to pay exactly the spot price
(`UniswapV3Pool.keeps_law_iff`).

The prices are told as `Decimal`s, and a number that does not fit one is read as zero, without an
error. Most of the cases below are about which of the three prices such a zero gets into.
-/

namespace ArbEngine

/-- An amount in the units people read. -/
def Token.human (t : Token) (amount : U256) : ℚ := amount.toNat / 10 ^ t.decimals

namespace Pool

/-- The share of an input that is kept as the fee. -/
def feeShare : Pool → ℚ
  | .v2 p => p.feeBps.toNat / 10000
  | .v3 p => p.fee.toNat / 1000000

/-- The other token of the pool. -/
def tokenOut (pool : Pool) (tokenIn : Token) : Token :=
  if tokenIn.address = pool.tokens.1.address then pool.tokens.2 else pool.tokens.1

/-- The pool has reserves, or a price. -/
def Priced : Pool → Prop
  | .v2 p => 0 < p.reserve0.toNat ∧ 0 < p.reserve1.toNat
  | .v3 p => 0 < p.sqrtPriceX96.toNat

instance (pool : Pool) : Decidable pool.Priced :=
  match pool with
  | .v2 _ => inferInstanceAs (Decidable (0 < _ ∧ 0 < _))
  | .v3 _ => inferInstanceAs (Decidable (0 < _))

/-- **What the three prices say of a trade agrees with what it pays.** -/
structure PriceLaw (pool : Pool) (amountIn : U256) (tokenIn : Token) (amountOut : U256) :
    Prop where
  answers : ∃ spot exec impact, pool.getSpotPrice tokenIn = .ok spot ∧
    pool.getExecutionPrice amountIn tokenIn = .ok exec ∧
    pool.getPriceImpact amountIn tokenIn = .ok impact ∧
    exec = (pool.tokenOut tokenIn).human amountOut / tokenIn.human amountIn ∧
    exec ≤ (1 - pool.feeShare) * spot ∧ pool.feeShare ≤ impact

end Pool

/-- An amount is never negative. -/
theorem Token.human_nonneg (t : Token) (amount : U256) : 0 ≤ t.human amount := by
  unfold Token.human
  positivity

/-- Where there is something, there is something in human units. -/
theorem Token.human_pos {t : Token} {amount : U256} (h : 0 < amount.toNat) :
    0 < t.human amount := by
  have : (0 : ℚ) < amount.toNat := Nat.cast_pos.mpr h
  unfold Token.human
  positivity

/-! ## V2 -/

namespace UniswapV2Pair

open ConstantProduct

/-- The reserve that the input goes to. -/
def reserveIn (p : UniswapV2Pair) (tokenIn : Token) : U256 :=
  if tokenIn.address = p.token0.address then p.reserve0 else p.reserve1

/-- The reserve that the output comes from. -/
def reserveOut (p : UniswapV2Pair) (tokenIn : Token) : U256 :=
  if tokenIn.address = p.token0.address then p.reserve1 else p.reserve0

/-- The quote is cut off to nothing. -/
def PaysNothing (p : UniswapV2Pair) (amountIn : U256) (tokenIn : Token) : Prop :=
  amountIn.toNat * p.keptBps * (p.reserveOut tokenIn).toNat <
    (p.reserveIn tokenIn).toNat * 10000 + amountIn.toNat * p.keptBps

/-- Both reserves fit the mantissa of a `Decimal`. -/
def ReservesFit (p : UniswapV2Pair) (tokenIn : Token) : Prop :=
  (p.reserveIn tokenIn).toNat < 2 ^ 96 ∧ (p.reserveOut tokenIn).toNat < 2 ^ 96

/-- The ratio of the reserves. -/
def spot (p : UniswapV2Pair) (tokenIn : Token) : ℚ :=
  (p.otherToken tokenIn).human (p.reserveOut tokenIn) / tokenIn.human (p.reserveIn tokenIn)

/-- Where the prices of a pair are what they should be: its tokens have fewer than 20 decimals;
    the amount fits a `Decimal`, or pays nothing; the reserves and their ratio fit as well, or
    nothing is paid and there is no fee either. -/
structure PricesFit (p : UniswapV2Pair) (amountIn : U256) (tokenIn : Token) : Prop where
  decimalsIn : 10 ^ tokenIn.decimals < 2 ^ 64
  decimalsOut : 10 ^ (p.otherToken tokenIn).decimals < 2 ^ 64
  amount : amountIn.toNat < 2 ^ 96 ∨ p.PaysNothing amountIn tokenIn
  reserves : (p.ReservesFit tokenIn ∧ p.spot tokenIn < 2 ^ 96) ∨
    (¬ p.ReservesFit tokenIn ∧ p.PaysNothing amountIn tokenIn ∧ p.feeBps.toNat = 0)

section Reading

variable {val : U256} {decimals : ℕ} {a b : ℚ}

/-- An amount below the bound of the mantissa is read as it is. -/
theorem u256ToDecimal_of_lt {t : Token} (hd : 10 ^ t.decimals < 2 ^ 64) (h : val.toNat < 2 ^ 96) :
    u256ToDecimal val t.decimals = .ok (t.human val) := by
  rw [u256ToDecimal, if_pos hd, parseDecimal, if_pos h, Option.getD_some, Token.human]

/-- One that is not is read as zero. -/
theorem u256ToDecimal_of_le (hd : 10 ^ decimals < 2 ^ 64) (h : 2 ^ 96 ≤ val.toNat) :
    u256ToDecimal val decimals = .ok 0 := by
  rw [u256ToDecimal, if_pos hd, parseDecimal, if_neg (not_lt.mpr h), Option.getD_none, zero_div]

/-- The power of ten has to fit a machine word, or the conversion panics. -/
theorem lt_of_u256ToDecimal_eq_ok (h : u256ToDecimal val decimals = .ok a) :
    10 ^ decimals < 2 ^ 64 := by
  unfold u256ToDecimal at h
  split at h
  · assumption
  · cases h

/-- A quotient that fits is the quotient. -/
theorem decimalDiv_of_lt (h0 : 0 ≤ a / b) (h : a / b < 2 ^ 96) : decimalDiv a b = .ok (a / b) := by
  rw [decimalDiv, abs_of_nonneg h0, if_pos h]

/-- The quotient by zero, which the callers do not come to, as the model has it. -/
theorem decimalDiv_zero (a : ℚ) : decimalDiv a 0 = .ok 0 := by
  rw [decimalDiv, div_zero, abs_zero, if_pos (by norm_num)]

/-- A quotient that is answered fits. -/
theorem lt_of_decimalDiv_eq_ok (h : decimalDiv a b = .ok c) : a / b < 2 ^ 96 := by
  unfold decimalDiv at h
  split at h
  · rename_i small
    exact lt_of_le_of_lt (le_abs_self _) small
  · cases h

end Reading

section Quote

variable {p : UniswapV2Pair} {tokenIn : Token} {amountIn amountOut : U256}

/-- A quote that was answered has found the reserves of its direction. -/
theorem getReservesOrdered_eq (quoted : p.getAmountOut amountIn tokenIn = .ok amountOut) :
    p.getReservesOrdered tokenIn = .ok (p.reserveIn tokenIn, p.reserveOut tokenIn) := by
  obtain ⟨rin, rout, hr⟩ := getAmountOut_reserves quoted
  rw [hr]
  unfold reserveIn reserveOut
  rcases getReservesOrdered_cases hr with ⟨h0, rfl, rfl⟩ | ⟨h0, -, rfl, rfl⟩
  · rw [if_pos h0, if_pos h0]
  · rw [if_neg h0, if_neg h0]

theorem reserveIn_pos (tokenIn : Token) (h : (Pool.v2 p).Priced) :
    0 < (p.reserveIn tokenIn).toNat := by
  unfold reserveIn
  split
  · exact h.1
  · exact h.2

theorem reserveOut_pos (tokenIn : Token) (h : (Pool.v2 p).Priced) :
    0 < (p.reserveOut tokenIn).toNat := by
  unfold reserveOut
  split
  · exact h.2
  · exact h.1

/-- The quote in terms of the constant-product library. -/
theorem amountOut_eq (h : (Pool.v2 p).Priced)
    (quoted : p.getAmountOut amountIn tokenIn = .ok amountOut) :
    amountOut.toNat = quote p.keptBps 10000 amountIn.toNat (p.reserveIn tokenIn).toNat
      (p.reserveOut tokenIn).toNat :=
  getAmountOut_quote (getReservesOrdered_eq quoted) (reserveIn_pos tokenIn h) quoted

/-- Nothing is paid exactly where the quotient of the formula is below one. -/
theorem paysNothing_iff (h : (Pool.v2 p).Priced)
    (quoted : p.getAmountOut amountIn tokenIn = .ok amountOut) :
    p.PaysNothing amountIn tokenIn ↔ amountOut.toNat = 0 := by
  have den : 0 < (p.reserveIn tokenIn).toNat * 10000 + amountIn.toNat * p.keptBps := by
    have := reserveIn_pos tokenIn h
    omega
  rw [amountOut_eq h quoted, quote, Nat.div_eq_zero_iff_lt den]
  exact Iff.rfl

/-- A quote is less than the reserve it is paid from. So an output fits a `Decimal` wherever the
    reserve does. -/
theorem amountOut_lt (h : (Pool.v2 p).Priced)
    (quoted : p.getAmountOut amountIn tokenIn = .ok amountOut) :
    amountOut.toNat < (p.reserveOut tokenIn).toNat := by
  rw [amountOut_eq h quoted]
  exact quote_lt (reserveIn_pos tokenIn h) (by norm_num) (reserveOut_pos tokenIn h)

theorem toNat_pos_iff {x : U256} : 0 < x.toNat ↔ x ≠ 0#256 := by
  rw [Nat.pos_iff_ne_zero, ne_eq, ne_eq, ← BitVec.toNat_inj]
  rfl

/-- A pair that answered does not keep more than everything. -/
theorem feeBps_le (h : (Pool.v2 p).Priced) (hin : 0 < amountIn.toNat)
    (quoted : p.getAmountOut amountIn tokenIn = .ok amountOut) : p.feeBps.toNat ≤ 10000 := by
  have hres := getReservesOrdered_eq quoted
  unfold getAmountOut at quoted
  rw [hres] at quoted
  have trades : ¬ (amountIn = 0#256 ∨ p.reserveIn tokenIn = 0#256 ∨
      p.reserveOut tokenIn = 0#256) := by
    rintro (hz | hz | hz)
    · exact toNat_pos_iff.mp hin hz
    · exact toNat_pos_iff.mp (reserveIn_pos tokenIn h) hz
    · exact toNat_pos_iff.mp (reserveOut_pos tokenIn h) hz
  simp only [Outcome.ok_bind, if_neg trades] at quoted
  obtain ⟨f, hf, -⟩ := Outcome.bind_eq_ok.mp quoted
  exact (feeMultiplier_eq_ok hf).1

theorem feeShare_nonneg (p : UniswapV2Pair) : 0 ≤ (Pool.v2 p).feeShare := by
  show (0 : ℚ) ≤ p.feeBps.toNat / 10000
  positivity

/-- What the fee leaves, as a share and in basis points. -/
theorem one_sub_feeShare (hfee : p.feeBps.toNat ≤ 10000) :
    1 - (Pool.v2 p).feeShare = p.keptBps / 10000 := by
  have whole : (p.keptBps : ℚ) + p.feeBps.toNat = 10000 := by
    unfold keptBps
    exact_mod_cast Nat.sub_add_cancel hfee
  show 1 - (p.feeBps.toNat : ℚ) / 10000 = _
  rw [eq_div_iff (by norm_num)]
  linarith

/-- **What is paid for each unit is below the spot price by the fee.** The quote is the largest
    amount that the constant product allows, and the product has the input in its denominator as
    well, which only lowers it further. -/
theorem human_div_le (h : (Pool.v2 p).Priced) (hin : 0 < amountIn.toNat)
    (quoted : p.getAmountOut amountIn tokenIn = .ok amountOut) :
    (p.otherToken tokenIn).human amountOut / tokenIn.human amountIn ≤
      (1 - (Pool.v2 p).feeShare) * p.spot tokenIn := by
  have hrin := reserveIn_pos tokenIn h
  have paid : (p.reserveIn tokenIn).toNat * amountOut.toNat * 10000 ≤
      amountIn.toNat * p.keptBps * (p.reserveOut tokenIn).toNat := by
    have hquote := amountOut_eq h quoted
    have hle := (le_quote_iff hrin (by norm_num : 0 < 10000) (amountOut_lt h quoted).le).mp
      hquote.le
    exact hle.trans (Nat.mul_le_mul_left _ (Nat.sub_le _ _))
  -- the same in rational numbers, where the decimals of the two tokens come in
  have paid' : ((p.reserveIn tokenIn).toNat : ℚ) * amountOut.toNat * 10000 ≤
      amountIn.toNat * p.keptBps * (p.reserveOut tokenIn).toNat := by
    exact_mod_cast paid
  have hin' : (0 : ℚ) < amountIn.toNat := Nat.cast_pos.mpr hin
  have hrin' : (0 : ℚ) < (p.reserveIn tokenIn).toNat := Nat.cast_pos.mpr hrin
  rw [one_sub_feeShare (feeBps_le h hin quoted), spot]
  unfold Token.human
  calc (amountOut.toNat : ℚ) / 10 ^ (p.otherToken tokenIn).decimals /
          (amountIn.toNat / 10 ^ tokenIn.decimals)
      = (p.reserveIn tokenIn).toNat * amountOut.toNat * 10000 /
          (amountIn.toNat * (p.reserveIn tokenIn).toNat * 10000) *
          (10 ^ tokenIn.decimals / 10 ^ (p.otherToken tokenIn).decimals) := by
        field_simp
    _ ≤ amountIn.toNat * p.keptBps * (p.reserveOut tokenIn).toNat /
          (amountIn.toNat * (p.reserveIn tokenIn).toNat * 10000) *
          (10 ^ tokenIn.decimals / 10 ^ (p.otherToken tokenIn).decimals) := by
        gcongr
    _ = p.keptBps / 10000 * ((p.reserveOut tokenIn).toNat / 10 ^ (p.otherToken tokenIn).decimals /
          ((p.reserveIn tokenIn).toNat / 10 ^ tokenIn.decimals)) := by
        field_simp

/-! ### The three prices -/

/-- Where input and output fit a `Decimal`, the execution price is their quotient. -/
theorem getExecutionPrice_of_fits (quoted : p.getAmountOut amountIn tokenIn = .ok amountOut)
    (decIn : 10 ^ tokenIn.decimals < 2 ^ 64)
    (decOut : 10 ^ (p.otherToken tokenIn).decimals < 2 ^ 64)
    (hlt : amountIn.toNat < 2 ^ 96) (hout : amountOut.toNat < 2 ^ 96) :
    p.getExecutionPrice amountIn tokenIn =
      decimalDiv ((p.otherToken tokenIn).human amountOut) (tokenIn.human amountIn) := by
  unfold getExecutionPrice
  rw [quoted, Outcome.ok_bind, u256ToDecimal_of_lt decIn hlt, Outcome.ok_bind,
    u256ToDecimal_of_lt decOut hout, Outcome.ok_bind]
  split
  · rename_i none
    rw [none, decimalDiv_zero, Outcome.pure_eq_ok]
  · rfl

/-- An amount that fits no `Decimal` has the price zero. -/
theorem getExecutionPrice_of_le (quoted : p.getAmountOut amountIn tokenIn = .ok amountOut)
    (decIn : 10 ^ tokenIn.decimals < 2 ^ 64)
    (decOut : 10 ^ (p.otherToken tokenIn).decimals < 2 ^ 64) (hle : 2 ^ 96 ≤ amountIn.toNat) :
    p.getExecutionPrice amountIn tokenIn = .ok 0 := by
  unfold getExecutionPrice
  rw [quoted, Outcome.ok_bind, u256ToDecimal_of_le decIn hle, Outcome.ok_bind]
  unfold u256ToDecimal
  rw [if_pos decOut, Outcome.ok_bind, if_pos rfl, Outcome.pure_eq_ok]

/-- So has one that nothing is paid for. -/
theorem getExecutionPrice_of_zero (quoted : p.getAmountOut amountIn tokenIn = .ok amountOut)
    (decIn : 10 ^ tokenIn.decimals < 2 ^ 64)
    (decOut : 10 ^ (p.otherToken tokenIn).decimals < 2 ^ 64)
    (hzero : amountOut.toNat = 0) : p.getExecutionPrice amountIn tokenIn = .ok 0 := by
  rcases lt_or_ge amountIn.toNat (2 ^ 96) with hlt | hle
  · rw [getExecutionPrice_of_fits quoted decIn decOut hlt (by omega), Token.human, hzero,
      Nat.cast_zero, zero_div, decimalDiv_of_lt (by rw [zero_div]) (by rw [zero_div]; norm_num),
      zero_div]
  · exact getExecutionPrice_of_le quoted decIn decOut hle

/-- Where both reserves fit, the spot price is their quotient. -/
theorem getSpotPrice_of_fits
    (hres : p.getReservesOrdered tokenIn = .ok (p.reserveIn tokenIn, p.reserveOut tokenIn))
    (decIn : 10 ^ tokenIn.decimals < 2 ^ 64)
    (decOut : 10 ^ (p.otherToken tokenIn).decimals < 2 ^ 64) (fits : p.ReservesFit tokenIn) :
    p.getSpotPrice tokenIn = decimalDiv ((p.otherToken tokenIn).human (p.reserveOut tokenIn))
      (tokenIn.human (p.reserveIn tokenIn)) := by
  unfold getSpotPrice
  rw [hres]
  simp only [Outcome.ok_bind]
  rw [u256ToDecimal_of_lt decIn fits.1, Outcome.ok_bind, u256ToDecimal_of_lt decOut fits.2,
    Outcome.ok_bind]
  split
  · rename_i none
    rw [none, decimalDiv_zero, Outcome.pure_eq_ok]
  · rfl

/-- Reserves one of which fits no `Decimal` have the spot price zero. -/
theorem getSpotPrice_of_not_fits
    (hres : p.getReservesOrdered tokenIn = .ok (p.reserveIn tokenIn, p.reserveOut tokenIn))
    (decIn : 10 ^ tokenIn.decimals < 2 ^ 64)
    (decOut : 10 ^ (p.otherToken tokenIn).decimals < 2 ^ 64) (big : ¬ p.ReservesFit tokenIn) :
    p.getSpotPrice tokenIn = .ok 0 := by
  unfold getSpotPrice
  rw [hres]
  simp only [Outcome.ok_bind]
  rcases lt_or_ge (p.reserveIn tokenIn).toNat (2 ^ 96) with hlt | hle
  · have hle : 2 ^ 96 ≤ (p.reserveOut tokenIn).toNat := not_lt.mp fun hlt' => big ⟨hlt, hlt'⟩
    rw [u256ToDecimal_of_lt decIn hlt, Outcome.ok_bind, u256ToDecimal_of_le decOut hle,
      Outcome.ok_bind]
    split
    · rfl
    · rw [decimalDiv_of_lt (by rw [zero_div]) (by rw [zero_div]; norm_num), zero_div]
  · rw [u256ToDecimal_of_le decIn hle, Outcome.ok_bind]
    unfold u256ToDecimal
    rw [if_pos decOut, Outcome.ok_bind, if_pos rfl, Outcome.pure_eq_ok]

/-- The impact is the relative distance of the two prices, and zero where the spot price is. -/
theorem getPriceImpact_eq {spot exec : ℚ} (hspot : p.getSpotPrice tokenIn = .ok spot)
    (hexec : p.getExecutionPrice amountIn tokenIn = .ok exec) :
    p.getPriceImpact amountIn tokenIn =
      if spot = 0 then .ok 0 else decimalDiv (spot - exec) spot := by
  unfold getPriceImpact
  rw [hspot, Outcome.ok_bind, hexec, Outcome.ok_bind]
  rfl

/-! ### The law -/

/-- A price that answers has read the decimals of both tokens. -/
theorem decimals_of_getExecutionPrice {x : ℚ}
    (h : p.getExecutionPrice amountIn tokenIn = .ok x) :
    10 ^ tokenIn.decimals < 2 ^ 64 ∧ 10 ^ (p.otherToken tokenIn).decimals < 2 ^ 64 := by
  unfold getExecutionPrice at h
  obtain ⟨out, -, h⟩ := Outcome.bind_eq_ok.mp h
  obtain ⟨aIn, hin, h⟩ := Outcome.bind_eq_ok.mp h
  obtain ⟨aOut, hout, -⟩ := Outcome.bind_eq_ok.mp h
  exact ⟨lt_of_u256ToDecimal_eq_ok hin, lt_of_u256ToDecimal_eq_ok hout⟩

/-- The price of an output is zero exactly where the output is. -/
theorem human_div_eq_zero_iff {s t : Token} (hin : 0 < amountIn.toNat) :
    s.human amountOut / t.human amountIn = 0 ↔ amountOut.toNat = 0 := by
  rw [div_eq_zero_iff, or_iff_left (Token.human_pos hin).ne', Token.human, div_eq_zero_iff,
    or_iff_left (by positivity), Nat.cast_eq_zero]

theorem tokenOut_eq : (Pool.v2 p).tokenOut tokenIn = p.otherToken tokenIn := rfl

/-- A pair that keeps the law has numbers that fit. Where an amount does not fit, a price is zero
    that ought not to be, unless nothing was paid; and where a reserve does not, the spot price is
    zero, and only a trade without an output and without a fee is consistent with that. -/
theorem pricesFit_of_law (h : (Pool.v2 p).Priced) (hin : 0 < amountIn.toNat)
    (quoted : p.getAmountOut amountIn tokenIn = .ok amountOut)
    (law : (Pool.v2 p).PriceLaw amountIn tokenIn amountOut) : p.PricesFit amountIn tokenIn := by
  obtain ⟨spot, exec, impact, hspot, hexec, himpact, hpays, hbelow, hat_least⟩ := law
  change p.getSpotPrice tokenIn = .ok spot at hspot
  change p.getExecutionPrice amountIn tokenIn = .ok exec at hexec
  change p.getPriceImpact amountIn tokenIn = .ok impact at himpact
  rw [tokenOut_eq] at hpays
  obtain ⟨decIn, decOut⟩ := decimals_of_getExecutionPrice hexec
  have none_of_zero (zero : exec = 0) : p.PaysNothing amountIn tokenIn := by
    rw [paysNothing_iff h quoted]
    exact (human_div_eq_zero_iff hin).mp (hpays.symm.trans zero)
  -- the input: an amount that is not read has the price zero
  have readable : amountIn.toNat < 2 ^ 96 ∨ p.PaysNothing amountIn tokenIn := by
    rcases lt_or_ge amountIn.toNat (2 ^ 96) with hlt | hle
    · exact .inl hlt
    · have zero := getExecutionPrice_of_le quoted decIn decOut hle
      exact .inr (none_of_zero (Outcome.ok.inj (hexec.symm.trans zero)))
  have hres := getReservesOrdered_eq quoted
  refine ⟨decIn, decOut, readable, ?_⟩
  by_cases fits : p.ReservesFit tokenIn
  · left
    rw [getSpotPrice_of_fits hres decIn decOut fits] at hspot
    exact ⟨fits, lt_of_decimalDiv_eq_ok hspot⟩
  · right
    -- The spot price is zero, so the execution price and the impact are as well.
    have zero := getSpotPrice_of_not_fits hres decIn decOut fits
    obtain rfl := Outcome.ok.inj (hspot.symm.trans zero)
    rw [getPriceImpact_eq hspot hexec, if_pos rfl] at himpact
    obtain rfl := Outcome.ok.inj himpact
    rw [mul_zero] at hbelow
    have paid : exec = 0 := by
      refine le_antisymm hbelow ?_
      rw [hpays]
      exact div_nonneg (Token.human_nonneg _ _) (Token.human_nonneg _ _)
    refine ⟨fits, none_of_zero paid, ?_⟩
    have free : (p.feeBps.toNat : ℚ) / 10000 ≤ 0 := hat_least
    have : (p.feeBps.toNat : ℚ) ≤ 0 := by linarith
    exact Nat.le_zero.mp (by exact_mod_cast this)

/-- Where everything fits, the prices are the ones of the quote and of the reserves, and the law is
    what the quote says (`human_div_le`). -/
theorem law_of_fits (h : (Pool.v2 p).Priced) (hin : 0 < amountIn.toNat)
    (quoted : p.getAmountOut amountIn tokenIn = .ok amountOut)
    (decIn : 10 ^ tokenIn.decimals < 2 ^ 64)
    (decOut : 10 ^ (p.otherToken tokenIn).decimals < 2 ^ 64)
    (readable : amountIn.toNat < 2 ^ 96 ∨ p.PaysNothing amountIn tokenIn)
    (fits : p.ReservesFit tokenIn) (small : p.spot tokenIn < 2 ^ 96) :
    (Pool.v2 p).PriceLaw amountIn tokenIn amountOut := by
  have below := human_div_le h hin quoted
  have share := feeShare_nonneg p
  have hspotpos : 0 < p.spot tokenIn :=
    div_pos (Token.human_pos (reserveOut_pos tokenIn h)) (Token.human_pos (reserveIn_pos tokenIn h))
  have hspot : p.getSpotPrice tokenIn = .ok (p.spot tokenIn) := by
    rw [getSpotPrice_of_fits (getReservesOrdered_eq quoted) decIn decOut fits]
    exact decimalDiv_of_lt hspotpos.le small
  have nonneg : 0 ≤ (p.otherToken tokenIn).human amountOut / tokenIn.human amountIn :=
    div_nonneg (Token.human_nonneg _ _) (Token.human_nonneg _ _)
  have less : (1 - (Pool.v2 p).feeShare) * p.spot tokenIn ≤ p.spot tokenIn := by
    have := mul_nonneg share hspotpos.le
    linarith
  have hexec : p.getExecutionPrice amountIn tokenIn =
      .ok ((p.otherToken tokenIn).human amountOut / tokenIn.human amountIn) := by
    -- the input can be read, or it is too large to be read and pays nothing anyway
    rcases readable with hlt | none
    · have hout : amountOut.toNat < 2 ^ 96 := (amountOut_lt h quoted).trans fits.2
      rw [getExecutionPrice_of_fits quoted decIn decOut hlt hout]
      exact decimalDiv_of_lt nonneg (lt_of_le_of_lt (below.trans less) small)
    · rw [paysNothing_iff h quoted] at none
      rw [getExecutionPrice_of_zero quoted decIn decOut none,
        (human_div_eq_zero_iff hin).mpr none]
  -- the impact is at least the fee, since the price is below the spot price by it
  have share_le : (Pool.v2 p).feeShare ≤
      (p.spot tokenIn - (p.otherToken tokenIn).human amountOut / tokenIn.human amountIn) /
        p.spot tokenIn := by
    rw [le_div_iff₀ hspotpos]
    linarith
  have himpact : p.getPriceImpact amountIn tokenIn =
      .ok ((p.spot tokenIn - (p.otherToken tokenIn).human amountOut / tokenIn.human amountIn) /
        p.spot tokenIn) := by
    rw [getPriceImpact_eq hspot hexec, if_neg hspotpos.ne']
    refine decimalDiv_of_lt (share.trans share_le) ?_
    rw [div_lt_iff₀ hspotpos]
    linarith
  exact ⟨_, _, _, hspot, hexec, himpact, rfl, below, share_le⟩

/-- Where nothing is paid and nothing is kept, all three prices may be zero, and zeros keep the
    law. -/
theorem law_of_nothing (hin : 0 < amountIn.toNat)
    (quoted : p.getAmountOut amountIn tokenIn = .ok amountOut)
    (decIn : 10 ^ tokenIn.decimals < 2 ^ 64)
    (decOut : 10 ^ (p.otherToken tokenIn).decimals < 2 ^ 64)
    (big : ¬ p.ReservesFit tokenIn) (none : amountOut.toNat = 0) (free : p.feeBps.toNat = 0) :
    (Pool.v2 p).PriceLaw amountIn tokenIn amountOut := by
  have hspot := getSpotPrice_of_not_fits (getReservesOrdered_eq quoted) decIn decOut big
  have hexec := getExecutionPrice_of_zero quoted decIn decOut none
  have himpact : p.getPriceImpact amountIn tokenIn = .ok 0 := by
    rw [getPriceImpact_eq hspot hexec, if_pos rfl]
  refine ⟨_, _, _, hspot, hexec, himpact, ?_, ?_, ?_⟩
  · rw [tokenOut_eq, (human_div_eq_zero_iff hin).mpr none]
  · rw [mul_zero]
  · show (p.feeBps.toNat : ℚ) / 10000 ≤ 0
    rw [free, Nat.cast_zero, zero_div]

/-- **A V2 pair keeps the law exactly where its numbers fit.** -/
theorem keeps_law_iff (h : (Pool.v2 p).Priced) (hin : 0 < amountIn.toNat)
    (quoted : p.getAmountOut amountIn tokenIn = .ok amountOut) :
    (Pool.v2 p).PriceLaw amountIn tokenIn amountOut ↔ p.PricesFit amountIn tokenIn := by
  constructor
  · exact pricesFit_of_law h hin quoted
  · rintro ⟨decIn, decOut, readable, ⟨fits, small⟩ | ⟨big, none, free⟩⟩
    · exact law_of_fits h hin quoted decIn decOut readable fits small
    · exact law_of_nothing hin quoted decIn decOut big ((paysNothing_iff h quoted).mp none) free

end Quote

end UniswapV2Pair

/-! ## V3 -/

namespace UniswapV3Pool

/-- The price the pool stands at, in the units people read. -/
def spot (p : UniswapV3Pool) (tokenIn : Token) : ℚ :=
  let price : ℚ := (p.sqrtPriceX96.toNat / 2 ^ 96) ^ 2
  let adj : ℚ := 10 ^ ((p.token0.decimals : ℤ) - p.token1.decimals)
  if tokenIn.address = p.token0.address then price * adj else 1 / price * (1 / adj)

/-- Where the prices of a pool are what they should be: there is no fee, the price fits a
    `Decimal`, and the swap has paid exactly the price for each unit. -/
structure PaysSpot (p : UniswapV3Pool) (amountIn : U256) (tokenIn : Token) (amountOut : U256) :
    Prop where
  free : p.fee.toNat = 0
  small : p.spot tokenIn < 2 ^ 96
  paid : ((Pool.v3 p).tokenOut tokenIn).human amountOut / tokenIn.human amountIn = p.spot tokenIn

section Law

variable {p : UniswapV3Pool} {tokenIn : Token} {amountIn amountOut : U256}

/-- The price of a pool with a price is positive in both directions. -/
theorem spot_pos (h : (Pool.v3 p).Priced) (tokenIn : Token) : 0 < p.spot tokenIn := by
  have root : 0 < p.sqrtPriceX96.toNat := h
  have price : 0 < ((p.sqrtPriceX96.toNat : ℚ) / 2 ^ 96) ^ 2 := by positivity
  have adj : (0 : ℚ) < 10 ^ ((p.token0.decimals : ℤ) - p.token1.decimals) :=
    zpow_pos (by norm_num) _
  unfold spot
  simp only
  split
  · exact mul_pos price adj
  · exact mul_pos (one_div_pos.mpr price) (one_div_pos.mpr adj)

/-- The spot price is the price of the pool, or an error where it does not fit. -/
theorem getSpotPrice_eq (h : (Pool.v3 p).Priced) :
    p.getSpotPrice tokenIn = if p.spot tokenIn < 2 ^ 96 then .ok (p.spot tokenIn)
      else .err "Failed to convert price to Decimal" := by
  have price : 0 < p.sqrtPriceX96.toNat := h
  have hne : (((p.sqrtPriceX96.toNat : ℚ) / 2 ^ 96) ^ 2) ≠ 0 := by positivity
  have size : |p.spot tokenIn| = p.spot tokenIn := abs_of_pos (spot_pos h tokenIn)
  unfold getSpotPrice
  simp only [if_neg hne]
  change (if |p.spot tokenIn| < 2 ^ 96 then _ else _) = _
  rw [size]
  rfl

/-- **A V3 pool keeps the law exactly where it pays its spot price and takes no fee.** -/
theorem keeps_law_iff (h : (Pool.v3 p).Priced) :
    (Pool.v3 p).PriceLaw amountIn tokenIn amountOut ↔ p.PaysSpot amountIn tokenIn amountOut := by
  have pos := spot_pos h tokenIn
  constructor
  · rintro ⟨spot, exec, impact, hspot, hexec, -, hpays, hbelow, -⟩
    change p.getSpotPrice tokenIn = .ok spot at hspot
    change p.getSpotPrice tokenIn = .ok exec at hexec
    obtain rfl := Outcome.ok.inj (hspot.symm.trans hexec)
    rw [getSpotPrice_eq h] at hspot
    split at hspot
    · rename_i small
      obtain rfl := Outcome.ok.inj hspot
      refine ⟨?_, small, hpays.symm⟩
      -- A fee would put the spot price below itself.
      have none : (Pool.v3 p).feeShare * p.spot tokenIn ≤ 0 := by linarith
      have share : (p.fee.toNat : ℚ) / 1000000 ≤ 0 := nonpos_of_mul_nonpos_left none pos
      have : (p.fee.toNat : ℚ) ≤ 0 := by linarith
      exact Nat.le_zero.mp (by exact_mod_cast this)
    · cases hspot
  · rintro ⟨free, small, paid⟩
    have hspot : p.getSpotPrice tokenIn = .ok (p.spot tokenIn) := by
      rw [getSpotPrice_eq h, if_pos small]
    have share : (Pool.v3 p).feeShare = 0 := by
      show (p.fee.toNat : ℚ) / 1000000 = 0
      rw [free, Nat.cast_zero, zero_div]
    have himpact : p.getPriceImpact amountIn tokenIn = .ok 0 := by
      unfold getPriceImpact getExecutionPrice
      rw [hspot, Outcome.ok_bind, Outcome.ok_bind, if_neg pos.ne', sub_self,
        UniswapV2Pair.decimalDiv_of_lt (by rw [zero_div]) (by rw [zero_div]; norm_num), zero_div]
    exact ⟨_, _, _, hspot, hspot, himpact, paid.symm, by rw [share]; linarith, by rw [share]⟩

end Law

end UniswapV3Pool

/-! ## Either kind -/

namespace Pool

/-- The condition under which the prices of a pool are what they should be. -/
def LawHolds (pool : Pool) (amountIn : U256) (tokenIn : Token) (amountOut : U256) : Prop :=
  match pool with
  | .v2 p => p.PricesFit amountIn tokenIn
  | .v3 p => p.PaysSpot amountIn tokenIn amountOut

/-- **The two kinds of pool do not obey one law.** A V2 pair keeps it wherever its numbers fit a
    `Decimal`; a V3 pool only without a fee, where the swap pays exactly the spot price. The
    execution price of a V3 pool does not depend on the amount, so it cannot follow the quote. -/
theorem price_law_iff (m : TickMath) (pool : Pool) (fuel : ℕ) (amountIn : U256) (tokenIn : Token)
    (amountOut : U256) (priced : pool.Priced) (hin : 0 < amountIn.toNat)
    (quoted : pool.getAmountOut m fuel amountIn tokenIn = some (.ok amountOut)) :
    pool.PriceLaw amountIn tokenIn amountOut ↔
      pool.LawHolds amountIn tokenIn amountOut := by
  cases pool with
  | v2 p => exact UniswapV2Pair.keeps_law_iff priced hin (Option.some.inj quoted)
  | v3 p => exact UniswapV3Pool.keeps_law_iff priced

/-- Quotes of a small V2 pair, at its fee of 0.3%. -/
theorem sample_pair_keeps_law :
    (Pool.v2 (UniswapV2Pair.samplePair 1000#256 1000#256)).PriceLaw 112#256
      (UniswapV2Pair.samplePair 1000#256 1000#256).token0 100#256 := by
  refine (price_law_iff UniswapV3Pool.stepMath _ 0 112#256 _ 100#256 ?_ (by decide) ?_).mpr ?_
  · exact ⟨by decide, by decide⟩
  · exact congrArg some (Outcome.toOption_eq_some.mp (by decide +kernel))
  · refine ⟨by decide +kernel, by decide +kernel, .inl (by decide), .inl ⟨?_, by decide +kernel⟩⟩
    exact ⟨by decide +kernel, by decide +kernel⟩

/-- **A V3 pool at price one and a fee of 0.3%**: it pays 996 for 1000 and says that it pays
    1000, with no price impact. -/
theorem sample_pool_breaks_law :
    ∃ pool : UniswapV3Pool, (Pool.v3 pool).Priced ∧
      (Pool.v3 pool).getAmountOut UniswapV3Pool.stepMath 5 1000#256 pool.token1 =
        some (.ok 996#256) ∧
      (Pool.v3 pool).getPriceImpact 1000#256 pool.token1 = .ok 0 ∧
      ¬ (Pool.v3 pool).PriceLaw 1000#256 pool.token1 996#256 := by
  refine ⟨UniswapV3Pool.tickless 1000000000000000000#128, by decide, ?_, ?_, ?_⟩
  · have paid : ((Pool.v3 (UniswapV3Pool.tickless 1000000000000000000#128)).getAmountOut
        UniswapV3Pool.stepMath 5 1000#256
        (UniswapV3Pool.tickless 1000000000000000000#128).token1).bind Outcome.toOption =
        some 996#256 := by
      decide +kernel
    obtain ⟨o, ho, hout⟩ := Option.bind_eq_some_iff.mp paid
    rw [ho, Outcome.toOption_eq_some.mp hout]
  · exact Outcome.toOption_eq_some.mp (by decide +kernel)
  · intro law
    have free := ((UniswapV3Pool.keeps_law_iff (by decide)).mp law).free
    revert free
    decide

end Pool

end ArbEngine
