import ArbEngine.Proof.Pricing.Impact

/-!
# The two spot prices of a V2 pair

A spot price is the ratio of the reserves, each in the units people read, and the prices of the
two tokens should be each other's reciprocal. A reserve is read through the digits of a `Decimal`,
though, and one that does not fit its mantissa counts as zero: then there is no price either way.
`spot_reciprocal_iff` says for which pairs the two prices are right.
-/

namespace ArbEngine
namespace UniswapV2Pair

variable {p : UniswapV2Pair} {tokenIn : Token}

/-- The spot price of the first token is the ratio of the reserves, it is positive, and that of
    the second token is its reciprocal. -/
def SpotReciprocal (p : UniswapV2Pair) : Prop :=
  ∃ price price', p.getSpotPrice p.token0 = .ok price ∧ p.getSpotPrice p.token1 = .ok price' ∧
    price = p.token1.human p.reserve1 / p.token0.human p.reserve0 ∧ 0 < price ∧
    price * price' = 1

/-- Both reserves fit the mantissa of a `Decimal`, and so does their ratio, either way. The two
    tokens are different, or it happens to make no difference. -/
structure SpotsFit (p : UniswapV2Pair) : Prop where
  reserve0 : p.reserve0.toNat < 2 ^ 96
  reserve1 : p.reserve1.toNat < 2 ^ 96
  ratio0 : p.spot p.token0 < 2 ^ 96
  ratio1 : p.spot p.token1 < 2 ^ 96
  tokens : p.SameToken → p.spot p.token0 * p.spot p.token1 = 1

theorem token0_inPair : p.InPair p.token0 := .inl rfl

theorem token1_inPair : p.InPair p.token1 := .inr rfl

theorem spot_token0 :
    p.spot p.token0 = p.token1.human p.reserve1 / p.token0.human p.reserve0 := by
  simp [spot, otherToken, reserveIn, reserveOut]

theorem spot_token1 (hne : ¬ p.SameToken) :
    p.spot p.token1 = p.token0.human p.reserve0 / p.token1.human p.reserve1 := by
  have hne' : ¬ p.token1.address = p.token0.address := fun h => hne h.symm
  simp [spot, otherToken, reserveIn, reserveOut, hne']

/-- The same two reserves are read whichever token is asked about. -/
theorem reservesFit_iff :
    p.ReservesFit tokenIn ↔ p.reserve0.toNat < 2 ^ 96 ∧ p.reserve1.toNat < 2 ^ 96 := by
  unfold ReservesFit reserveIn reserveOut
  split
  · exact Iff.rfl
  · exact and_comm

theorem decimals_lt {d : ℕ} (h : d ≤ 18) : 10 ^ d < 2 ^ 64 :=
  (Nat.pow_le_pow_right (by norm_num) h).trans_lt (by norm_num)

section Price

variable (d0 : p.token0.decimals ≤ 18) (d1 : p.token1.decimals ≤ 18)
include d0 d1

theorem otherToken_decimals : 10 ^ (p.otherToken tokenIn).decimals < 2 ^ 64 := by
  unfold otherToken
  split
  · exact decimals_lt d1
  · exact decimals_lt d0

/-- A price other than zero is the ratio of two reserves that fit. -/
theorem getSpotPrice_iff {price : ℚ} (h : p.InPair tokenIn) (d : tokenIn.decimals ≤ 18)
    (hne : price ≠ 0) :
    p.getSpotPrice tokenIn = .ok price ↔
      p.ReservesFit tokenIn ∧ p.spot tokenIn < 2 ^ 96 ∧ price = p.spot tokenIn := by
  have ordered := getReservesOrdered_of_inPair h
  have other : 10 ^ (p.otherToken tokenIn).decimals < 2 ^ 64 := otherToken_decimals d0 d1
  constructor
  · intro answer
    obtain ⟨fits, rfl⟩ := spot_of_getSpotPrice ordered (decimals_lt d) other answer hne
    rw [getSpotPrice_of_fits ordered (decimals_lt d) other fits] at answer
    exact ⟨fits, lt_of_decimalDiv_eq_ok answer, rfl⟩
  · rintro ⟨fits, small, rfl⟩
    rw [getSpotPrice_of_fits ordered (decimals_lt d) other fits]
    exact decimalDiv_of_lt (div_nonneg (Token.human_nonneg _ _) (Token.human_nonneg _ _)) small

/-- **The spot prices are exact and reciprocal where the numbers fit.** -/
theorem spot_reciprocal_iff (h0 : 0 < p.reserve0.toNat) (h1 : 0 < p.reserve1.toNat) :
    p.SpotReciprocal ↔ p.SpotsFit := by
  have pos0 : 0 < p.token0.human p.reserve0 := Token.human_pos h0
  have pos1 : 0 < p.token1.human p.reserve1 := Token.human_pos h1
  constructor
  · rintro ⟨price, price', answer, answer', -, pos, product⟩
    have hne' : price' ≠ 0 := by
      rintro rfl
      simp at product
    obtain ⟨fits, small, rfl⟩ :=
      (getSpotPrice_iff d0 d1 token0_inPair d0 pos.ne').mp answer
    obtain ⟨-, small', rfl⟩ := (getSpotPrice_iff d0 d1 token1_inPair d1 hne').mp answer'
    obtain ⟨fit0, fit1⟩ := reservesFit_iff.mp fits
    exact ⟨fit0, fit1, small, small', fun _ => product⟩
  · intro fit
    have pos : 0 < p.spot p.token0 := by
      rw [spot_token0]
      exact div_pos pos1 pos0
    have product : p.spot p.token0 * p.spot p.token1 = 1 := by
      by_cases same : p.SameToken
      · exact fit.tokens same
      · rw [spot_token0, spot_token1 same]
        field_simp
    have hne' : p.spot p.token1 ≠ 0 := by
      intro zero
      rw [zero, mul_zero] at product
      exact zero_ne_one product
    have fits : ∀ t, p.ReservesFit t := fun _ => reservesFit_iff.mpr ⟨fit.reserve0, fit.reserve1⟩
    exact ⟨_, _,
      (getSpotPrice_iff d0 d1 token0_inPair d0 pos.ne').mpr ⟨fits _, fit.ratio0, rfl⟩,
      (getSpotPrice_iff d0 d1 token1_inPair d1 hne').mpr ⟨fits _, fit.ratio1, rfl⟩,
      spot_token0, pos, product⟩

end Price

/-! ## Two pairs -/

/-- Two thousand of the second token for each of the first. -/
theorem sample_spot_reciprocal :
    (samplePair 1000000000000000000#256 2000000000#256).SpotReciprocal := by
  have other : ¬ (samplePair 1000000000000000000#256 2000000000#256).SameToken := by
    unfold SameToken
    decide
  refine (spot_reciprocal_iff (by decide) (by decide) (by decide) (by decide)).mpr ?_
  refine ⟨by decide, by decide, ?_, ?_, fun same => absurd same other⟩
  · rw [spot_token0]
    norm_num [samplePair, Token.human]
  · rw [spot_token1 other]
    norm_num [samplePair, Token.human]

/-- **A reserve of ninety-seven bits has no price**: it is read as zero. -/
theorem sample_spot_zero :
    (samplePair (BitVec.ofNat 256 (2 ^ 96)) 2000000000#256).getSpotPrice
        (samplePair (BitVec.ofNat 256 (2 ^ 96)) 2000000000#256).token0 = .ok 0 ∧
      ¬ (samplePair (BitVec.ofNat 256 (2 ^ 96)) 2000000000#256).SpotReciprocal := by
  have large : ¬ (samplePair (BitVec.ofNat 256 (2 ^ 96)) 2000000000#256).ReservesFit
      (samplePair (BitVec.ofNat 256 (2 ^ 96)) 2000000000#256).token0 := by
    rw [reservesFit_iff]
    decide
  have zero := getSpotPrice_of_not_fits (getReservesOrdered_of_inPair token0_inPair)
    (by decide) (by decide) large
  refine ⟨zero, ?_⟩
  rintro ⟨price, -, answer, -, -, pos, -⟩
  rw [zero] at answer
  cases answer
  exact lt_irrefl 0 pos

end UniswapV2Pair
end ArbEngine
