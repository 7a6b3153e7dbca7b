import ArbEngine.Proof.Pricing.PriceLaw

/-!
# Where a price impact answers

A price impact divides prices, and a price divides amounts; each quotient must fit a `Decimal`.
A V3 pool never fails here. A V2 pair fails for the numbers `ImpactFits` leaves out, and where it
answers, the impact is between nothing and everything.

The spot price divides the two reserves, the execution price the two amounts, and the impact the
distance of these prices by the spot price.
-/

namespace ArbEngine
namespace UniswapV2Pair

/-- The token is one of the two. For any other the reserves are not even read. -/
def InPair (p : UniswapV2Pair) (tokenIn : Token) : Prop :=
  tokenIn.address = p.token0.address ∨ tokenIn.address = p.token1.address

/-- The numbers of a pair let its price impact answer. `decimals` is about the scaling of the other
    token, `spot` about the ratio of the reserves, `fee` about the one subtraction of a quote that
    can go below zero, and `exec` about the ratio of what comes out to what goes in. Each is asked
    for only where the code gets to it. -/
structure ImpactFits (p : UniswapV2Pair) (amountIn : U256) (tokenIn : Token) : Prop where
  decimals : 10 ^ (p.otherToken tokenIn).decimals < 2 ^ 64
  spot : p.ReservesFit tokenIn → p.spot tokenIn < 2 ^ 96
  fee : 0 < amountIn.toNat → 0 < (p.reserveIn tokenIn).toNat →
    0 < (p.reserveOut tokenIn).toNat → p.feeBps.toNat ≤ 10000
  exec : ∀ amountOut, p.getAmountOut amountIn tokenIn = .ok amountOut →
    amountOut.toNat < 2 ^ 96 →
    (p.otherToken tokenIn).human amountOut / tokenIn.human amountIn < 2 ^ 96

section Impact

variable {p : UniswapV2Pair} {tokenIn : Token} {amountIn : U256}

/-- Of a token of the pair, the reserves are found, its own first. -/
theorem getReservesOrdered_of_inPair (h : p.InPair tokenIn) :
    p.getReservesOrdered tokenIn = .ok (p.reserveIn tokenIn, p.reserveOut tokenIn) := by
  unfold getReservesOrdered reserveIn reserveOut
  by_cases first : tokenIn.address = p.token0.address
  · simp only [if_pos first]
  · simp only [if_neg first, if_pos (h.resolve_left first)]

/-- A token that is not of the pair has no impact to speak of. -/
theorem getPriceImpact_of_not_inPair (h : ¬ p.InPair tokenIn) :
    p.getPriceImpact amountIn tokenIn = .err "Token not in pair" := by
  obtain ⟨h0, h1⟩ := not_or.mp h
  unfold getPriceImpact getSpotPrice getReservesOrdered
  simp only [if_neg h0, if_neg h1, Outcome.err_bind]

/-- A quotient of amounts that are not negative answers where it is below `2 ^ 96`. A zero below
    the line is no failure here: it gives zero, as it does for rational numbers. -/
theorem decimalDiv_ne_panic_iff {a b : ℚ} (ha : 0 ≤ a) (hb : 0 ≤ b) :
    decimalDiv a b ≠ .panic ↔ a / b < 2 ^ 96 := by
  unfold decimalDiv
  rw [abs_of_nonneg (div_nonneg ha hb)]
  split
  · simp [*]
  · simp [*]

/-- A fee of more than everything cannot be taken off. -/
theorem feeMultiplier_of_lt (hfee : 10000 < p.feeBps.toNat) : p.feeMultiplier = .panic := by
  have beyond : Word.checkedSub 10000#32 p.feeBps = none := by
    unfold Word.checkedSub
    exact if_neg (Nat.not_le.mpr hfee)
  unfold feeMultiplier
  rw [beyond]
  rfl

/-- A quote fails with a panic only over its fee. With an empty side, or nothing to trade, the fee
    is not looked at. -/
theorem getAmountOut_eq_panic_iff
    (hres : p.getReservesOrdered tokenIn = .ok (p.reserveIn tokenIn, p.reserveOut tokenIn)) :
    p.getAmountOut amountIn tokenIn = .panic ↔
      0 < amountIn.toNat ∧ 0 < (p.reserveIn tokenIn).toNat ∧
        0 < (p.reserveOut tokenIn).toNat ∧ 10000 < p.feeBps.toNat := by
  unfold getAmountOut
  rw [hres]
  simp only [Outcome.ok_bind, toNat_pos_iff]
  -- Past the check for zeros the fee alone can panic: every overflow is an error.
  by_cases trades : amountIn = 0#256 ∨ p.reserveIn tokenIn = 0#256 ∨ p.reserveOut tokenIn = 0#256
  · rw [if_pos trades]
    simp only [Outcome.pure_eq_ok, reduceCtorEq, false_iff]
    tauto
  · rw [if_neg trades]
    rcases lt_or_ge 10000 p.feeBps.toNat with high | fair
    · rw [feeMultiplier_of_lt high]
      simp only [Outcome.panic_bind, true_iff]
      tauto
    · obtain ⟨f, hf, -⟩ := feeMultiplier_of_le fair
      rw [hf, Outcome.ok_bind]
      simp only [Outcome.okOr_bind_eq_panic]
      constructor
      · rintro ⟨amount, -, num, -, base, -, den, -, h⟩
        split at h
        · cases h
        · cases h
      · rintro ⟨-, -, -, high⟩
        exact absurd fair (Nat.not_le.mpr high)

/-- A quotient that answers is the quotient. -/
theorem eq_of_decimalDiv_eq_ok {a b c : ℚ} (h : decimalDiv a b = .ok c) : c = a / b := by
  unfold decimalDiv at h
  split at h
  · exact (Outcome.ok.inj h).symm
  · cases h

/-- A spot price that is not zero is the ratio of two reserves that fit. -/
theorem spot_of_getSpotPrice {spot : ℚ}
    (hres : p.getReservesOrdered tokenIn = .ok (p.reserveIn tokenIn, p.reserveOut tokenIn))
    (decIn : 10 ^ tokenIn.decimals < 2 ^ 64)
    (decOut : 10 ^ (p.otherToken tokenIn).decimals < 2 ^ 64)
    (hspot : p.getSpotPrice tokenIn = .ok spot) (some : spot ≠ 0) :
    p.ReservesFit tokenIn ∧ spot = p.spot tokenIn := by
  by_cases fits : p.ReservesFit tokenIn
  · rw [getSpotPrice_of_fits hres decIn decOut fits] at hspot
    exact ⟨fits, eq_of_decimalDiv_eq_ok hspot⟩
  · rw [getSpotPrice_of_not_fits hres decIn decOut fits] at hspot
    exact absurd (Outcome.ok.inj hspot).symm some

/-- A spot price that is not zero needs something on both sides. -/
theorem priced_of_spot_ne_zero (h : p.spot tokenIn ≠ 0) : (Pool.v2 p).Priced := by
  have nonzero : ∀ t : Token, ∀ x : U256, t.human x ≠ 0 → 0 < x.toNat := by
    intro t x hx
    apply Nat.pos_of_ne_zero
    intro hz
    exact hx (by rw [Token.human, hz, Nat.cast_zero, zero_div])
  obtain ⟨hout, hin⟩ := div_ne_zero_iff.mp h
  replace hout := nonzero _ _ hout
  replace hin := nonzero _ _ hin
  unfold reserveIn at hin
  unfold reserveOut at hout
  split at hin
  · rename_i first
    rw [if_pos first] at hout
    exact ⟨hin, hout⟩
  · rename_i second
    rw [if_neg second] at hout
    exact ⟨hout, hin⟩

/-- **A price is at most the spot price**, where there is one. It is the law of the constant
    product: what is paid out moves the price against the trade, and the fee adds to that. -/
theorem exec_le_spot {spot exec : ℚ} (hamount : amountIn.toNat < 2 ^ 96)
    (hspot : p.getSpotPrice tokenIn = .ok spot)
    (hexec : p.getExecutionPrice amountIn tokenIn = .ok exec) (some : spot ≠ 0) :
    0 ≤ exec ∧ exec ≤ spot := by
  obtain ⟨decIn, decOut⟩ := decimals_of_getExecutionPrice hexec
  have hexec' := hexec
  unfold getExecutionPrice at hexec'
  obtain ⟨amountOut, quoted, -⟩ := Outcome.bind_eq_ok.mp hexec'
  obtain ⟨fits, rfl⟩ := spot_of_getSpotPrice (getReservesOrdered_eq quoted) decIn decOut hspot some
  have priced := priced_of_spot_ne_zero some
  have hout : amountOut.toNat < 2 ^ 96 := (amountOut_lt priced quoted).trans fits.2
  rw [getExecutionPrice_of_fits quoted decIn decOut hamount hout] at hexec
  obtain rfl := eq_of_decimalDiv_eq_ok hexec
  have nonneg : 0 ≤ p.spot tokenIn := div_nonneg (Token.human_nonneg _ _) (Token.human_nonneg _ _)
  refine ⟨div_nonneg (Token.human_nonneg _ _) (Token.human_nonneg _ _), ?_⟩
  rcases Nat.eq_zero_or_pos amountIn.toNat with none | pos
  · have : tokenIn.human amountIn = 0 := by rw [Token.human, none, Nat.cast_zero, zero_div]
    rw [this, div_zero]
    exact nonneg
  · have below := human_div_le priced pos quoted
    have kept : 0 ≤ (Pool.v2 p).feeShare * p.spot tokenIn :=
      mul_nonneg (feeShare_nonneg p) nonneg
    linarith

/-! ### Answers -/

/-- Where the spot price answers. Reserves that do not fit a `Decimal` are priced at zero and do
    not fail. -/
theorem getSpotPrice_ne_panic_iff
    (hres : p.getReservesOrdered tokenIn = .ok (p.reserveIn tokenIn, p.reserveOut tokenIn))
    (hd : 10 ^ tokenIn.decimals < 2 ^ 64) :
    p.getSpotPrice tokenIn ≠ .panic ↔
      10 ^ (p.otherToken tokenIn).decimals < 2 ^ 64 ∧
        (p.ReservesFit tokenIn → p.spot tokenIn < 2 ^ 96) := by
  by_cases decOut : 10 ^ (p.otherToken tokenIn).decimals < 2 ^ 64
  · rw [and_iff_right decOut]
    by_cases fits : p.ReservesFit tokenIn
    · rw [getSpotPrice_of_fits hres hd decOut fits,
        decimalDiv_ne_panic_iff (Token.human_nonneg _ _) (Token.human_nonneg _ _)]
      exact (imp_iff_right fits).symm
    · rw [getSpotPrice_of_not_fits hres hd decOut fits]
      exact iff_of_true (by simp) (fun h => absurd h fits)
  · have panics : p.getSpotPrice tokenIn = .panic := by
      unfold getSpotPrice u256ToDecimal
      rw [hres]
      simp only [Outcome.ok_bind, if_pos hd, if_neg decOut, Outcome.panic_bind]
    exact iff_of_false (fun h => h panics) (fun h => decOut h.1)

/-- A spot price that has room is there, be it zero. -/
theorem getSpotPrice_answers
    (hres : p.getReservesOrdered tokenIn = .ok (p.reserveIn tokenIn, p.reserveOut tokenIn))
    (hd : 10 ^ tokenIn.decimals < 2 ^ 64)
    (decOut : 10 ^ (p.otherToken tokenIn).decimals < 2 ^ 64)
    (small : p.ReservesFit tokenIn → p.spot tokenIn < 2 ^ 96) :
    ∃ spot, p.getSpotPrice tokenIn = .ok spot := by
  by_cases fits : p.ReservesFit tokenIn
  · rw [getSpotPrice_of_fits hres hd decOut fits]
    have nonneg : 0 ≤ p.spot tokenIn :=
      div_nonneg (Token.human_nonneg _ _) (Token.human_nonneg _ _)
    exact ⟨_, decimalDiv_of_lt nonneg (small fits)⟩
  · exact ⟨0, getSpotPrice_of_not_fits hres hd decOut fits⟩

/-- Where the execution price answers: the quote does, and its ratio has room. An output that does
    not fit a `Decimal` is zero and needs none. -/
theorem getExecutionPrice_ne_panic_iff
    (hres : p.getReservesOrdered tokenIn = .ok (p.reserveIn tokenIn, p.reserveOut tokenIn))
    (hd : 10 ^ tokenIn.decimals < 2 ^ 64)
    (decOut : 10 ^ (p.otherToken tokenIn).decimals < 2 ^ 64)
    (hamount : amountIn.toNat < 2 ^ 96) :
    p.getExecutionPrice amountIn tokenIn ≠ .panic ↔
      (0 < amountIn.toNat → 0 < (p.reserveIn tokenIn).toNat →
        0 < (p.reserveOut tokenIn).toNat → p.feeBps.toNat ≤ 10000) ∧
      ∀ amountOut, p.getAmountOut amountIn tokenIn = .ok amountOut → amountOut.toNat < 2 ^ 96 →
        (p.otherToken tokenIn).human amountOut / tokenIn.human amountIn < 2 ^ 96 := by
  have fee : p.getAmountOut amountIn tokenIn = .panic ↔ _ := getAmountOut_eq_panic_iff hres
  cases quoted : p.getAmountOut amountIn tokenIn with
  | ok amountOut =>
    have fair := fee.not.mp (by rw [quoted]; simp)
    rw [and_iff_right (by simpa using fair)]
    rcases lt_or_ge amountOut.toNat (2 ^ 96) with hout | large
    · rw [getExecutionPrice_of_fits quoted hd decOut hamount hout,
        decimalDiv_ne_panic_iff (Token.human_nonneg _ _) (Token.human_nonneg _ _)]
      constructor
      · rintro small _ ⟨⟩ -
        exact small
      · intro h
        exact h amountOut rfl hout
    · -- What is paid fits no `Decimal`, and its text reads as zero.
      have none : p.getExecutionPrice amountIn tokenIn = .ok 0 := by
        unfold getExecutionPrice
        rw [quoted, Outcome.ok_bind, u256ToDecimal_of_lt hd hamount, Outcome.ok_bind,
          u256ToDecimal_of_le decOut large, Outcome.ok_bind]
        split
        · rfl
        · rw [decimalDiv_of_lt (by rw [zero_div]) (by rw [zero_div]; norm_num), zero_div]
      rw [none]
      refine iff_of_true (by simp) ?_
      rintro _ ⟨⟩ small
      exact absurd small (Nat.not_lt.mpr large)
  | err msg =>
    have fair := fee.not.mp (by rw [quoted]; simp)
    have fails : p.getExecutionPrice amountIn tokenIn = .err msg := by
      unfold getExecutionPrice
      rw [quoted, Outcome.err_bind]
    rw [fails]
    refine iff_of_true (by simp) ⟨by simpa using fair, ?_⟩
    rintro _ ⟨⟩
  | panic =>
    obtain ⟨ha, hi, ho, high⟩ := fee.mp quoted
    have fails : p.getExecutionPrice amountIn tokenIn = .panic := by
      unfold getExecutionPrice
      rw [quoted, Outcome.panic_bind]
    exact iff_of_false (fun h => h fails) (fun h => absurd (h.1 ha hi ho) (Nat.not_le.mpr high))

/-- With a spot price, the impact answers where the execution price does: it divides a difference
    of the two by the larger one. -/
theorem getPriceImpact_ne_panic_of_spot {spot : ℚ} (hamount : amountIn.toNat < 2 ^ 96)
    (hspot : p.getSpotPrice tokenIn = .ok spot) :
    p.getPriceImpact amountIn tokenIn ≠ .panic ↔
      p.getExecutionPrice amountIn tokenIn ≠ .panic := by
  unfold getPriceImpact
  rw [hspot, Outcome.ok_bind]
  cases hexec : p.getExecutionPrice amountIn tokenIn with
  | ok exec =>
    refine iff_of_true ?_ (by simp)
    rw [Outcome.ok_bind]
    split
    · simp
    · rename_i some
      obtain ⟨h0, hle⟩ := exec_le_spot hamount hspot hexec some
      have pos : 0 < spot := lt_of_le_of_ne (h0.trans hle) (Ne.symm some)
      rw [decimalDiv_ne_panic_iff (by linarith) pos.le, div_lt_iff₀ pos]
      linarith
  | err msg => exact iff_of_true (by simp) (by simp)
  | panic => exact iff_of_false (by simp) (by simp)

/-- **Where the impact of a pair answers.** The spot price is asked first, and its failure is the
    failure of the impact; with it, the execution price decides. -/
theorem getPriceImpact_ne_panic_iff (h : p.InPair tokenIn) (hd : 10 ^ tokenIn.decimals < 2 ^ 64)
    (hamount : amountIn.toNat < 2 ^ 96) :
    p.getPriceImpact amountIn tokenIn ≠ .panic ↔ p.ImpactFits amountIn tokenIn := by
  have hres := getReservesOrdered_of_inPair h
  constructor
  · intro answers
    have spotAnswers : p.getSpotPrice tokenIn ≠ .panic := by
      intro panics
      unfold getPriceImpact at answers
      rw [panics] at answers
      exact answers rfl
    obtain ⟨decOut, small⟩ := (getSpotPrice_ne_panic_iff hres hd).mp spotAnswers
    obtain ⟨spot, hspot⟩ := getSpotPrice_answers hres hd decOut small
    rw [getPriceImpact_ne_panic_of_spot hamount hspot,
      getExecutionPrice_ne_panic_iff hres hd decOut hamount] at answers
    exact ⟨decOut, small, answers.1, answers.2⟩
  · rintro ⟨decOut, small, fair, exec⟩
    obtain ⟨spot, hspot⟩ := getSpotPrice_answers hres hd decOut small
    rw [getPriceImpact_ne_panic_of_spot hamount hspot,
      getExecutionPrice_ne_panic_iff hres hd decOut hamount]
    exact ⟨fair, exec⟩

/-- **An impact is between nothing and everything.** The difference of two prices that are not
    negative is divided by the larger of them. -/
theorem getPriceImpact_mem {impact : ℚ} (hamount : amountIn.toNat < 2 ^ 96)
    (h : p.getPriceImpact amountIn tokenIn = .ok impact) : 0 ≤ impact ∧ impact ≤ 1 := by
  unfold getPriceImpact at h
  obtain ⟨spot, hspot, h⟩ := Outcome.bind_eq_ok.mp h
  obtain ⟨exec, hexec, h⟩ := Outcome.bind_eq_ok.mp h
  split at h
  · cases h
    norm_num
  · rename_i some
    obtain ⟨h0, hle⟩ := exec_le_spot hamount hspot hexec some
    obtain rfl := eq_of_decimalDiv_eq_ok h
    have pos : 0 < spot := lt_of_le_of_ne (h0.trans hle) (Ne.symm some)
    constructor
    · exact div_nonneg (by linarith) pos.le
    · rw [div_le_one pos]
      linarith

end Impact

end UniswapV2Pair

/-! ## Either kind -/

/-- A V3 pool compares its spot price with itself. -/
theorem UniswapV3Pool.getPriceImpact_cases (p : UniswapV3Pool) (amountIn : U256)
    (tokenIn : Token) :
    p.getPriceImpact amountIn tokenIn = .ok 0 ∨
      ∃ msg, p.getPriceImpact amountIn tokenIn = .err msg := by
  unfold getPriceImpact getExecutionPrice
  cases hspot : p.getSpotPrice tokenIn with
  | ok spot =>
    left
    rw [Outcome.ok_bind, Outcome.ok_bind, sub_self]
    split
    · rfl
    · rw [UniswapV2Pair.decimalDiv_of_lt (by rw [zero_div]) (by rw [zero_div]; norm_num), zero_div]
  | err msg => exact .inr ⟨msg, rfl⟩
  | panic =>
    unfold getSpotPrice at hspot
    dsimp only at hspot
    split at hspot
    · cases hspot
    · split at hspot
      · split at hspot
        · cases hspot
        · cases hspot
      · split at hspot
        · cases hspot
        · cases hspot

namespace Pool

/-- The same for either kind of pool. A token that is not of the pair gives an error, and an error
    is handled by the caller. -/
def ImpactFits (pool : Pool) (amountIn : U256) (tokenIn : Token) : Prop :=
  match pool with
  | .v2 p => p.InPair tokenIn → p.ImpactFits amountIn tokenIn
  | .v3 _ => True

/-- The impact that is reckoned with: none where there is an error. -/
def impact (pool : Pool) (amountIn : U256) (tokenIn : Token) : ℚ :=
  (pool.getPriceImpact amountIn tokenIn).toOption.getD 0

variable {pool : Pool} {amountIn : U256} {tokenIn : Token}

/-- **Where an impact answers**, for either kind of pool. -/
theorem getPriceImpact_ne_panic_iff (hd : 10 ^ tokenIn.decimals < 2 ^ 64)
    (hamount : amountIn.toNat < 2 ^ 96) :
    pool.getPriceImpact amountIn tokenIn ≠ .panic ↔ pool.ImpactFits amountIn tokenIn := by
  cases pool with
  | v2 p =>
    show p.getPriceImpact amountIn tokenIn ≠ .panic ↔ (p.InPair tokenIn → _)
    by_cases h : p.InPair tokenIn
    · rw [UniswapV2Pair.getPriceImpact_ne_panic_iff h hd hamount, imp_iff_right h]
    · rw [UniswapV2Pair.getPriceImpact_of_not_inPair h]
      exact iff_of_true (by simp) (fun inside => absurd inside h)
  | v3 p =>
    refine iff_of_true ?_ trivial
    show p.getPriceImpact amountIn tokenIn ≠ .panic
    rcases p.getPriceImpact_cases amountIn tokenIn with h | ⟨msg, h⟩
    · rw [h]
      simp
    · rw [h]
      simp

/-- What is reckoned with is between nothing and everything too. -/
theorem impact_mem (hamount : amountIn.toNat < 2 ^ 96) :
    0 ≤ pool.impact amountIn tokenIn ∧ pool.impact amountIn tokenIn ≤ 1 := by
  unfold impact
  cases h : pool.getPriceImpact amountIn tokenIn with
  | ok impact =>
    cases pool with
    | v2 p => exact UniswapV2Pair.getPriceImpact_mem hamount h
    | v3 p =>
      rcases p.getPriceImpact_cases amountIn tokenIn with zero | ⟨msg, err⟩
      · obtain rfl := Outcome.ok.inj (h.symm.trans zero)
        exact ⟨le_refl _, zero_le_one⟩
      · cases h.symm.trans err
  | err msg => exact ⟨le_refl _, zero_le_one⟩
  | panic => exact ⟨le_refl _, zero_le_one⟩

end Pool
end ArbEngine
