import ArbEngine.Proof.Pricing.V2Quote

/-!
# V2 quotes and the contract's

The router contract counts the fee in thousandths and works on reserves of 112 bits; the quote
here counts it in ten thousandths and checks four operations on 256 bits. On the range of the
contract none of the checks fires and the two agree (`getAmountOut_onchain`). Beyond it a quote
is the same quotient over the unbounded integers, or an error where one of its four intermediates
does not fit (`getAmountOut_err_iff`).
-/

namespace ArbEngine
namespace UniswapV2Pair

open ConstantProduct

/-- `UniswapV2Library.getAmountOut` -/
def libraryAmountOut (amountIn reserveIn reserveOut : ℕ) : ℕ :=
  amountIn * 997 * reserveOut / (reserveIn * 1000 + amountIn * 997)

theorem quote_thirty_bps (amountIn reserveIn reserveOut : ℕ) :
    quote 9970 10000 amountIn reserveIn reserveOut =
      libraryAmountOut amountIn reserveIn reserveOut :=
  quote_scale (m := 997) (s := 1000) (k := 10) (by norm_num)

/-- One of the four intermediates of a quote is too large for a word. -/
def Overflows (p : UniswapV2Pair) (amountIn reserveIn reserveOut : U256) : Prop :=
  2 ^ 256 ≤ amountIn.toNat * p.keptBps ∨
    2 ^ 256 ≤ amountIn.toNat * p.keptBps * reserveOut.toNat ∨
    2 ^ 256 ≤ reserveIn.toNat * 10000 ∨
    2 ^ 256 ≤ reserveIn.toNat * 10000 + amountIn.toNat * p.keptBps

section Quote

variable {p : UniswapV2Pair} {tokenIn : Token} {amountIn reserveIn reserveOut : U256}

theorem overflows_iff (hout : 0 < reserveOut.toNat) :
    p.Overflows amountIn reserveIn reserveOut ↔ ¬ p.QuoteFits amountIn reserveIn reserveOut := by
  unfold Overflows QuoteFits
  have grows : amountIn.toNat * p.keptBps ≤ amountIn.toNat * p.keptBps * reserveOut.toNat :=
    Nat.le_mul_of_pos_right _ hout
  omega

/-- Past the check for zeros every failure of a quote is an error. -/
theorem getAmountOut_ne_panic (fee : p.feeBps.toNat ≤ 10000)
    (ordered : p.getReservesOrdered tokenIn = .ok (reserveIn, reserveOut)) :
    p.getAmountOut amountIn tokenIn ≠ .panic := by
  obtain ⟨f, hf, -⟩ := feeMultiplier_of_le fee
  intro h
  unfold getAmountOut at h
  rw [ordered] at h
  simp only [Outcome.ok_bind] at h
  split at h
  · cases h
  · rw [hf, Outcome.ok_bind] at h
    simp only [Outcome.okOr_bind_eq_panic] at h
    obtain ⟨_, _, _, _, _, _, _, _, h⟩ := h
    split at h
    · cases h
    · cases h

theorem traded (paid : 0 < amountIn.toNat) (hin : 0 < reserveIn.toNat)
    (hout : 0 < reserveOut.toNat) :
    ¬ (amountIn = 0#256 ∨ reserveIn = 0#256 ∨ reserveOut = 0#256) := by
  rintro (rfl | rfl | rfl)
  · exact absurd paid (by decide)
  · exact absurd hin (by decide)
  · exact absurd hout (by decide)

/-- **A quote fails exactly where an intermediate overflows.** -/
theorem getAmountOut_err_iff (fee : p.feeBps.toNat ≤ 10000)
    (ordered : p.getReservesOrdered tokenIn = .ok (reserveIn, reserveOut))
    (paid : 0 < amountIn.toNat) (hin : 0 < reserveIn.toNat) (hout : 0 < reserveOut.toNat) :
    (∃ msg, p.getAmountOut amountIn tokenIn = .err msg) ↔
      p.Overflows amountIn reserveIn reserveOut := by
  rw [overflows_iff hout]
  constructor
  · rintro ⟨msg, failed⟩ fits
    obtain ⟨amountOut, quoted⟩ := getAmountOut_of_fits ordered fee fits
    rw [quoted] at failed
    cases failed
  · intro unfit
    cases h : p.getAmountOut amountIn tokenIn with
    | ok amountOut => exact absurd (getAmountOut_fits ordered (traded paid hin hout) h) unfit
    | err msg => exact ⟨msg, rfl⟩
    | panic => exact absurd h (getAmountOut_ne_panic fee ordered)

/-- Three factors of 112 bits and one of 14 leave room. -/
theorem quoteFits_of_lt (hx : amountIn.toNat < 2 ^ 112) (hin : reserveIn.toNat < 2 ^ 112)
    (hout : reserveOut.toNat < 2 ^ 112) : p.QuoteFits amountIn reserveIn reserveOut := by
  have kept : p.keptBps ≤ 10000 := Nat.sub_le _ _
  have priced : amountIn.toNat * p.keptBps ≤ 2 ^ 112 * 10000 := Nat.mul_le_mul hx.le kept
  constructor
  · calc amountIn.toNat * p.keptBps * reserveOut.toNat
        ≤ 2 ^ 112 * 10000 * 2 ^ 112 := Nat.mul_le_mul priced hout.le
      _ < 2 ^ 256 := by norm_num
  · calc reserveIn.toNat * 10000 + amountIn.toNat * p.keptBps
        ≤ 2 ^ 112 * 10000 + 2 ^ 112 * 10000 :=
          Nat.add_le_add (Nat.mul_le_mul_right _ hin.le) priced
      _ < 2 ^ 256 := by norm_num

/-- **On the range of the contract a quote is the contract's.** -/
theorem getAmountOut_onchain (fee : p.feeBps = 30#32)
    (ordered : p.getReservesOrdered tokenIn = .ok (reserveIn, reserveOut))
    (hx : amountIn.toNat < 2 ^ 112) (hin : 0 < reserveIn.toNat)
    (hin' : reserveIn.toNat < 2 ^ 112) (hout : 0 < reserveOut.toNat)
    (hout' : reserveOut.toNat < 2 ^ 112) :
    ∃ amountOut, p.getAmountOut amountIn tokenIn = .ok amountOut ∧
      amountOut.toNat =
        libraryAmountOut amountIn.toNat reserveIn.toNat reserveOut.toNat ∧
      amountOut.toNat < reserveOut.toNat := by
  have thirty : p.feeBps.toNat = 30 := by rw [fee]; rfl
  have kept : p.keptBps = 9970 := by rw [keptBps, thirty]
  obtain ⟨amountOut, quoted⟩ := getAmountOut_of_fits ordered (by omega)
    (quoteFits_of_lt hx hin' hout')
  have value := getAmountOut_quote ordered hin quoted
  rw [kept] at value
  refine ⟨amountOut, quoted, ?_, ?_⟩
  · rw [value, quote_thirty_bps]
  · rw [value]
    exact quote_lt hin (by norm_num) hout

end Quote

/-- **A quote is the exact quotient, or says that it overflowed**; with the fee of the contract
    and on its range it is what the contract computes. -/
theorem quotes_exactly (p : UniswapV2Pair) (tokenIn : Token)
    (amountIn reserveIn reserveOut : U256) (fee : p.feeBps.toNat ≤ 10000)
    (ordered : p.getReservesOrdered tokenIn = .ok (reserveIn, reserveOut))
    (paid : 0 < amountIn.toNat) (hin : 0 < reserveIn.toNat) (hout : 0 < reserveOut.toNat) :
    (p.feeBps = 30#32 → amountIn.toNat < 2 ^ 112 → reserveIn.toNat < 2 ^ 112 →
        reserveOut.toNat < 2 ^ 112 →
      ∃ amountOut, p.getAmountOut amountIn tokenIn = .ok amountOut ∧
        amountOut.toNat =
          libraryAmountOut amountIn.toNat reserveIn.toNat reserveOut.toNat ∧
        amountOut.toNat < reserveOut.toNat) ∧
      ((∃ msg, p.getAmountOut amountIn tokenIn = .err msg) ↔
        p.Overflows amountIn reserveIn reserveOut) ∧
      (¬ p.Overflows amountIn reserveIn reserveOut →
        ∃ amountOut, p.getAmountOut amountIn tokenIn = .ok amountOut ∧
          amountOut.toNat = amountIn.toNat * (10000 - p.feeBps.toNat) * reserveOut.toNat /
            (reserveIn.toNat * 10000 + amountIn.toNat * (10000 - p.feeBps.toNat))) := by
  refine ⟨?_, getAmountOut_err_iff fee ordered paid hin hout, ?_⟩
  · intro thirty hx hin' hout'
    exact getAmountOut_onchain thirty ordered hx hin hin' hout hout'
  · intro fits
    rw [overflows_iff hout, not_not] at fits
    obtain ⟨amountOut, quoted⟩ := getAmountOut_of_fits ordered fee fits
    exact ⟨amountOut, quoted, getAmountOut_quote ordered hin quoted⟩

/-- The quote of a thousand units against reserves of a hundred and fifty thousand. -/
theorem sample_quotes_exactly :
    ∃ amountOut, (samplePair 100000#256 50000#256).getAmountOut 1000#256
        (samplePair 100000#256 50000#256).token0 = .ok amountOut ∧
      amountOut.toNat = libraryAmountOut 1000 100000 50000 ∧ amountOut.toNat < 50000 :=
  (quotes_exactly (samplePair 100000#256 50000#256) (samplePair 100000#256 50000#256).token0
    1000#256 100000#256 50000#256 (by decide) (by decide) (by decide) (by decide)
    (by decide)).1 rfl (by decide) (by decide) (by decide)

end UniswapV2Pair
end ArbEngine
