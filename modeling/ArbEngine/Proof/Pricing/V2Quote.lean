import ArbEngine.Lib.ConstantProduct
import ArbEngine.Pricing.Amm

/-!
# What a V2 quote computes

One specification lemma per function of the pair, each an equation between natural numbers
that the constant-product library can be applied to. The checked intermediates disappear
here: a quote that answered `ok` had no overflow, so its word is the unbounded one.

Nothing below this file unfolds `getAmountOut`, `getAmountIn` or `simulateSwap` again.
-/

namespace ArbEngine
namespace UniswapV2Pair

open ConstantProduct

/-- The basis points of an input that are priced. -/
def keptBps (p : UniswapV2Pair) : ℕ := 10000 - p.feeBps.toNat

/-! ## Reserves and fee -/

/-- The reserves come in the order of the trade. The first token is tried first, so a pair whose
    two tokens are one is always traded from the first to the second reserve. -/
theorem getReservesOrdered_cases {p : UniswapV2Pair} {tok : Token} {rin rout : U256}
    (h : p.getReservesOrdered tok = .ok (rin, rout)) :
    (tok.address = p.token0.address ∧ rin = p.reserve0 ∧ rout = p.reserve1) ∨
      (tok.address ≠ p.token0.address ∧ tok.address = p.token1.address ∧
        rin = p.reserve1 ∧ rout = p.reserve0) := by
  unfold getReservesOrdered at h
  split at h
  · rename_i h0
    cases h
    exact Or.inl ⟨h0, rfl, rfl⟩
  · rename_i h0
    split at h
    · rename_i h1
      cases h
      exact Or.inr ⟨h0, h1, rfl, rfl⟩
    · cases h

/-- The multiplier that answers is what the fee leaves of ten thousand; a larger fee is a panic. -/
theorem feeMultiplier_eq_ok {p : UniswapV2Pair} {f : U256} (h : p.feeMultiplier = .ok f) :
    p.feeBps.toNat ≤ 10000 ∧ f.toNat = p.keptBps := by
  unfold feeMultiplier at h
  obtain ⟨kept, hk, hf⟩ := Outcome.bind_eq_ok.mp h
  obtain ⟨hle, hv⟩ := Word.checkedSub_eq_some.mp (Outcome.unwrap_eq_ok.mp hk)
  simp only [Outcome.pure_eq_ok, Outcome.ok.injEq] at hf
  subst hf
  have hlt : kept.toNat < 2 ^ 256 := lt_trans kept.isLt (by norm_num)
  refine ⟨hle, ?_⟩
  rw [BitVec.toNat_setWidth, Nat.mod_eq_of_lt hlt, hv]
  rfl

/-- A fee of at most ten thousand basis points has a multiplier. -/
theorem feeMultiplier_of_le {p : UniswapV2Pair} (h : p.feeBps.toNat ≤ 10000) :
    ∃ f, p.feeMultiplier = .ok f ∧ f.toNat = p.keptBps := by
  have hten : (10000#32).toNat = 10000 := by decide
  obtain ⟨kept, hk, _⟩ := Word.checkedSub_of_le (a := 10000#32) (b := p.feeBps)
    (by rw [hten]; exact h)
  have hf : p.feeMultiplier = .ok (kept.setWidth 256) := by
    unfold feeMultiplier
    rw [hk, Outcome.unwrap_some, Outcome.ok_bind, Outcome.pure_eq_ok]
  exact ⟨_, hf, (feeMultiplier_eq_ok hf).2⟩

theorem toNat_pos {x : U256} (h : x ≠ 0#256) : 0 < x.toNat := by
  rw [Nat.pos_iff_ne_zero]
  intro hzero
  exact h (BitVec.eq_of_toNat_eq (by simpa using hzero))

/-! ## The quote -/

/-- The words of a quote that answered, where there is something to quote: the input after the
    fee, the numerator and the denominator. -/
theorem getAmountOut_words {p : UniswapV2Pair} {tok : Token} {rin rout x y : U256}
    (hr : p.getReservesOrdered tok = .ok (rin, rout))
    (hz : ¬ (x = 0#256 ∨ rin = 0#256 ∨ rout = 0#256)) (h : p.getAmountOut x tok = .ok y) :
    ∃ n d : U256, n.toNat = x.toNat * p.keptBps * rout.toNat ∧
      d.toNat = rin.toNat * 10000 + x.toNat * p.keptBps ∧ y = n / d := by
  unfold getAmountOut at h
  rw [hr] at h
  simp only [Outcome.ok_bind, if_neg hz] at h
  obtain ⟨f, hf, h⟩ := Outcome.bind_eq_ok.mp h
  obtain ⟨a, ha, h⟩ := Outcome.bind_eq_ok.mp h
  obtain ⟨n, hn, h⟩ := Outcome.bind_eq_ok.mp h
  obtain ⟨b, hb, h⟩ := Outcome.bind_eq_ok.mp h
  obtain ⟨d, hd, h⟩ := Outcome.bind_eq_ok.mp h
  -- each checked operation that answered is the operation on numbers
  have hf := (feeMultiplier_eq_ok hf).2
  have ha := Word.checkedMul_eq_some.mp (Outcome.okOr_eq_ok.mp ha)
  have hn := Word.checkedMul_eq_some.mp (Outcome.okOr_eq_ok.mp hn)
  have hb := Word.checkedMul_eq_some.mp (Outcome.okOr_eq_ok.mp hb)
  have hd := Word.checkedAdd_eq_some.mp (Outcome.okOr_eq_ok.mp hd)
  have hten : (10000#256).toNat = 10000 := by decide
  rw [ha, hf] at hn
  rw [hb, ha, hf, hten] at hd
  split at h
  · cases h
  · exact ⟨n, d, hn, hd, (Outcome.ok.inj h).symm⟩

/-- **A quote that answered is the floored constant-product quote.** This is where the code meets
    the library: all that is known of the quote below comes from the library's laws through this
    equation. -/
theorem getAmountOut_quote {p : UniswapV2Pair} {tok : Token} {rin rout x y : U256}
    (hr : p.getReservesOrdered tok = .ok (rin, rout)) (hin : 0 < rin.toNat)
    (h : p.getAmountOut x tok = .ok y) :
    y.toNat = quote p.keptBps 10000 x.toNat rin.toNat rout.toNat := by
  by_cases hz : x = 0#256 ∨ rin = 0#256 ∨ rout = 0#256
  · -- Nothing in, or nothing to sell: both sides are zero.
    unfold getAmountOut at h
    rw [hr] at h
    simp only [Outcome.ok_bind, if_pos hz, Outcome.pure_eq_ok, Outcome.ok.injEq] at h
    subst h
    rcases hz with rfl | rfl | rfl
    · simp [quote]
    · exact absurd hin (by simp)
    · simp [quote]
  · obtain ⟨n, d, hn, hd, rfl⟩ := getAmountOut_words hr hz h
    rw [BitVec.toNat_udiv, hn, hd]
    rfl

/-- A quote that answered has found both reserves: the token is one of the pair. -/
theorem getAmountOut_reserves {p : UniswapV2Pair} {tok : Token} {x y : U256}
    (h : p.getAmountOut x tok = .ok y) :
    ∃ rin rout, p.getReservesOrdered tok = .ok (rin, rout) := by
  unfold getAmountOut at h
  obtain ⟨⟨rin, rout⟩, hr, _⟩ := Outcome.bind_eq_ok.mp h
  exact ⟨rin, rout, hr⟩

/-- Both products of the quote fit in 256 bits; the two smaller ones then fit as well. -/
def QuoteFits (p : UniswapV2Pair) (x rin rout : U256) : Prop :=
  x.toNat * p.keptBps * rout.toNat < 2 ^ 256 ∧
    rin.toNat * 10000 + x.toNat * p.keptBps < 2 ^ 256

theorem getAmountOut_fits {p : UniswapV2Pair} {tok : Token} {rin rout x y : U256}
    (hr : p.getReservesOrdered tok = .ok (rin, rout))
    (hz : ¬ (x = 0#256 ∨ rin = 0#256 ∨ rout = 0#256)) (h : p.getAmountOut x tok = .ok y) :
    p.QuoteFits x rin rout := by
  obtain ⟨n, d, hn, hd, -⟩ := getAmountOut_words hr hz h
  exact ⟨hn ▸ n.isLt, hd ▸ d.isLt⟩

/-- **A quote whose products fit is answered.** -/
theorem getAmountOut_of_fits {p : UniswapV2Pair} {tok : Token} {rin rout x : U256}
    (hr : p.getReservesOrdered tok = .ok (rin, rout)) (hfee : p.feeBps.toNat ≤ 10000)
    (hfit : p.QuoteFits x rin rout) : ∃ y, p.getAmountOut x tok = .ok y := by
  unfold getAmountOut
  rw [hr]
  simp only [Outcome.ok_bind]
  split
  · exact ⟨_, rfl⟩
  · rename_i hz
    obtain ⟨_, hrin, hrout⟩ : x ≠ 0#256 ∧ rin ≠ 0#256 ∧ rout ≠ 0#256 := by
      simpa [not_or] using hz
    obtain ⟨hnum, hden⟩ := hfit
    have hroutpos : 0 < rout.toNat := toNat_pos hrout
    have hten : (10000#256).toNat = 10000 := by decide
    obtain ⟨f, hf, hfv⟩ := feeMultiplier_of_le hfee
    have hin : x.toNat * p.keptBps < 2 ^ 256 := lt_of_le_of_lt (Nat.le_add_left _ _) hden
    have hbase : rin.toNat * 10000 < 2 ^ 256 := lt_of_le_of_lt (Nat.le_add_right _ _) hden
    obtain ⟨a, ha, hav⟩ := Word.checkedMul_of_lt (a := x) (b := f) (by rw [hfv]; exact hin)
    obtain ⟨n, hn, hnv⟩ := Word.checkedMul_of_lt (a := a) (b := rout)
      (by rw [hav, hfv]; exact hnum)
    obtain ⟨b, hb, hbv⟩ := Word.checkedMul_of_lt (a := rin) (b := 10000#256)
      (by rw [hten]; exact hbase)
    obtain ⟨d, hd, hdv⟩ := Word.checkedAdd_of_lt (a := b) (b := a)
      (by rw [hbv, hav, hfv, hten]; exact hden)
    have hd0 : d ≠ 0#256 := by
      intro h0
      rw [h0, hbv, hten] at hdv
      have := toNat_pos hrin
      simp only [BitVec.toNat_ofNat, Nat.zero_mod] at hdv
      omega
    refine ⟨n / d, ?_⟩
    rw [hf, Outcome.ok_bind, ha, Outcome.okOr_some, Outcome.ok_bind, hn, Outcome.okOr_some,
      Outcome.ok_bind, hb, Outcome.okOr_some, Outcome.ok_bind, hd, Outcome.okOr_some,
      Outcome.ok_bind, if_neg hd0, Outcome.pure_eq_ok]

/-- A quote for less is answered when one for more is. -/
theorem getAmountOut_of_le {p : UniswapV2Pair} {tok : Token} {x y : U256} (x' : U256)
    (hfee : p.feeBps.toNat ≤ 10000) (hle : x'.toNat ≤ x.toNat)
    (h : p.getAmountOut x tok = .ok y) : ∃ y', p.getAmountOut x' tok = .ok y' := by
  obtain ⟨rin, rout, hr⟩ := getAmountOut_reserves h
  by_cases hz : x = 0#256 ∨ rin = 0#256 ∨ rout = 0#256
  · have hz' : x' = 0#256 ∨ rin = 0#256 ∨ rout = 0#256 := by
      rcases hz with rfl | hrest
      · exact Or.inl (BitVec.eq_of_toNat_eq (by simpa using hle))
      · exact Or.inr hrest
    refine ⟨0#256, ?_⟩
    unfold getAmountOut
    rw [hr]
    simp only [Outcome.ok_bind, if_pos hz', Outcome.pure_eq_ok]
  · obtain ⟨hnum, hden⟩ := getAmountOut_fits hr hz h
    have hin : x'.toNat * p.keptBps ≤ x.toNat * p.keptBps := Nat.mul_le_mul_right _ hle
    refine getAmountOut_of_fits hr hfee ⟨?_, ?_⟩
    · exact lt_of_le_of_lt (Nat.mul_le_mul_right _ hin) hnum
    · exact lt_of_le_of_lt (Nat.add_le_add_left hin _) hden

/-! ## The inverse quote -/

/-- What `getAmountIn` answers, in terms of the two reserves as *it* binds them. -/
theorem getAmountIn_value {p : UniswapV2Pair} {tok : Token} {r₁ r₂ x y : U256}
    (hr : p.getReservesOrdered tok = .ok (r₁, r₂)) (h : p.getAmountIn y tok = .ok x) :
    y.toNat < r₂.toNat ∧ 0 < (r₂.toNat - y.toNat) * p.keptBps ∧
      x.toNat = r₁.toNat * y.toNat * 10000 / ((r₂.toNat - y.toNat) * p.keptBps) + 1 := by
  unfold getAmountIn at h
  rw [hr] at h
  simp only [Outcome.ok_bind] at h
  split at h
  · cases h
  · rename_i hz
    obtain ⟨hy0, hlt⟩ := not_or.mp hz
    obtain ⟨n, hn, h⟩ := Outcome.bind_eq_ok.mp h
    obtain ⟨f, hf, h⟩ := Outcome.bind_eq_ok.mp h
    obtain ⟨d, hd, h⟩ := Outcome.bind_eq_ok.mp h
    obtain ⟨n', hn', hn⟩ := Option.bind_eq_some_iff.mp (Outcome.okOr_eq_ok.mp hn)
    obtain ⟨d', hd', hd⟩ := Option.bind_eq_some_iff.mp (Outcome.okOr_eq_ok.mp hd)
    have hf := (feeMultiplier_eq_ok hf).2
    have hn' := Word.checkedMul_eq_some.mp hn'
    have hn := Word.checkedMul_eq_some.mp hn
    have hd' := (Word.checkedSub_eq_some.mp hd').2
    have hd := Word.checkedMul_eq_some.mp hd
    rw [hn'] at hn
    rw [hd', hf] at hd
    split at h
    · cases h
    · rename_i hd0
      simp only [Outcome.pure_eq_ok, Outcome.ok.injEq] at h
      subst h
      have hdpos : 0 < d.toNat := toNat_pos hd0
      have hten : (10000#256).toNat = 10000 := by decide
      rw [hten] at hn
      -- The numerator is a multiple of 10000, so it is not the all-ones word and adding one
      -- to a quotient of it does not saturate.
      have hroom : (n / d).toNat + (1#256).toNat < 2 ^ 256 := by
        have hle : (n / d).toNat ≤ n.toNat := by
          rw [BitVec.toNat_udiv]
          exact Nat.div_le_self _ _
        have hn256 : n.toNat < 2 ^ 256 := n.isLt
        have hone : (1#256).toNat = 1 := by decide
        rw [hone]
        omega
      refine ⟨?_, hd ▸ hdpos, ?_⟩
      · rw [BitVec.le_def] at hlt
        omega
      · rw [Word.toNat_saturatingAdd hroom, BitVec.toNat_udiv, hn, hd]
        rfl

/-! ## A sample pair -/

/-- Two tokens at a 0.3% fee. -/
def samplePair (r0 r1 : U256) : UniswapV2Pair where
  address := 0x9#160
  token0 := { address := 0x1#160, decimals := 18, symbol := "WETH" }
  token1 := { address := 0x2#160, decimals := 6, symbol := "USDC" }
  reserve0 := r0
  reserve1 := r1
  feeBps := 30#32

example : (samplePair 1000#256 1000#256).getAmountOut 112#256
    (samplePair 1000#256 1000#256).token0 = .ok 100#256 := by decide

end UniswapV2Pair
end ArbEngine
