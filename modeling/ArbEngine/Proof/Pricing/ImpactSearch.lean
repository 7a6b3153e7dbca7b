import ArbEngine.Lib.Bisection
import ArbEngine.Pricing.ImpactAnalyzer
import ArbEngine.Proof.Pricing.V2Solidity
import ArbEngine.Proof.Pricing.V2Spot

/-!
# The largest amount within an impact

The search is a bisection, and the impact is not monotone: what is paid out is cut off to a whole
number, and just below the next one the impact is worse than further on.

So the search does not find the largest amount for every pair: `findMaxSizeForImpact_iff` says when
it does. The impacts it compares with are those of exact division; where the engine's own division
answers, it is exact (`priceImpactBy_of_getPriceImpact`).
-/

namespace ArbEngine

open ConstantProduct

namespace PriceImpactAnalyzer

/-! ## The search is a bisection -/

/-- The impact of the amount is known, and at most the target. -/
def Within (impact : U256 → Outcome ℚ) (target : ℚ) (amount : U256) : Prop :=
  ∃ i, impact amount = .ok i ∧ i ≤ target

instance (impact : U256 → Outcome ℚ) (target : ℚ) : DecidablePred (Within impact target) :=
  fun amount =>
    match h : impact amount with
    | .ok i => decidable_of_iff (i ≤ target) (by simp [Within, h])
    | .err _ => isFalse (by simp [Within, h])
    | .panic => isFalse (by simp [Within, h])

/-- The words of the search are the numbers of the bisection. -/
structure Simulates (s : ImpactSearch) (t : Bisection.Search) : Prop where
  low : s.low.toNat = t.low
  high : s.high.toNat = t.high
  best : s.best.toNat = t.best

variable {impact : U256 → Outcome ℚ} {target : ℚ} {s : ImpactSearch}
  {t : Bisection.Search} {N n : ℕ}

/-- The test of the search, on numbers. -/
def withinNat (impact : U256 → Outcome ℚ) (target : ℚ) (x : ℕ) : Prop :=
  Within impact target (BitVec.ofNat 256 x)

instance (impact : U256 → Outcome ℚ) (target : ℚ) : DecidablePred (withinNat impact target) :=
  fun x => inferInstanceAs (Decidable (Within impact target (BitVec.ofNat 256 x)))

/-- The middle is the middle, as long as the sum of the ends has room. -/
theorem toNat_mid (sim : Simulates s t) (h : t.low + t.high < 2 ^ 256) :
    ((s.low + s.high) / 2#256).toNat = t.mid := by
  rw [BitVec.toNat_udiv, BitVec.toNat_add_of_lt (by rwa [sim.low, sim.high]), sim.low, sim.high]
  rfl

/-- Going on below the middle takes one off it, and a middle of at least one allows for that. -/
theorem searchBelow_simulates (sim : Simulates s t) {mid : U256} (hmid : mid.toNat = t.mid)
    (pos : 1 ≤ t.mid) :
    ∃ s', searchBelow s mid = .ok s' ∧ Simulates s' { t with high := t.mid - 1 } := by
  obtain ⟨high, below, value⟩ := Word.checkedSub_of_le (a := mid) (b := 1#256)
    (by rw [hmid]; exact pos)
  refine ⟨{ s with high }, ?_, ?_⟩
  · unfold searchBelow
    rw [below, Outcome.unwrap_some, Outcome.ok_bind, Outcome.pure_eq_ok]
  · exact { low := sim.low, high := by rw [value, hmid]; rfl, best := sim.best }

/-- An amount that is within the limit is the best so far, and the search goes on above it. -/
theorem searchRound_of_within {mid : U256} (hmid : (s.low + s.high) / 2#256 = mid)
    (nonzero : mid ≠ 0#256) (within : Within impact target mid) :
    searchRound impact target s = .ok { s with best := mid, low := mid + 1#256 } := by
  obtain ⟨i, answer, le⟩ := within
  unfold searchRound
  rw [hmid]
  simp only [if_neg nonzero, answer, if_pos le]

/-- An impact beyond the target and one that is not known are taken alike. -/
theorem searchRound_of_not_within {mid : U256} (hmid : (s.low + s.high) / 2#256 = mid)
    (nonzero : mid ≠ 0#256) (beyond : ¬ Within impact target mid) (answers : impact mid ≠ .panic) :
    searchRound impact target s = searchBelow s mid := by
  unfold searchRound
  rw [hmid]
  simp only [if_neg nonzero]
  cases h : impact mid with
  | ok i =>
    have more : ¬ i ≤ target := fun le => beyond ⟨i, h, le⟩
    simp only [if_neg more]
  | err msg => rfl
  | panic => exact absurd h answers

/-- **One iteration is one step of the bisection**, and nothing in it goes below zero. -/
theorem searchRound_simulates (sim : Simulates s t)
    (inv : Bisection.Inv (withinNat impact target) N t) (hN : N < 2 ^ 255) (more : t.low ≤ t.high)
    (answers : ∀ amount : U256, 1 ≤ amount.toNat → amount.toNat ≤ N → impact amount ≠ .panic) :
    ∃ s', searchRound impact target s = .ok s' ∧
      Simulates s' (Bisection.step (withinNat impact target) t) := by
  have low := inv.low
  have high := inv.high
  have low_le_mid := Bisection.le_mid more
  have mid_le_high := Bisection.mid_le more
  obtain ⟨mid, hmid⟩ : ∃ mid, (s.low + s.high) / 2#256 = mid := ⟨_, rfl⟩
  have value : mid.toNat = t.mid := by
    rw [← hmid]
    exact toNat_mid sim (by omega)
  have nonzero : mid ≠ 0#256 := by
    intro zero
    rw [zero] at value
    simp only [BitVec.toNat_ofNat, Nat.zero_mod] at value
    omega
  have test : withinNat impact target t.mid ↔ Within impact target mid := by
    rw [withinNat, ← value, BitVec.ofNat_toNat, BitVec.setWidth_eq]
  by_cases within : Within impact target mid
  · rw [Bisection.step_of_good (test.mpr within), searchRound_of_within hmid nonzero within]
    refine ⟨_, rfl, { low := ?_, high := sim.high, best := value }⟩
    change (mid + 1#256).toNat = t.mid + 1
    have one : (1#256).toNat = 1 := rfl
    rw [BitVec.toNat_add_of_lt (by rw [value, one]; omega), value, one]
  · rw [Bisection.step_of_not_good (test.not.mpr within),
      searchRound_of_not_within hmid nonzero within (answers mid (by omega) (by omega))]
    exact searchBelow_simulates sim value (by omega)

/-- **The loop is the bisection.** -/
theorem searchRounds_simulates (sim : Simulates s t)
    (inv : Bisection.Inv (withinNat impact target) N t) (hN : N < 2 ^ 255)
    (answers : ∀ amount : U256, 1 ≤ amount.toNat → amount.toNat ≤ N → impact amount ≠ .panic) :
    ∃ s', searchRounds impact target n s = .ok s' ∧
      Simulates s' (Bisection.run (withinNat impact target) n t) := by
  induction n generalizing s t with
  | zero => exact ⟨s, rfl, sim⟩
  | succ n ih =>
    have order : s.high < s.low ↔ t.high < t.low := by
      rw [BitVec.lt_def, sim.low, sim.high]
    rcases lt_or_ge t.high t.low with done | more
    · rw [searchRounds, if_pos (order.mpr done), Bisection.run_of_lt done]
      exact ⟨s, rfl, sim⟩
    · obtain ⟨s', round, sim'⟩ := searchRound_simulates sim inv hN more answers
      rw [searchRounds, if_neg (order.not.mpr (not_lt.mpr more)), round, Outcome.ok_bind,
        Bisection.run_succ more]
      exact ih sim' (Bisection.step_inv inv more)

end PriceImpactAnalyzer

namespace UniswapV2Pair

variable {p : UniswapV2Pair} {tokenIn : Token} {amountIn : U256} {pct : ℚ}

/-! ## The impact -/

/-- A quotient that answers is exact. -/
theorem exactDiv_of_decimalDiv {a b c d : ℚ}
    (h : (if d = 0 then pure 0 else decimalDiv a b) = .ok c) :
    (if d = 0 then pure 0 else exactDiv a b) = .ok c := by
  by_cases zero : d = 0
  · rwa [if_pos zero] at h ⊢
  · rw [if_neg zero] at h ⊢
    rw [eq_of_decimalDiv_eq_ok h, exactDiv]

/-- So it is for the spot price. -/
theorem spotPriceBy_of_getSpotPrice {spot : ℚ} (h : p.getSpotPrice tokenIn = .ok spot) :
    p.spotPriceBy exactDiv tokenIn = .ok spot := by
  obtain ⟨reserves, hres, h⟩ := Outcome.bind_eq_ok.mp h
  obtain ⟨rIn, hin, h⟩ := Outcome.bind_eq_ok.mp h
  obtain ⟨rOut, hout, h⟩ := Outcome.bind_eq_ok.mp h
  unfold spotPriceBy
  simp only [hres, Outcome.ok_bind, hin, hout]
  exact exactDiv_of_decimalDiv h

/-- And for the execution price. -/
theorem executionPriceBy_of_getExecutionPrice {exec : ℚ}
    (h : p.getExecutionPrice amountIn tokenIn = .ok exec) :
    p.executionPriceBy exactDiv amountIn tokenIn = .ok exec := by
  obtain ⟨amountOut, quoted, h⟩ := Outcome.bind_eq_ok.mp h
  obtain ⟨aIn, hin, h⟩ := Outcome.bind_eq_ok.mp h
  obtain ⟨aOut, hout, h⟩ := Outcome.bind_eq_ok.mp h
  unfold executionPriceBy
  simp only [quoted, Outcome.ok_bind, hin, hout]
  exact exactDiv_of_decimalDiv h

/-- An impact that answers is exact. -/
theorem priceImpactBy_of_getPriceImpact {impact : ℚ}
    (h : p.getPriceImpact amountIn tokenIn = .ok impact) :
    p.priceImpactBy exactDiv amountIn tokenIn = .ok impact := by
  obtain ⟨spot, hspot, h⟩ := Outcome.bind_eq_ok.mp h
  obtain ⟨exec, hexec, h⟩ := Outcome.bind_eq_ok.mp h
  unfold priceImpactBy
  rw [spotPriceBy_of_getSpotPrice hspot, Outcome.ok_bind,
    executionPriceBy_of_getExecutionPrice hexec, Outcome.ok_bind]
  exact exactDiv_of_decimalDiv h

/-- The reserves fit a `Decimal`, and so do the powers of ten; the fee is at most everything. These
    are the pairs the search is about. -/
structure InRange (p : UniswapV2Pair) : Prop where
  decimals0 : p.token0.decimals ≤ 18
  decimals1 : p.token1.decimals ≤ 18
  reserve0_pos : 1 ≤ p.reserve0.toNat
  reserve0_lt : p.reserve0.toNat < 2 ^ 96
  reserve1_pos : 1 ≤ p.reserve1.toNat
  reserve1_lt : p.reserve1.toNat < 2 ^ 96
  fee : p.feeBps.toNat ≤ 10000

/-- From either token. -/
theorem InRange.reserves (h : p.InRange) (tokenIn : Token) :
    (1 ≤ (p.reserveIn tokenIn).toNat ∧ (p.reserveIn tokenIn).toNat < 2 ^ 96) ∧
      1 ≤ (p.reserveOut tokenIn).toNat ∧ (p.reserveOut tokenIn).toNat < 2 ^ 96 := by
  unfold reserveIn reserveOut
  by_cases first : tokenIn.address = p.token0.address
  · rw [if_pos first, if_pos first]
    exact ⟨⟨h.reserve0_pos, h.reserve0_lt⟩, h.reserve1_pos, h.reserve1_lt⟩
  · rw [if_neg first, if_neg first]
    exact ⟨⟨h.reserve1_pos, h.reserve1_lt⟩, h.reserve0_pos, h.reserve0_lt⟩

/-- The share of the price at the reserves that is lost on an amount: what is paid out for a unit,
    beside what a unit is worth at the reserves. -/
def lostShare (p : UniswapV2Pair) (tokenIn : Token) (x : ℕ) : ℚ :=
  1 - (quote p.keptBps 10000 x (p.reserveIn tokenIn).toNat (p.reserveOut tokenIn).toNat : ℚ) *
    (p.reserveIn tokenIn).toNat / (x * (p.reserveOut tokenIn).toNat)

/-- Either token is of the pair. -/
theorem inPair_of_eq (h : tokenIn = p.token0 ∨ tokenIn = p.token1) : p.InPair tokenIn := by
  rcases h with rfl | rfl
  · exact token0_inPair
  · exact token1_inPair

/-- **A smaller amount loses less, but for one unit of what is paid out.** -/
theorem lostShare_lt (h : p.InRange) {x a : ℕ} (hx : 1 ≤ x) (ha : x ≤ a) :
    p.lostShare tokenIn x < p.lostShare tokenIn a +
      (p.reserveIn tokenIn).toNat / (x * (p.reserveOut tokenIn).toNat) := by
  obtain ⟨⟨inPos, -⟩, outPos, -⟩ := h.reserves tokenIn
  unfold lostShare
  generalize (p.reserveIn tokenIn).toNat = rin at *
  generalize (p.reserveOut tokenIn).toNat = rout at *
  have worse : quote p.keptBps 10000 a rin rout * x < (quote p.keptBps 10000 x rin rout + 1) * a :=
    quote_mul_lt_succ_mul inPos (by norm_num) hx ha
  have share : (quote p.keptBps 10000 a rin rout : ℚ) * rin / (a * rout) <
      ((quote p.keptBps 10000 x rin rout : ℚ) + 1) * rin / (x * rout) := by
    have rin_pos : (0 : ℚ) < rin := Nat.cast_pos.mpr inPos
    have rout_pos : (0 : ℚ) < rout := Nat.cast_pos.mpr outPos
    have x_pos : (0 : ℚ) < x := Nat.cast_pos.mpr hx
    have a_pos : (0 : ℚ) < a := Nat.cast_pos.mpr (hx.trans ha)
    rw [div_lt_div_iff₀ (mul_pos a_pos rout_pos) (mul_pos x_pos rout_pos)]
    calc (quote p.keptBps 10000 a rin rout : ℚ) * rin * (x * rout)
        = (quote p.keptBps 10000 a rin rout * x : ℕ) * (rin * rout) := by push_cast; ring
      _ < ((quote p.keptBps 10000 x rin rout + 1) * a : ℕ) * (rin * rout) :=
          mul_lt_mul_of_pos_right (Nat.cast_lt.mpr worse) (mul_pos rin_pos rout_pos)
      _ = ((quote p.keptBps 10000 x rin rout : ℚ) + 1) * rin * (a * rout) := by push_cast; ring
  rw [add_mul, add_div, one_mul] at share
  linarith only [share]

section
variable (h : p.InRange) (ht : tokenIn = p.token0 ∨ tokenIn = p.token1)
include h

/-- Eighteen decimals have room in a `u64`. -/
theorem InRange.decimalsOut : 10 ^ (p.otherToken tokenIn).decimals < 2 ^ 64 :=
  otherToken_decimals h.decimals0 h.decimals1

include ht

/-- On either side. -/
theorem InRange.decimalsIn : 10 ^ tokenIn.decimals < 2 ^ 64 := by
  rcases ht with rfl | rfl
  · exact decimals_lt h.decimals0
  · exact decimals_lt h.decimals1

/-- The price at the reserves answers. -/
theorem spotPriceBy_exactDiv : p.spotPriceBy exactDiv tokenIn = .ok (p.spot tokenIn) := by
  obtain ⟨⟨inPos, inLt⟩, -, outLt⟩ := h.reserves tokenIn
  have rin := Token.human_pos (t := tokenIn) inPos
  unfold spotPriceBy
  rw [getReservesOrdered_of_inPair (inPair_of_eq ht)]
  simp only [Outcome.ok_bind, u256ToDecimal_of_lt (h.decimalsIn ht) inLt,
    u256ToDecimal_of_lt h.decimalsOut outLt, if_neg rin.ne']
  rfl

/-- An amount is quoted, and its price is what is paid out for it. -/
theorem executionPriceBy_exactDiv (pos : 1 ≤ amountIn.toNat) (lt : amountIn.toNat < 2 ^ 96) :
    ∃ amountOut : U256,
      amountOut.toNat = quote p.keptBps 10000 amountIn.toNat (p.reserveIn tokenIn).toNat
        (p.reserveOut tokenIn).toNat ∧
      p.executionPriceBy exactDiv amountIn tokenIn =
        .ok ((p.otherToken tokenIn).human amountOut / tokenIn.human amountIn) := by
  obtain ⟨⟨inPos, inLt⟩, -, outLt⟩ := h.reserves tokenIn
  have ordered := getReservesOrdered_of_inPair (inPair_of_eq ht)
  have fits : p.QuoteFits amountIn (p.reserveIn tokenIn) (p.reserveOut tokenIn) :=
    quoteFits_of_lt (by omega) (by omega) (by omega)
  obtain ⟨amountOut, quoted⟩ := getAmountOut_of_fits ordered h.fee fits
  have value := getAmountOut_quote ordered inPos quoted
  have paid : amountOut.toNat < 2 ^ 96 := by
    rw [value]
    exact (quote_le inPos (by norm_num)).trans_lt outLt
  have ain := Token.human_pos (t := tokenIn) pos
  refine ⟨amountOut, value, ?_⟩
  unfold executionPriceBy
  rw [quoted]
  simp only [Outcome.ok_bind, u256ToDecimal_of_lt (h.decimalsIn ht) lt,
    u256ToDecimal_of_lt h.decimalsOut paid, if_neg ain.ne']
  rfl

/-- **The impact does not depend on the decimals.** -/
theorem priceImpactBy_exactDiv (pos : 1 ≤ amountIn.toNat) (lt : amountIn.toNat < 2 ^ 96) :
    p.priceImpactBy exactDiv amountIn tokenIn = .ok (p.lostShare tokenIn amountIn.toNat) := by
  obtain ⟨⟨inPos, -⟩, outPos, -⟩ := h.reserves tokenIn
  have rin := Token.human_pos (t := tokenIn) inPos
  have rout := Token.human_pos (t := p.otherToken tokenIn) outPos
  have ain := Token.human_pos (t := tokenIn) pos
  have spot_pos : 0 < p.spot tokenIn := div_pos rout rin
  obtain ⟨amountOut, value, exec⟩ := executionPriceBy_exactDiv h ht pos lt
  unfold priceImpactBy
  rw [spotPriceBy_exactDiv h ht, Outcome.ok_bind, exec, Outcome.ok_bind, if_neg spot_pos.ne',
    exactDiv, Outcome.ok.injEq, lostShare, ← value]
  unfold spot
  have inCast : (0 : ℚ) < (p.reserveIn tokenIn).toNat := Nat.cast_pos.mpr inPos
  have outCast : (0 : ℚ) < (p.reserveOut tokenIn).toNat := Nat.cast_pos.mpr outPos
  have amountCast : (0 : ℚ) < amountIn.toNat := Nat.cast_pos.mpr pos
  unfold Token.human
  field_simp

end

/-! ## What the search finds -/

open PriceImpactAnalyzer

/-- The impact of the amount, its quotients exact, is at most so many percent. -/
def ImpactWithin (p : UniswapV2Pair) (tokenIn : Token) (pct : ℚ) : U256 → Prop :=
  Within (fun amount => (Pool.v2 p).priceImpactBy exactDiv amount tokenIn) (pct / 100)

instance (p : UniswapV2Pair) (tokenIn : Token) (pct : ℚ) :
    DecidablePred (p.ImpactWithin tokenIn pct) :=
  fun amount => inferInstanceAs (Decidable (Within _ _ amount))

/-- The largest amount up to the reserve whose impact is within so many percent; zero if there is
    none. -/
def largestWithin (p : UniswapV2Pair) (tokenIn : Token) (pct : ℚ) : ℕ :=
  Nat.findGreatest (fun x => p.ImpactWithin tokenIn pct (BitVec.ofNat 256 x))
    (p.reserveIn tokenIn).toNat

/-- Halving the amounts up to the reserve until the largest one within the limit is found, no
    middle at or below that one is beyond the limit. -/
def WithinOnTheWay (p : UniswapV2Pair) (tokenIn : Token) (pct : ℚ) : Prop :=
  ∀ x ∈ Bisection.probes (· ≤ p.largestWithin tokenIn pct) 128
      (Bisection.start (p.reserveIn tokenIn).toNat),
    x ≤ p.largestWithin tokenIn pct → p.ImpactWithin tokenIn pct (BitVec.ofNat 256 x)

instance (p : UniswapV2Pair) (tokenIn : Token) (pct : ℚ) :
    Decidable (p.WithinOnTheWay tokenIn pct) :=
  inferInstanceAs (Decidable (∀ _ ∈ _, _ → _))

/-- An amount that is within the limit, or none, is the largest if nothing above it is. -/
theorem eq_largestWithin_iff {best : U256} (le : best.toNat ≤ (p.reserveIn tokenIn).toNat)
    (within : best.toNat = 0 ∨ p.ImpactWithin tokenIn pct best) :
    best.toNat = p.largestWithin tokenIn pct ↔
      ∀ amount, best < amount → amount ≤ p.reserveIn tokenIn →
        ¬ p.ImpactWithin tokenIn pct amount := by
  have word : ∀ amount : U256, BitVec.ofNat 256 amount.toNat = amount := by
    intro amount
    rw [BitVec.ofNat_toNat, BitVec.setWidth_eq]
  rw [eq_comm, largestWithin, Nat.findGreatest_eq_iff]
  constructor
  · rintro ⟨-, -, above⟩ amount lt le
    have fails := above (BitVec.lt_def.mp lt) (BitVec.le_def.mp le)
    rwa [word] at fails
  · intro above
    refine ⟨le, fun pos => ?_, fun x lt hx => ?_⟩
    · rw [word]
      exact within.resolve_left pos
    · have fits : (BitVec.ofNat 256 x).toNat = x := by
        rw [BitVec.toNat_ofNat, Nat.mod_eq_of_lt (hx.trans_lt (p.reserveIn tokenIn).isLt)]
      exact above _ (by rwa [BitVec.lt_def, fits]) (by rwa [BitVec.le_def, fits])

section
variable (h : p.InRange) (ht : tokenIn = p.token0 ∨ tokenIn = p.token1)
include h ht

theorem impactSearch_simulates (pct : ℚ) :
    ∃ s, impactSearch exactDiv (.v2 p) tokenIn pct = .ok s ∧
      Simulates s (Bisection.run (fun x => p.ImpactWithin tokenIn pct (BitVec.ofNat 256 x)) 128
        (Bisection.start (p.reserveIn tokenIn).toNat)) := by
  obtain ⟨⟨inPos, inLt⟩, -⟩ := h.reserves tokenIn
  have high : searchHigh (.v2 p) tokenIn = p.reserveIn tokenIn := by
    simp only [searchHigh, getReservesOrdered_of_inPair (inPair_of_eq ht)]
  have first : Simulates { low := 1#256, high := searchHigh (.v2 p) tokenIn, best := 0#256 }
      (Bisection.start (p.reserveIn tokenIn).toNat) :=
    { low := rfl, high := by rw [high]; rfl, best := rfl }
  have answers : ∀ amount : U256, 1 ≤ amount.toNat → amount.toNat ≤ (p.reserveIn tokenIn).toNat →
      (Pool.v2 p).priceImpactBy exactDiv amount tokenIn ≠ .panic := by
    intro amount pos le panics
    have answer := priceImpactBy_exactDiv h ht pos (le.trans_lt inLt)
    cases answer.symm.trans panics
  exact searchRounds_simulates first Bisection.start_inv (by omega) answers

/-- **The search comes to its end, finds an amount within the limit or none, and this is the
    largest one exactly if no middle on the way to the largest is beyond the limit.** -/
theorem findMaxSizeForImpact_iff (pct : ℚ) :
    ∃ s, impactSearch exactDiv (.v2 p) tokenIn pct = .ok s ∧ s.high < s.low ∧
      findMaxSizeForImpact exactDiv (.v2 p) tokenIn pct = .ok s.best ∧
      (s.best = 0#256 ∨ p.ImpactWithin tokenIn pct s.best) ∧
      ((∀ amount, s.best < amount → amount ≤ p.reserveIn tokenIn →
          ¬ p.ImpactWithin tokenIn pct amount) ↔
        p.WithinOnTheWay tokenIn pct) := by
  obtain ⟨⟨inPos, inLt⟩, -⟩ := h.reserves tokenIn
  have short : (p.reserveIn tokenIn).toNat < 2 ^ 128 := by omega
  obtain ⟨s, ends, sim⟩ := impactSearch_simulates h ht pct
  obtain ⟨done, le, best, -⟩ :=
    Bisection.run_spec (fun x => p.ImpactWithin tokenIn pct (BitVec.ofNat 256 x)) short
  have found : s.best.toNat = p.largestWithin tokenIn pct ↔ p.WithinOnTheWay tokenIn pct := by
    rw [sim.best]
    exact Bisection.best_eq_findGreatest_iff short
  rw [← sim.high, ← sim.low] at done
  rw [← sim.best] at le best
  rw [BitVec.ofNat_toNat, BitVec.setWidth_eq] at best
  refine ⟨s, ends, done, ?_, ?_, ?_⟩
  · unfold findMaxSizeForImpact
    rw [ends, Outcome.ok_bind, Outcome.pure_eq_ok]
  · exact best.imp (fun zero => BitVec.eq_of_toNat_eq zero) id
  · rw [← eq_largestWithin_iff le best, found]

/-- **What is missed is beyond the limit, but for one unit of what is paid out.** -/
theorem missed_within_unit {best amount : U256}
    (found : findMaxSizeForImpact exactDiv (.v2 p) tokenIn pct = .ok best) (above : best < amount)
    (le : amount ≤ p.reserveIn tokenIn) :
    pct / 100 < p.lostShare tokenIn amount.toNat + (p.reserveIn tokenIn).toNat /
      ((best.toNat + 1 : ℕ) * (p.reserveOut tokenIn).toNat) := by
  obtain ⟨⟨inPos, inLt⟩, -⟩ := h.reserves tokenIn
  have short : (p.reserveIn tokenIn).toNat < 2 ^ 128 := by omega
  obtain ⟨s, ends, sim⟩ := impactSearch_simulates h ht pct
  obtain ⟨-, -, -, closed⟩ :=
    Bisection.run_spec (fun x => p.ImpactWithin tokenIn pct (BitVec.ofNat 256 x)) short
  have same : s.best = best := by
    unfold findMaxSizeForImpact at found
    rw [ends] at found
    exact Outcome.ok.inj found
  rw [← sim.best, same] at closed
  replace above := BitVec.lt_def.mp above
  replace le := BitVec.le_def.mp le
  have beyond := closed.resolve_left (by omega)
  have next : (BitVec.ofNat 256 (best.toNat + 1)).toNat = best.toNat + 1 := by
    rw [BitVec.toNat_ofNat, Nat.mod_eq_of_lt (by omega)]
  have impact : p.priceImpactBy exactDiv (BitVec.ofNat 256 (best.toNat + 1)) tokenIn =
      .ok (p.lostShare tokenIn (BitVec.ofNat 256 (best.toNat + 1)).toNat) :=
    priceImpactBy_exactDiv h ht (by omega) (by omega)
  rw [next] at impact
  have worse : pct / 100 < p.lostShare tokenIn (best.toNat + 1) := by
    by_contra within
    exact beyond ⟨_, impact, not_lt.mp within⟩
  exact worse.trans (lostShare_lt h (by omega) above)

end

/-- Ten units of either token, and no fee. -/
def shallowPair : UniswapV2Pair :=
  { samplePair 10#256 10#256 with feeBps := 0#32 }

theorem shallowPair_inRange : shallowPair.InRange := by
  constructor <;> decide

/-- At two fifths no middle on the way to five units loses too much. -/
theorem shallowPair_max :
    ∃ s, impactSearch exactDiv (.v2 shallowPair) shallowPair.token0 40 = .ok s ∧
      s.high < s.low ∧
      ∀ amount, s.best < amount → amount ≤ 10#256 →
        ¬ shallowPair.ImpactWithin shallowPair.token0 40 amount := by
  obtain ⟨s, ends, done, -, -, largest⟩ :=
    findMaxSizeForImpact_iff shallowPair_inRange (.inl rfl) 40
  exact ⟨s, ends, done, largest.mpr (by decide +kernel)⟩

/-- **The search misses what it could have**: of the middles it meets, five units lose two fifths,
    two lose a half and one loses everything, so it finds nothing; three units lose a third. -/
theorem shallowPair_not_max :
    shallowPair.InRange ∧
      findMaxSizeForImpact exactDiv (.v2 shallowPair) shallowPair.token0 35 = .ok 0#256 ∧
      3#256 ≤ shallowPair.reserveIn shallowPair.token0 ∧
      shallowPair.ImpactWithin shallowPair.token0 35 3#256 := by
  exact ⟨shallowPair_inRange, by decide +kernel⟩

end UniswapV2Pair

end ArbEngine
