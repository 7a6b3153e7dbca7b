import ArbEngine.Proof.Pricing.V2Price
import ArbEngine.Strategy.Generator

/-!
# The two quotes of a pool

The generator asks the pool for the price of a sale and for that of a purchase, and inverts
either of them if it is below one while the exchange trades above a thousand: the quote is then
taken for that of the other token. Without the inversions a sale never pays more than a
purchase costs (`UniswapV2Pair.price_mul_lt_one`). An inverted sale pays more than the spot
price, an inverted purchase costs less, and the two are ordered only where the sale stays as
it is, or where it is inverted alone and a base token bought is cheap enough (`ordered_iff`).

The order of the tokens decides which of them counts as the base token. Since an inversion moves
a quote past the spot price, the pool with its tokens exchanged has the same prices only if its
quotes are the same before the inversions (`invertSmall_inj`).
-/

namespace ArbEngine

/-! ## The inversion -/

section Inversion

variable {x y x' cex : ℚ}

theorem invertSmall_fin (hx : x ≠ 0) :
    invertSmall (.fin x) cex = .fin (if x < 1 ∧ 1000 < cex then 1 / x else x) := by
  unfold invertSmall
  by_cases small : x < 1 ∧ 1000 < cex
  · have small' : XRat.fin x < XRat.fin 1 ∧ 1000 < cex := small
    rw [if_pos small, if_pos small', XRat.fin_div hx]
  · have large' : ¬ (XRat.fin x < XRat.fin 1 ∧ 1000 < cex) := small
    rw [if_neg small, if_neg large']

/-- What is not a positive rational does not become one. -/
theorem invertSmall_ne_of_not_pos (hx : 0 < x) (hx' : ¬ 0 < x') :
    invertSmall (.fin x') cex ≠ .fin x := by
  unfold invertSmall
  split
  · intro h
    obtain ⟨z, hne, hz, hdiv⟩ := XRat.div_fin_eq_fin h
    cases hz
    have hpos : 0 < 1 / x' := hdiv ▸ hx
    exact hx' (one_div_pos.mp hpos)
  · intro h
    cases h
    exact hx' hx

/-- **An inversion is not undone by another quote**, unless that is the reciprocal. -/
theorem invertSmall_inj (hx : 0 < x) (hne : 0 < x' → x * x' ≠ 1)
    (h : invertSmall (.fin x') cex = invertSmall (.fin x) cex) : x' = x := by
  have hinv : invertSmall (.fin x) cex = .fin (if x < 1 ∧ 1000 < cex then 1 / x else x) :=
    invertSmall_fin hx.ne'
  have hpos : 0 < x' := by
    by_contra hle
    refine invertSmall_ne_of_not_pos (x := if x < 1 ∧ 1000 < cex then 1 / x else x) ?_ hle
      (h.trans hinv)
    split
    · exact one_div_pos.mpr hx
    · exact hx
  have apart := hne hpos
  rw [hinv, invertSmall_fin hpos.ne', XRat.fin.injEq] at h
  split at h
  · split at h
    · exact one_div_one_div x' ▸ one_div_one_div x ▸ congrArg (1 / ·) h
    · rw [← h, one_div, inv_mul_cancel₀ hpos.ne'] at apart
      exact absurd rfl apart
  · split at h
    · rw [h, mul_one_div, div_self hx.ne'] at apart
      exact absurd rfl apart
    · exact h

/-- **Where the two prices are ordered**, for quotes whose product is below one: the quote for a
    sale stays as it is, or it alone is inverted and is no smaller than the one for a
    purchase. -/
theorem ordered_iff {sells buys : Prop} [Decidable sells] [Decidable buys] (hx : 0 < x)
    (hy : 0 < y) (hxy : x * y < 1) (hbuys : buys → 1 / y < 1) :
    (if sells then 1 / x else x) ≤ (if buys then 1 / (1 / y) else 1 / y) ↔
      ¬ sells ∨ (¬ buys ∧ y ≤ x) := by
  have below : x < 1 / y := (lt_div_iff₀ hy).mpr hxy
  by_cases hs : sells
  · rw [if_pos hs, or_iff_right (not_not_intro hs)]
    by_cases hb : buys
    · rw [if_pos hb, one_div_one_div, div_le_iff₀ hx]
      constructor
      · intro h
        rw [mul_comm] at h
        exact absurd hxy (not_lt.mpr h)
      · rintro ⟨hnot, -⟩
        exact absurd hb hnot
    · rw [if_neg hb, one_div_le_one_div hx hy]
      constructor
      · intro h
        exact ⟨hb, h⟩
      · intro h
        exact h.2
  · rw [if_neg hs]
    refine iff_of_true ?_ (.inl hs)
    by_cases hb : buys
    · rw [if_pos hb, one_div_one_div]
      have large : 1 < y := (div_lt_one hy).mp (hbuys hb)
      exact (below.trans (hbuys hb)).le.trans large.le
    · rw [if_neg hb]
      exact below.le

end Inversion

/-! ## The prices of a call -/

namespace PairMetadata

variable {m : PairMetadata} {size : ℚ} {book : BestPrices}

/-- The prices there are, made of the two quotes. -/
theorem prices_eq_some {p : PriceData} :
    m.prices size book = .ok (some p) ↔
      ∃ x y, m.sellQuote size = .ok x ∧ m.buyQuote size book = .ok y ∧
        p = { cexBid := book.bid, cexAsk := book.ask,
              dexBuy := invertSmall (((1 : ℚ) : XRat) / (y : XRat)) book.bid,
              dexSell := invertSmall x book.ask } := by
  unfold prices
  constructor
  · intro h
    obtain ⟨sell, hsell, h⟩ := Outcome.bind_eq_ok.mp h
    cases sell with
    | none => cases h
    | some x =>
      obtain ⟨buy, hbuy, h⟩ := Outcome.bind_eq_ok.mp h
      cases buy with
      | none => cases h
      | some y =>
        cases h
        exact ⟨x, y, Outcome.discardErr_eq_some.mp hsell, Outcome.discardErr_eq_some.mp hbuy,
          rfl⟩
  · rintro ⟨x, y, hsell, hbuy, rfl⟩
    rw [hsell, hbuy]
    rfl

end PairMetadata

/-- The prices a generator fetches for a pair it has registered with this metadata. -/
def Fetches (g : SignalGenerator) (env : QuoteEnv) (pair : String) (size : ℚ)
    (m : PairMetadata) (p : PriceData) : Prop :=
  ∃ g', (g.registerPair pair m).fetchPrices env pair size = .ok (g', some p)

theorem fetches_iff {g : SignalGenerator} {env : QuoteEnv} {pair : String} {size : ℚ}
    {m : PairMetadata} {p : PriceData} {book : BestPrices} (hbook : env.orderBook = some book) :
    Fetches g env pair size m p ↔ m.prices size book = .ok (some p) := by
  have registered : (g.registerPair pair m).pairMetadata pair = some m := if_pos rfl
  unfold Fetches SignalGenerator.fetchPrices
  rw [registered, hbook]
  constructor
  · rintro ⟨g', h⟩
    obtain ⟨prices, hprices, h⟩ := Outcome.bind_eq_ok.mp h
    cases h
    exact hprices
  · intro h
    exact ⟨_, Outcome.bind_eq_ok.mpr ⟨_, h, rfl⟩⟩

/-! ## A V2 pool -/

/-- The generator finds no trade of the pool with itself, in whichever order the tokens of the
    pool stand, and the order does not change its prices. -/
def NoSelfArbitrage (g : SignalGenerator) (env : QuoteEnv) (pair : String) (size : ℚ)
    (p : UniswapV2Pair) : Prop :=
  ∃ prices prices',
    Fetches g env pair size (PairMetadata.ofPool (.v2 p)) prices ∧
      Fetches g env pair size (PairMetadata.ofPool (.v2 p.swapped)) prices' ∧
      prices.dexSell ≤ prices.dexBuy ∧ prices'.dexSell = prices.dexSell ∧
      prices'.dexBuy = prices.dexBuy

section Pool

variable {p : UniswapV2Pair} {size : ℚ} {book : BestPrices}

theorem sellQuote_swapped (hne : ¬ p.SameToken) :
    (PairMetadata.ofPool (.v2 p.swapped)).sellQuote size =
      p.getExecutionPrice (f64ToU256 size p.token1.decimals) p.token1 :=
  UniswapV2Pair.getExecutionPrice_swapped hne .token1 _

theorem buyQuote_swapped (hne : ¬ p.SameToken) :
    (PairMetadata.ofPool (.v2 p.swapped)).buyQuote size book =
      p.getExecutionPrice (f64ToU256 (size * ((book.bid + book.ask) / 2)) p.token0.decimals)
        p.token0 :=
  UniswapV2Pair.getExecutionPrice_swapped hne .token0 _

/-- The inverse of a purchase tells its quote, the other way round as well. -/
theorem buy_inj {y y' cex : ℚ} (hy : 0 < y) (hne : 0 < y' → y * y' ≠ 1)
    (h : invertSmall (((1 : ℚ) : XRat) / (y' : XRat)) cex = invertSmall (.fin (1 / y)) cex) :
    y' = y := by
  by_cases hzero : y' = 0
  · -- Nothing is paid back, and the price is infinite.
    rw [hzero, invertSmall_fin (one_div_pos.mpr hy).ne'] at h
    cases h
  · rw [XRat.fin_div hzero] at h
    have same : 1 / y' = 1 / y := by
      apply invertSmall_inj (one_div_pos.mpr hy) _ h
      intro hpos hone
      apply hne (one_div_pos.mp hpos)
      rw [one_div_mul_one_div, div_eq_one_iff_eq (mul_ne_zero hy.ne' hzero)] at hone
      exact hone.symm
    exact one_div_one_div y' ▸ one_div_one_div y ▸ congrArg (1 / ·) same

/-- **When the pool does not trade with itself.** With a positive quote `x` for the sale and `y`
    for the purchase: `x` is not inverted, or it alone is and is no smaller than `y`; and the
    pool quotes its second token at `x` and its first at `y`, each on the amount it is asked
    for when the tokens stand the other way round. -/
theorem no_self_arbitrage_iff {g : SignalGenerator} {env : QuoteEnv} {pair : String} {x y : ℚ}
    (hne : p.token0.address ≠ p.token1.address)
    (h0 : 0 < p.reserve0.toNat) (h1 : 0 < p.reserve1.toNat)
    (hbook : env.orderBook = some book)
    (sell : (PairMetadata.ofPool (.v2 p)).sellQuote size = .ok x)
    (buy : (PairMetadata.ofPool (.v2 p)).buyQuote size book = .ok y) (hx : 0 < x) (hy : 0 < y) :
    NoSelfArbitrage g env pair size p ↔
      (¬ (x < 1 ∧ 1000 < book.ask) ∨ (¬ (1 / y < 1 ∧ 1000 < book.bid) ∧ y ≤ x)) ∧
        p.getExecutionPrice (f64ToU256 size p.token1.decimals) p.token1 = .ok x ∧
        p.getExecutionPrice
          (f64ToU256 (size * ((book.bid + book.ask) / 2)) p.token0.decimals) p.token0 =
            .ok y := by
  -- a round trip through the pool loses, whatever its size
  have hxy : x * y < 1 := UniswapV2Pair.price_mul_lt_one .token0 hne h0 h1 sell buy hx hy
  have ordered : invertSmall (.fin x) book.ask ≤ invertSmall (.fin (1 / y)) book.bid ↔
      ¬ (x < 1 ∧ 1000 < book.ask) ∨ (¬ (1 / y < 1 ∧ 1000 < book.bid) ∧ y ≤ x) := by
    rw [invertSmall_fin hx.ne', invertSmall_fin (one_div_pos.mpr hy).ne', XRat.fin_le]
    exact ordered_iff hx hy hxy And.left
  rw [← sellQuote_swapped hne, ← buyQuote_swapped hne, ← ordered, ← XRat.fin_div hy.ne']
  unfold NoSelfArbitrage
  simp only [fetches_iff hbook, PairMetadata.prices_eq_some]
  constructor
  · rintro ⟨_, _, ⟨x₁, y₁, hx₁, hy₁, rfl⟩, ⟨x', y', hx', hy', rfl⟩, hle, hsell, hbuy⟩
    rw [sell] at hx₁
    rw [buy] at hy₁
    cases hx₁
    cases hy₁
    refine ⟨hle, ?_, ?_⟩
    · -- inverting is one to one here, so the swapped pool quotes the same number
      have same : x' = x := by
        apply invertSmall_inj hx _ hsell
        intro hpos
        rw [sellQuote_swapped hne] at hx'
        exact (UniswapV2Pair.price_mul_lt_one .token0 hne h0 h1 sell hx' hx hpos).ne
      rw [hx', same]
    · have same : y' = y := by
        rw [XRat.fin_div hy.ne'] at hbuy
        apply buy_inj hy _ hbuy
        intro hpos
        rw [buyQuote_swapped hne] at hy'
        exact (UniswapV2Pair.price_mul_lt_one .token1 hne h0 h1 buy hy' hy hpos).ne
      rw [hy', same]
  · rintro ⟨hle, hx', hy'⟩
    exact ⟨_, _, ⟨x, y, sell, buy, rfl⟩, ⟨x, y, hx', hy', rfl⟩, hle, rfl, rfl⟩

end Pool

/-! ## A thousand ether -/

/-- A thousand of each of two tokens with the same decimals. -/
def sampleTwins : UniswapV2Pair :=
  let pair := UniswapV2Pair.samplePair 1000000000000000000000#256 1000000000000000000000#256
  { pair with token1 := { pair.token1 with decimals := 18 } }

/-- A thousand ether and two million dollars, the dollars first. -/
def sampleStableFirst : UniswapV2Pair :=
  (UniswapV2Pair.samplePair 1000000000000000000000#256 2000000000000#256).swapped

def sampleBook (bid ask : ℚ) : QuoteEnv where
  now := 0
  orderBook := some { bid, ask }
  shortUuid := "1a2b3c4d"
  created := 0

/-- With equal reserves the order of the tokens is invisible. -/
theorem sample_twins_do_not_trade :
    NoSelfArbitrage (SignalGenerator.new default default) (sampleBook 1 1) "WETH/USDC" 1
      sampleTwins := by
  have quotes : ((PairMetadata.ofPool (.v2 sampleTwins)).sellQuote 1).toOption.bind (fun x =>
      ((PairMetadata.ofPool (.v2 sampleTwins)).buyQuote 1 { bid := 1, ask := 1 }).toOption.map
        fun y => (x, y)) =
      some (62250436314993951 / 62500000000000000, 62250436314993951 / 62500000000000000) := by
    decide +kernel
  obtain ⟨x, hx, hy⟩ := Option.bind_eq_some_iff.mp quotes
  obtain ⟨y, hy, hxy⟩ := Option.map_eq_some_iff.mp hy
  cases hxy
  refine (no_self_arbitrage_iff (by decide) (by decide) (by decide) rfl
    (Outcome.toOption_eq_some.mp hx) (Outcome.toOption_eq_some.mp hy) (by norm_num)
    (by norm_num)).mpr ⟨.inl ?_, ?_, ?_⟩
  · rintro ⟨-, habove⟩
    norm_num at habove
  · decide +kernel
  · decide +kernel

/-- **With the dollars first, both quotes are inverted**: the pool seems to buy ether at 2006
    and to sell it at 666. -/
theorem sample_stable_first_trades_with_itself :
    ∃ prices, Fetches (SignalGenerator.new default default) (sampleBook 1999 2001) "WETH/USDC" 1
        (PairMetadata.ofPool (.v2 sampleStableFirst)) prices ∧
      ((2006 : ℚ) : XRat) ≤ prices.dexSell ∧ prices.dexBuy ≤ ((666 : ℚ) : XRat) ∧
      ¬ NoSelfArbitrage (SignalGenerator.new default default) (sampleBook 1999 2001)
        "WETH/USDC" 1 sampleStableFirst := by
  have quoted : ((PairMetadata.ofPool (.v2 sampleStableFirst)).prices 1
      { bid := 1999, ask := 2001 }).toOption.bind id =
      some { cexBid := 1999, cexAsk := 2001, dexBuy := .fin (1331997327989 / 2000000000),
             dexSell := .fin (1000000000000000000 / 498499751497873) } := by
    decide +kernel
  obtain ⟨prices, hprices, rfl⟩ := Option.bind_eq_some_iff.mp quoted
  have hprices := Outcome.toOption_eq_some.mp hprices
  refine ⟨_, (fetches_iff rfl).mpr hprices, ?_, ?_, ?_⟩
  · rw [XRat.fin_le]
    norm_num
  · rw [XRat.fin_le]
    norm_num
  · rintro ⟨prices', -, hfirst, -, hle, -⟩
    rw [fetches_iff rfl, hprices] at hfirst
    cases hfirst
    rw [XRat.fin_le] at hle
    norm_num at hle

end ArbEngine
