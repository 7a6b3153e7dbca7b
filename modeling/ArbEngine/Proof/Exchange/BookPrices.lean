import ArbEngine.Proof.Exchange.BookWalk

/-!
# Larger orders never get better prices

The levels of a side get worse and worse, so the average price of a walk moves away from the best
one as the quantity grows (`Greedy.average_mono`). The figures told in basis points are rounded,
half to even, and rounding keeps an order (`roundDp_mono`).

The source names the sides in any case, so the walk first lowers the name it is given. Of the table
of letters only what it does in ASCII matters here.
-/

namespace ArbEngine

/-! ## Rounding -/

/-- Rounding to a number of places keeps an order. The rounding is half to even, and two numbers in
    one order are never rounded past each other. -/
theorem roundDp_mono {x y : ℚ} (h : x ≤ y) (dp : ℕ) : roundDp x dp ≤ roundDp y dp := by
  have scale : (0 : ℚ) < 10 ^ dp := by positivity
  unfold roundDp
  rw [div_le_div_iff_of_pos_right scale, Int.cast_le]
  exact roundHalfEven_mono (mul_le_mul_of_nonneg_right h scale.le)

/-! ## The sides -/

/-- In ASCII every table lowers alike. -/
theorem LowerTable.toLowercase_ascii (table : LowerTable) {s : String}
    (h : ∀ c ∈ s.toList, c.toNat < 128) :
    table.toLowercase s = String.ofList (s.toList.map Char.toLower) := by
  unfold LowerTable.toLowercase
  rw [List.map_eq_flatMap]
  exact congrArg _ (List.flatMap_congr fun c hc => table.ascii c (h c hc))

namespace OrderBookAnalyzer

open Greedy

variable {a : OrderBookAnalyzer} {levels : List Level} {qty qty' : ℚ}

theorem lowercase_buy (a : OrderBookAnalyzer) : a.lowerTable.toLowercase "buy" = "buy" := by
  rw [a.lowerTable.toLowercase_ascii (by simp)]
  decide

theorem lowercase_sell (a : OrderBookAnalyzer) : a.lowerTable.toLowercase "sell" = "sell" := by
  rw [a.lowerTable.toLowercase_ascii (by simp)]
  decide

/-- A buyer walks the asks. -/
theorem walkSide_buy (a : OrderBookAnalyzer) : a.walkSide "buy" = a.orderbook.asks :=
  if_pos a.lowercase_buy

/-- And a seller the bids. -/
theorem walkSide_sell (a : OrderBookAnalyzer) : a.walkSide "sell" = a.orderbook.bids := by
  unfold walkSide
  rw [a.lowercase_sell]
  exact if_neg (by decide)

/-! ## Averages -/

/-- A side with something to trade, at positive prices. -/
structure Tradable (levels : List Level) : Prop where
  nonempty : levels ≠ []
  price : ∀ l ∈ levels, 0 < l.1
  quantity : ∀ l ∈ levels, 0 < l.2

namespace Tradable

theorem offered (h : Tradable levels) : Offered levels := fun l hl => (h.quantity l hl).le

/-- An order of any size gets something: the first level has a quantity. -/
theorem taken_pos (h : Tradable levels) (hq : 0 < qty) : 0 < (greedy levels qty).sum := by
  rw [sum_greedy h.offered hq.le]
  refine lt_min hq ?_
  cases levels with
  | nil => exact absurd rfl h.nonempty
  | cons level levels =>
    rw [depth_cons]
    exact add_pos_of_pos_of_nonneg (h.quantity level List.mem_cons_self)
      (depth_nonneg (offered_cons.mp h.offered).2)

/-- So the average is a quotient, and the branch for an order that got nothing is not taken. -/
theorem average_eq (h : Tradable levels) (hq : 0 < qty) :
    average levels qty = cost levels (greedy levels qty) / (greedy levels qty).sum :=
  if_neg (h.taken_pos hq).ne'

/-- All prices are positive, and so is their average. -/
theorem average_pos (h : Tradable levels) (hq : 0 < qty) : 0 < average levels qty := by
  rw [h.average_eq hq]
  exact div_pos (cost_pos h.price (alloc_greedy h.offered hq.le) (h.taken_pos hq)) (h.taken_pos hq)

theorem bestPrice_pos (h : Tradable levels) : 0 < bestPrice levels := by
  cases levels with
  | nil => exact absurd rfl h.nonempty
  | cons level levels => exact h.price level List.mem_cons_self

/-- The slippage is the distance of the average from the best price, in basis points of the best
    price. -/
theorem slippage_eq (h : Tradable levels) (hq : 0 < qty) :
    slippage (bestPrice levels) (average levels qty) =
      |average levels qty - bestPrice levels| / bestPrice levels * 10000 :=
  if_neg (not_or.mpr ⟨h.bestPrice_pos.ne', (h.average_pos hq).ne'⟩)

end Tradable

/-- What a walk on a side of these levels says of its prices. -/
theorem walk_prices {side : String} (h : Tradable levels) (hside : a.walkSide side = levels)
    (hq : 0 < qty) :
    (a.walkTheBook side qty).avgPrice = average levels qty ∧
      (a.walkTheBook side qty).slippageBps =
        roundDp (slippage (bestPrice levels) (average levels qty)) 2 := by
  subst hside
  rw [walkTheBook_eq h.offered hq.le]
  dsimp only
  exact ⟨rfl, rfl⟩

/-! ## One side -/

/-- On a side that gets dearer the first price is the lowest, -/
theorem bestPrice_le (sorted : levels.Pairwise fun l l' => l.1 ≤ l'.1) :
    ∀ l ∈ levels, bestPrice levels ≤ l.1 := by
  cases levels with
  | nil => simp
  | cons level levels =>
    exact List.forall_mem_cons.mpr ⟨le_rfl, (List.pairwise_cons.mp sorted).1⟩

/-- and on one that gets cheaper it is the highest. -/
theorem le_bestPrice (sorted : levels.Pairwise fun l l' => l'.1 ≤ l.1) :
    ∀ l ∈ levels, l.1 ≤ bestPrice levels := by
  cases levels with
  | nil => simp
  | cons level levels =>
    exact List.forall_mem_cons.mpr ⟨le_rfl, (List.pairwise_cons.mp sorted).1⟩

section Buy

variable (h : Tradable levels) (sorted : levels.Pairwise fun l l' => l.1 ≤ l'.1)
include h sorted

/-- A buyer pays the best price or more. -/
theorem bestPrice_le_average (hq : 0 < qty) : bestPrice levels ≤ average levels qty := by
  rw [h.average_eq hq, le_div_iff₀ (h.taken_pos hq)]
  exact mul_sum_le_cost (bestPrice_le sorted) (alloc_greedy h.offered hq.le)

/-- A larger buy has an average that is no lower. This is the library's law about filling from the
    front of a sorted list. -/
theorem average_mono_buy (hq : 0 < qty) (hle : qty ≤ qty') :
    average levels qty ≤ average levels qty' := by
  rw [h.average_eq hq, h.average_eq (hq.trans_le hle)]
  exact average_mono sorted h.offered hq.le hle (h.taken_pos hq)

/-- Nor is its slippage. Both averages are above the best price, so the absolute value is the
    difference and the order of the averages is kept. -/
theorem slippage_mono_buy (hq : 0 < qty) (hle : qty ≤ qty') :
    slippage (bestPrice levels) (average levels qty) ≤
      slippage (bestPrice levels) (average levels qty') := by
  have more := average_mono_buy h sorted hq hle
  have best := bestPrice_le_average h sorted hq
  have best' := bestPrice_le_average h sorted (hq.trans_le hle)
  rw [h.slippage_eq hq, h.slippage_eq (hq.trans_le hle), abs_of_nonneg (sub_nonneg.mpr best),
    abs_of_nonneg (sub_nonneg.mpr best')]
  have pos := h.bestPrice_pos
  gcongr

end Buy

section Sell

variable (h : Tradable levels) (sorted : levels.Pairwise fun l l' => l'.1 ≤ l.1)
include h sorted

/-- A seller is paid the best price or less. -/
theorem average_le_bestPrice (hq : 0 < qty) : average levels qty ≤ bestPrice levels := by
  rw [h.average_eq hq, div_le_iff₀ (h.taken_pos hq)]
  exact cost_le_mul_sum (le_bestPrice sorted) (alloc_greedy h.offered hq.le)

/-- A larger sale has an average that is no higher. -/
theorem average_anti_sell (hq : 0 < qty) (hle : qty ≤ qty') :
    average levels qty' ≤ average levels qty := by
  rw [h.average_eq hq, h.average_eq (hq.trans_le hle)]
  exact average_anti sorted h.offered hq.le hle (h.taken_pos hq)

/-- And its slippage is no lower, for the averages are now below the best price. -/
theorem slippage_mono_sell (hq : 0 < qty) (hle : qty ≤ qty') :
    slippage (bestPrice levels) (average levels qty) ≤
      slippage (bestPrice levels) (average levels qty') := by
  have less := average_anti_sell h sorted hq hle
  have best := average_le_bestPrice h sorted hq
  have best' := average_le_bestPrice h sorted (hq.trans_le hle)
  rw [h.slippage_eq hq, h.slippage_eq (hq.trans_le hle), abs_sub_comm, abs_sub_comm (average _ _),
    abs_of_nonneg (sub_nonneg.mpr best), abs_of_nonneg (sub_nonneg.mpr best')]
  have pos := h.bestPrice_pos
  gcongr

end Sell

/-! ## Both sides -/

/-- A book of two sides, each sorted best first. Nothing below needs them not to cross. -/
structure TwoSided (bids asks : List Level) : Prop where
  tradableBids : Tradable bids
  tradableAsks : Tradable asks
  bidsSorted : bids.Pairwise fun l l' => l'.1 ≤ l.1
  asksSorted : asks.Pairwise fun l l' => l.1 ≤ l'.1

/-- The analyzer of a book as `construct_order_book` makes it. -/
def ofLevels (table : LowerTable) (symbol : String) (timestamp : ℕ) (bids asks : List Level) :
    OrderBookAnalyzer where
  orderbook := constructOrderBook symbol timestamp bids asks
  lowerTable := table

theorem ofLevels_buy (table : LowerTable) (symbol : String) (timestamp : ℕ)
    (bids asks : List Level) : (ofLevels table symbol timestamp bids asks).walkSide "buy" = asks :=
  walkSide_buy _

theorem ofLevels_sell (table : LowerTable) (symbol : String) (timestamp : ℕ)
    (bids asks : List Level) : (ofLevels table symbol timestamp bids asks).walkSide "sell" = bids :=
  walkSide_sell _

/-- The source falls back to a price of one where a side is empty; here it is not. -/
theorem head_price (h : levels ≠ []) : (levels.head?.getD (1, 1)).1 = bestPrice levels := by
  cases levels with
  | nil => exact absurd rfl h
  | cons level levels => rfl

section Book

variable (table : LowerTable) (symbol : String) (timestamp : ℕ) {bids asks : List Level}
  (book : TwoSided bids asks)
include book

theorem midPrice_pos : 0 < (bestPrice bids + bestPrice asks) / 2 := by
  have bid := book.tradableBids.bestPrice_pos
  have ask := book.tradableAsks.bestPrice_pos
  exact half_pos (add_pos bid ask)

/-- The middle of the best prices, as the book has it. -/
theorem midPrice_eq :
    (constructOrderBook symbol timestamp bids asks).midPrice =
      (bestPrice bids + bestPrice asks) / 2 := by
  show ((bids.head?.getD (1, 1)).1 + (asks.head?.getD (1, 1)).1) / 2 = _
  rw [head_price book.tradableBids.nonempty, head_price book.tradableAsks.nonempty]

/-- The spread as it is quoted, in basis points of the middle price. -/
theorem spreadBps_eq :
    (constructOrderBook symbol timestamp bids asks).spreadBps =
      (bestPrice asks - bestPrice bids) / ((bestPrice bids + bestPrice asks) / 2) * 10000 := by
  unfold constructOrderBook
  simp only [head_price book.tradableBids.nonempty, head_price book.tradableAsks.nonempty]
  rw [if_neg (midPrice_pos book).ne']
  ring

/-- The spread of an order of this size: the distance of the two averages, in basis points of the
    same middle price, to two places. None of the guards of the source against a division by zero
    applies. -/
theorem effectiveSpread_eq (hq : 0 < qty) :
    (ofLevels table symbol timestamp bids asks).effectiveSpread qty =
      roundDp ((average asks qty - average bids qty) /
        ((bestPrice bids + bestPrice asks) / 2) * 10000) 2 := by
  have mid : (ofLevels table symbol timestamp bids asks).orderbook.midPrice =
      (bestPrice bids + bestPrice asks) / 2 := midPrice_eq symbol timestamp book
  have buys := ofLevels_buy table symbol timestamp bids asks
  have sells := ofLevels_sell table symbol timestamp bids asks
  unfold effectiveSpread
  simp only [(walk_prices book.tradableAsks buys hq).1, (walk_prices book.tradableBids sells hq).1,
    mid]
  refine if_neg ?_
  -- each of the guards asks for a price that is zero
  rintro (buy | sell | none)
  · exact (book.tradableAsks.average_pos hq).ne' buy
  · exact (book.tradableBids.average_pos hq).ne' sell
  · exact (midPrice_pos book).ne' none

end Book

/-- At one middle price the spread, as it is told, keeps the order of the differences. -/
theorem spread_mono {mid d d' : ℚ} (hmid : 0 < mid) (h : d ≤ d') :
    roundDp (d / mid * 10000) 2 ≤ roundDp (d' / mid * 10000) 2 := by
  refine roundDp_mono ?_ 2
  gcongr

/-- A larger order gets no better prices, and no order a better spread than is quoted. -/
structure NoBetter (a : OrderBookAnalyzer) (q q' : ℚ) : Prop where
  buyPrice : (a.walkTheBook "buy" q).avgPrice ≤ (a.walkTheBook "buy" q').avgPrice
  sellPrice : (a.walkTheBook "sell" q').avgPrice ≤ (a.walkTheBook "sell" q).avgPrice
  buySlippage : (a.walkTheBook "buy" q).slippageBps ≤ (a.walkTheBook "buy" q').slippageBps
  sellSlippage : (a.walkTheBook "sell" q).slippageBps ≤ (a.walkTheBook "sell" q').slippageBps
  spread : a.effectiveSpread q ≤ a.effectiveSpread q'
  quoted : roundDp a.orderbook.spreadBps 2 ≤ a.effectiveSpread q

/-- **Larger orders never get better prices.** The averages come from the walk, slippage and spread
    from the averages; rounding to two places keeps the order. The quoted spread is that of an
    order of no size, so it is the least of all. -/
theorem larger_no_better (table : LowerTable) (symbol : String) (timestamp : ℕ)
    {bids asks : List Level} (book : TwoSided bids asks) {q q' : ℚ} (hq : 0 < q) (hle : q ≤ q') :
    NoBetter (ofLevels table symbol timestamp bids asks) q q' := by
  have hq' : 0 < q' := hq.trans_le hle
  have buys := ofLevels_buy table symbol timestamp bids asks
  have sells := ofLevels_sell table symbol timestamp bids asks
  obtain ⟨buy, buySlippage⟩ := walk_prices book.tradableAsks buys hq
  obtain ⟨buy', buySlippage'⟩ := walk_prices book.tradableAsks buys hq'
  obtain ⟨sell, sellSlippage⟩ := walk_prices book.tradableBids sells hq
  obtain ⟨sell', sellSlippage'⟩ := walk_prices book.tradableBids sells hq'
  have mid := midPrice_pos book
  -- the two averages move apart
  have dearer := average_mono_buy book.tradableAsks book.asksSorted hq hle
  have cheaper := average_anti_sell book.tradableBids book.bidsSorted hq hle
  refine ⟨?buyPrice, ?sellPrice, ?buySlippage, ?sellSlippage, ?spread, ?quoted⟩
  case buyPrice =>
    rw [buy, buy']
    exact dearer
  case sellPrice =>
    rw [sell, sell']
    exact cheaper
  case buySlippage =>
    rw [buySlippage, buySlippage']
    exact roundDp_mono (slippage_mono_buy book.tradableAsks book.asksSorted hq hle) 2
  case sellSlippage =>
    rw [sellSlippage, sellSlippage']
    exact roundDp_mono (slippage_mono_sell book.tradableBids book.bidsSorted hq hle) 2
  case spread =>
    rw [effectiveSpread_eq table symbol timestamp book hq,
      effectiveSpread_eq table symbol timestamp book hq']
    exact spread_mono mid (sub_le_sub dearer cheaper)
  case quoted =>
    have ask := bestPrice_le_average book.tradableAsks book.asksSorted hq
    have bid := average_le_bestPrice book.tradableBids book.bidsSorted hq
    rw [effectiveSpread_eq table symbol timestamp book hq]
    show roundDp (constructOrderBook symbol timestamp bids asks).spreadBps 2 ≤ _
    rw [spreadBps_eq symbol timestamp book]
    exact spread_mono mid (sub_le_sub ask bid)

/-- Fifteen units and forty, of a book with thirty a side. The second order takes all there is. -/
theorem sampleAnalyzer_noBetter : NoBetter sampleAnalyzer 15 40 := by
  have book : TwoSided [(2000, 10), (1995, 20)] [(2010, 10), (2020, 20)] := by
    refine ⟨⟨by simp, ?_, ?_⟩, ⟨by simp, ?_, ?_⟩, ?_, ?_⟩
    all_goals norm_num
  exact larger_no_better asciiTable "ETH/USDT" 0 book (by norm_num) (by norm_num)

end OrderBookAnalyzer
end ArbEngine
