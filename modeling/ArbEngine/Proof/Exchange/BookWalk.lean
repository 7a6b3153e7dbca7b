import ArbEngine.Exchange.OrderBook
import ArbEngine.Lib.Greedy

/-!
# Walking the book is the optimal fill

The loop of `walk_the_book` takes what `Greedy.greedy` takes (`walkLevels_eq`), and stops writing
fills down where nothing remains. So what it costs is the least that the quantity can be bought
for, and what it pays the most that it can be sold for, level by level as they are.
-/

namespace ArbEngine
namespace OrderBookAnalyzer

open Greedy

/-! ## The loop -/

/-- The fills the loop writes down. -/
def fillsOf : List Level → ℚ → List Fill
  | [], _ => []
  | (price, levelQty) :: levels, qty =>
      if qty ≤ 0 then []
      else
        { price, qty := min qty levelQty, cost := min qty levelQty * price } ::
          fillsOf levels (qty - min qty levelQty)

variable {levels : List Level} {qty : ℚ}

/-- **The loop takes what the greedy allocation takes.** -/
theorem walkLevels_eq (offered : Offered levels) (s : WalkState) (h : 0 ≤ s.remainingQty) :
    walkLevels levels s =
      { remainingQty := s.remainingQty - (greedy levels s.remainingQty).sum
        totalCost := s.totalCost + cost levels (greedy levels s.remainingQty)
        actualQtyFilled := s.actualQtyFilled + (greedy levels s.remainingQty).sum
        levelsConsumed := s.levelsConsumed + (fillsOf levels s.remainingQty).length
        fills := s.fills ++ fillsOf levels s.remainingQty } := by
  induction levels generalizing s with
  | nil => simp [walkLevels, greedy, fillsOf]
  | cons level levels ih =>
    obtain ⟨price, levelQty⟩ := level
    unfold walkLevels
    split
    · rename_i finished
      have zero : s.remainingQty = 0 := le_antisymm finished h
      have nothing : (greedy ((price, levelQty) :: levels) 0).sum = 0 := by
        rw [sum_greedy offered le_rfl, min_eq_left (depth_nonneg offered)]
      obtain ⟨remainingQty, totalCost, actualQtyFilled, levelsConsumed, fills⟩ := s
      obtain rfl : remainingQty = 0 := zero
      simp [nothing, cost_greedy_zero offered, fillsOf]
    · rename_i left
      obtain ⟨hcap, hrest⟩ := offered_cons.mp offered
      rw [ih hrest _ (sub_nonneg.mpr (min_le_left _ _))]
      simp only [greedy, fillsOf, if_neg left, List.sum_cons, cost_cons, List.length_cons,
        List.append_assoc, List.singleton_append, WalkState.mk.injEq, and_true]
      refine ⟨by ring, by ring, by ring, by ring⟩

/-! ## The fills -/

/-- The fills take whole levels in order, but for the last one. -/
inductive TakesInOrder : List Level → List Fill → Prop
  | nil (levels : List Level) : TakesInOrder levels []
  | last (price levelQty qty : ℚ) (levels : List Level) (h : 0 ≤ qty) (le : qty ≤ levelQty) :
      TakesInOrder ((price, levelQty) :: levels) [{ price, qty, cost := qty * price }]
  | whole (price levelQty : ℚ) {levels : List Level} {fills : List Fill}
      (rest : TakesInOrder levels fills) :
      TakesInOrder ((price, levelQty) :: levels)
        ({ price, qty := levelQty, cost := levelQty * price } :: fills)

theorem fillsOf_zero : fillsOf levels 0 = [] := by
  cases levels with
  | nil => rfl
  | cons level levels => exact if_pos le_rfl

theorem takesInOrder_fillsOf (offered : Offered levels) (h : 0 ≤ qty) :
    TakesInOrder levels (fillsOf levels qty) := by
  induction levels generalizing qty with
  | nil => exact .nil []
  | cons level levels ih =>
    obtain ⟨price, levelQty⟩ := level
    obtain ⟨hcap, hrest⟩ := offered_cons.mp offered
    unfold fillsOf
    split
    · exact .nil _
    · rcases le_total qty levelQty with hle | hle
      · rw [min_eq_left hle, sub_self, fillsOf_zero]
        exact .last price levelQty qty levels h hle
      · rw [min_eq_right hle]
        exact .whole price levelQty (ih hrest (sub_nonneg.mpr hle))

/-- What the fills add up to is what is taken. -/
theorem sum_fillsOf (offered : Offered levels) (h : 0 ≤ qty) :
    ((fillsOf levels qty).map Fill.qty).sum = (greedy levels qty).sum ∧
      ((fillsOf levels qty).map Fill.cost).sum = cost levels (greedy levels qty) := by
  induction levels generalizing qty with
  | nil => simp [fillsOf, greedy]
  | cons level levels ih =>
    obtain ⟨price, levelQty⟩ := level
    rcases h.eq_or_lt with rfl | hpos
    · rw [fillsOf_zero, cost_greedy_zero offered, sum_greedy offered le_rfl,
        min_eq_left (depth_nonneg offered)]
      simp
    · obtain ⟨hcap, hrest⟩ := offered_cons.mp offered
      obtain ⟨hqty, hcost⟩ := ih hrest (sub_nonneg.mpr (min_le_left qty levelQty))
      unfold fillsOf
      rw [if_neg (not_le.mpr hpos), List.map_cons, List.sum_cons, List.map_cons, List.sum_cons,
        hqty, hcost, greedy, List.sum_cons, cost_cons, mul_comm price]
      exact ⟨rfl, rfl⟩

/-! ## The result -/

/-- What the quantity, or all there is, can be taken for. -/
def payable (levels : List Level) (qty : ℚ) : Set ℚ :=
  { c | ∃ xs, Alloc levels xs ∧ xs.sum = min qty (depth levels) ∧ c = cost levels xs }

/-- The fills of a walk: in order, of the right total, and told as they are. -/
structure Filled (levels : List Level) (qty : ℚ) (r : WalkResult) : Prop where
  inOrder : TakesInOrder levels r.fills
  total : (r.fills.map Fill.qty).sum = min qty (depth levels)
  totalCost : r.totalCost = (r.fills.map Fill.cost).sum
  fullyFilled : r.fullyFilled = true ↔ qty ≤ depth levels
  consumed : r.levelsConsumed = r.fills.length

variable {a : OrderBookAnalyzer} {side : String}

/-- The levels are sorted best first: the lowest price for a buyer, the highest for a seller. -/
def BestFirst (a : OrderBookAnalyzer) (side : String) : Prop :=
  if a.lowerTable.toLowercase side = "buy" then
    (a.walkSide side).Pairwise fun l l' => l.1 ≤ l'.1
  else (a.walkSide side).Pairwise fun l l' => l'.1 ≤ l.1

/-- The price of the first level. -/
def bestPrice (levels : List Level) : ℚ := (levels.head?.map Prod.fst).getD 0

/-- The average price of what is taken. -/
def average (levels : List Level) (qty : ℚ) : ℚ :=
  if (greedy levels qty).sum = 0 then 0
  else cost levels (greedy levels qty) / (greedy levels qty).sum

/-- How far an average is from the best price. -/
def slippage (best avg : ℚ) : ℚ :=
  if best = 0 ∨ avg = 0 then 0 else |avg - best| / best * 10000

/-- **What a walk returns.** -/
theorem walkTheBook_eq (offered : Offered (a.walkSide side)) (h : 0 ≤ qty) :
    a.walkTheBook side qty =
      { avgPrice := average (a.walkSide side) qty
        totalCost := cost (a.walkSide side) (greedy (a.walkSide side) qty)
        slippageBps :=
          roundDp (slippage (bestPrice (a.walkSide side)) (average (a.walkSide side) qty)) 2
        levelsConsumed := (fillsOf (a.walkSide side) qty).length
        fullyFilled := qty - (greedy (a.walkSide side) qty).sum ≤ 0
        fills := fillsOf (a.walkSide side) qty } := by
  unfold walkTheBook
  simp only [walkLevels_eq offered
    { remainingQty := qty, totalCost := 0, actualQtyFilled := 0, levelsConsumed := 0, fills := [] }
    h, zero_add, List.nil_append]
  rfl

theorem filled_walkTheBook (offered : Offered (a.walkSide side)) (h : 0 ≤ qty) :
    Filled (a.walkSide side) qty (a.walkTheBook side qty) := by
  obtain ⟨hqty, hcost⟩ := sum_fillsOf offered h
  rw [walkTheBook_eq offered h]
  constructor
  case inOrder =>
    dsimp only
    exact takesInOrder_fillsOf offered h
  case total =>
    dsimp only
    rw [hqty, sum_greedy offered h]
  case totalCost =>
    dsimp only
    exact hcost.symm
  case fullyFilled =>
    simp only [decide_eq_true_eq]
    rw [sum_greedy offered h, sub_nonpos, le_min_iff]
    exact ⟨And.right, fun all => ⟨le_rfl, all⟩⟩
  case consumed => dsimp only

/-- **Walking the book is the optimal fill**: whole levels in order, and the least that a buyer can
    pay for the quantity, or the most that a seller can be paid. -/
theorem walkTheBook_optimal (a : OrderBookAnalyzer) (side : String) (qty : ℚ) (h : 0 < qty)
    (offered : Offered (a.walkSide side)) (sorted : a.BestFirst side) :
    Filled (a.walkSide side) qty (a.walkTheBook side qty) ∧
      (a.lowerTable.toLowercase side = "buy" →
        IsLeast (payable (a.walkSide side) qty) (a.walkTheBook side qty).totalCost) ∧
      (a.lowerTable.toLowercase side ≠ "buy" →
        IsGreatest (payable (a.walkSide side) qty) (a.walkTheBook side qty).totalCost) := by
  have paid : (a.walkTheBook side qty).totalCost =
      cost (a.walkSide side) (greedy (a.walkSide side) qty) := by
    rw [walkTheBook_eq offered h.le]
  have attained : (a.walkTheBook side qty).totalCost ∈ payable (a.walkSide side) qty :=
    ⟨_, alloc_greedy offered h.le, sum_greedy offered h.le, paid⟩
  refine ⟨filled_walkTheBook offered h.le, ?_, ?_⟩
  · intro buy
    rw [BestFirst, if_pos buy] at sorted
    refine ⟨attained, ?_⟩
    rintro c ⟨xs, alloc, total, rfl⟩
    rw [paid]
    exact cost_greedy_le sorted offered h.le alloc (by rw [total, sum_greedy offered h.le])
  · intro sell
    rw [BestFirst, if_neg sell] at sorted
    refine ⟨attained, ?_⟩
    rintro c ⟨xs, alloc, total, rfl⟩
    rw [paid]
    exact le_cost_greedy sorted offered h.le alloc (by rw [total, sum_greedy offered h.le])

/-! ## A book of two levels a side -/

/-- ASCII letters, and everything else as it is. -/
def asciiTable : LowerTable where
  lower c := [c.toLower]
  ascii _ _ := rfl

def sampleAnalyzer : OrderBookAnalyzer where
  orderbook := constructOrderBook "ETH/USDT" 0 [(2000, 10), (1995, 20)] [(2010, 10), (2020, 20)]
  lowerTable := asciiTable

/-- Fifteen units are bought from both levels. -/
theorem sampleAnalyzer_buy :
    IsLeast (payable [(2010, 10), (2020, 20)] 15) 30200 := by
  have buy : sampleAnalyzer.lowerTable.toLowercase "buy" = "buy" := by decide
  have levels : sampleAnalyzer.walkSide "buy" = [(2010, 10), (2020, 20)] := if_pos buy
  have offered : Offered (sampleAnalyzer.walkSide "buy") := by
    rw [levels]
    unfold Offered
    norm_num
  have sorted : sampleAnalyzer.BestFirst "buy" := by
    rw [BestFirst, if_pos buy, levels]
    norm_num
  have least := (walkTheBook_optimal sampleAnalyzer "buy" 15 (by norm_num) offered sorted).2.1 buy
  have paid : (sampleAnalyzer.walkTheBook "buy" 15).totalCost = 30200 := by
    rw [walkTheBook_eq offered (by norm_num), levels]
    norm_num [greedy, cost]
  rw [levels, paid] at least
  exact least

end OrderBookAnalyzer
end ArbEngine
