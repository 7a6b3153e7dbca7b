import Mathlib.Algebra.Order.Floor.Ring
import Mathlib.Data.Rat.Floor
import ArbEngine.Core.Types
import ArbEngine.Lib.Binary64

/-!
# Order books (`exchange/src/client.rs`, `exchange/src/analyzer.rs`)

What the client makes of the two sides of a book, and the analyzer that walks them. A level is a
price and a quantity; `Decimal` is read as exact, and `normalize`, which only drops zeros, leaves
no trace.

The sides are texts, compared in lower case. A `LowerTable` is any table of lower-case characters
that agrees with ASCII; of the one letter whose lower case depends on its place, the capital
sigma, neither form is ASCII.
-/

namespace ArbEngine

/-- `char::to_lowercase` -/
structure LowerTable where
  lower : Char → List Char
  ascii : ∀ c, c.toNat < 128 → lower c = [c.toLower]

/-- `str::to_lowercase` -/
def LowerTable.toLowercase (table : LowerTable) (s : String) : String :=
  String.ofList (s.toList.flatMap table.lower)

/-! ## Rounding -/

/-- `Decimal::round_dp` -/
def roundDp (x : ℚ) (dp : ℕ) : ℚ := roundHalfEven (x * 10 ^ dp) / 10 ^ dp

/-- `Decimal::MAX` -/
def decimalMax : ℚ := 2 ^ 96 - 1

/-! ## Books -/

abbrev Level := ℚ × ℚ

structure OrderBook where
  symbol : String
  timestamp : ℕ
  bids : List Level
  asks : List Level
  bestBid : Level
  bestAsk : Level
  midPrice : ℚ
  spreadBps : ℚ

/-- `construct_order_book`, at a time that the clock gives. -/
def constructOrderBook (symbol : String) (timestamp : ℕ) (bids asks : List Level) : OrderBook :=
  let bestBid := bids.head?.getD (1, 1)
  let bestAsk := asks.head?.getD (1, 1)
  let mid := (bestBid.1 + bestAsk.1) / 2
  let spreadBps := if mid = 0 then 0 else (bestAsk.1 - bestBid.1) * 10000 / mid
  { symbol, timestamp, bids, asks, bestBid, bestAsk, midPrice := mid, spreadBps }

structure Fill where
  price : ℚ
  qty : ℚ
  cost : ℚ
deriving DecidableEq

structure WalkResult where
  avgPrice : ℚ
  totalCost : ℚ
  slippageBps : ℚ
  levelsConsumed : ℕ
  fullyFilled : Bool
  fills : List Fill
deriving DecidableEq

/-- The variables of the loop of `walk_the_book`. -/
structure WalkState where
  remainingQty : ℚ
  totalCost : ℚ
  actualQtyFilled : ℚ
  levelsConsumed : ℕ
  fills : List Fill

structure OrderBookAnalyzer where
  orderbook : OrderBook
  lowerTable : LowerTable

namespace OrderBookAnalyzer

/-- The loop of `walk_the_book`: it breaks off before a level where nothing remains. -/
def walkLevels : List Level → WalkState → WalkState
  | [], s => s
  | (price, levelQty) :: levels, s =>
      if s.remainingQty ≤ 0 then s
      else
        let takeQty := min s.remainingQty levelQty
        let cost := takeQty * price
        walkLevels levels
          { remainingQty := s.remainingQty - takeQty
            totalCost := s.totalCost + cost
            actualQtyFilled := s.actualQtyFilled + takeQty
            levelsConsumed := s.levelsConsumed + 1
            fills := s.fills ++ [{ price, qty := takeQty, cost }] }

/-- The levels `walk_the_book` takes from. -/
def walkSide (a : OrderBookAnalyzer) (side : String) : List Level :=
  if a.lowerTable.toLowercase side = "buy" then a.orderbook.asks else a.orderbook.bids

def walkTheBook (a : OrderBookAnalyzer) (side : String) (qty : ℚ) : WalkResult :=
  let levels := a.walkSide side
  let bestPrice := (levels.head?.map Prod.fst).getD 0
  let s := walkLevels levels
    { remainingQty := qty
      totalCost := 0
      actualQtyFilled := 0
      levelsConsumed := 0
      fills := [] }
  let avgPrice := if s.actualQtyFilled = 0 then 0 else s.totalCost / s.actualQtyFilled
  let slippageBps :=
    if bestPrice = 0 ∨ avgPrice = 0 then 0 else |avgPrice - bestPrice| / bestPrice * 10000
  { avgPrice
    totalCost := s.totalCost
    slippageBps := roundDp slippageBps 2
    levelsConsumed := s.levelsConsumed
    fullyFilled := s.remainingQty ≤ 0
    fills := s.fills }

/-- The distance of a price from the best one. -/
def priceDiffBps (bestPrice price : ℚ) : ℚ :=
  if bestPrice = 0 then decimalMax else |price - bestPrice| / bestPrice * 10000

/-- The loop of `depth_at_bps`: it breaks off at the first level that is too far away. -/
def depthLevels (bestPrice bps : ℚ) : List Level → ℚ × ℚ → ℚ × ℚ
  | [], total => total
  | (price, qty) :: levels, (totalQty, totalCost) =>
      if priceDiffBps bestPrice price ≤ bps then
        depthLevels bestPrice bps levels (totalQty + qty, totalCost + price * qty)
      else (totalQty, totalCost)

/-- The levels `depth_at_bps` looks at. -/
def depthSide (a : OrderBookAnalyzer) (side : String) : List Level :=
  if a.lowerTable.toLowercase side = "ask" then a.orderbook.asks else a.orderbook.bids

def depthAtBps (a : OrderBookAnalyzer) (side : String) (bps : ℚ) : ℚ × ℚ :=
  match a.depthSide side with
  | [] => (0, 0)
  | best :: levels => depthLevels best.1 bps (best :: levels) (0, 0)

def effectiveSpread (a : OrderBookAnalyzer) (qty : ℚ) : ℚ :=
  let buyWalk := a.walkTheBook "buy" qty
  let sellWalk := a.walkTheBook "sell" qty
  if buyWalk.avgPrice = 0 ∨ sellWalk.avgPrice = 0 ∨ a.orderbook.midPrice = 0 then 0
  else roundDp ((buyWalk.avgPrice - sellWalk.avgPrice) / a.orderbook.midPrice * 10000) 2

end OrderBookAnalyzer

end ArbEngine
