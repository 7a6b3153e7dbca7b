import Mathlib.Data.List.Sort
import ArbEngine.Inventory.Tracker
import ArbEngine.Lib.Binary64
import ArbEngine.Lib.XRat
import ArbEngine.Strategy.Signal

/-!
# The scorer and the fees (`strategy/src/scorer.rs`, `strategy/src/fees.rs`)

A score weighs the spread, the balance of the base asset between the venues and the recent
results of the pair. `InventoryTracker::skew` is here because the scorer is what asks for it.
-/

namespace ArbEngine

/-! ## Skew of an asset between the venues -/

/-- How a report of a skew reads its numbers: what the share of an amount in a total is read
    as, and what a difference of shares and the constant 0.30 are rounded to. -/
structure ShareReading where
  share : ℚ → ℚ → ℚ
  fl : ℚ → ℚ

/-- Everything as it is. -/
def ShareReading.exact : ShareReading where
  share := fun amount total => amount / total
  fl := id

/-- The reading of the code: `read` stands for `(amount / total).to_f64()`, which another crate
    computes, and the rest is done with doubles. -/
def ShareReading.binary64 (read : ℚ → ℚ → F64) : ShareReading where
  share := fun amount total => read amount total
  fl := Binary64.nearest

namespace InventoryTracker

/-- What a venue holds of an asset, locked amounts included. -/
def total (t : InventoryTracker) (venue : Venue) (asset : String) : ℚ :=
  ((t.balances venue asset).map fun b => b.free + b.locked).getD 0

/-- `skew(asset)["max_deviation_pct"]`: the larger distance of a venue's share from a half. -/
def maxDeviationBy (s : ShareReading) (t : InventoryTracker) (asset : String) : ℚ :=
  let total := t.total .cex asset + t.total .wallet asset
  let pct (venue : Venue) : ℚ := if total = 0 then 0 else s.share (t.total venue asset) total
  max |s.fl (pct .cex - 1 / 2)| |s.fl (pct .wallet - 1 / 2)|

/-- `skew(asset)["needs_rebalance"]` -/
def needsRebalanceBy (s : ShareReading) (t : InventoryTracker) (asset : String) : Bool :=
  s.fl (3 / 10) < t.maxDeviationBy s asset

/-- The test of the exact shares. -/
def needsRebalance (t : InventoryTracker) (asset : String) : Bool :=
  t.needsRebalanceBy .exact asset

end InventoryTracker

/-! ## The scorer -/

structure ScorerConfig where
  spreadWeight : ℚ
  liquidityWeight : ℚ
  inventoryWeight : ℚ
  historyWeight : ℚ
  excellentSpreadBps : ℚ
  minSpreadBps : ℚ
deriving DecidableEq, Repr

instance : Inhabited ScorerConfig :=
  ⟨{ spreadWeight := 4 / 10
     liquidityWeight := 2 / 10
     inventoryWeight := 2 / 10
     historyWeight := 2 / 10
     excellentSpreadBps := 100
     minSpreadBps := 30 }⟩

/-- The results are kept oldest first. -/
structure SignalScorer where
  config : ScorerConfig
  recentResults : List (String × Bool)
deriving DecidableEq, Repr

namespace SignalScorer

def new (config : Option ScorerConfig) : SignalScorer where
  config := config.getD default
  recentResults := []

def scoreSpread (s : SignalScorer) (spreadBps : ℚ) : ℚ :=
  if spreadBps ≤ s.config.minSpreadBps then 0
  else if s.config.excellentSpreadBps ≤ spreadBps then 100
  else
    let range := s.config.excellentSpreadBps - s.config.minSpreadBps
    (spreadBps - s.config.minSpreadBps) / range * 100

def scoreInventory (signal : Signal) (inventory : InventoryTracker) : ℚ :=
  let base := (splitPair signal.pair).headD ""
  if base = "" then 50
  else if inventory.needsRebalance base then 20 else 80

/-- The first twenty results of the pair in the queue decide. -/
def scoreHistory (s : SignalScorer) (pair : String) : ℚ :=
  let pairResults := ((s.recentResults.filter fun r => r.1 = pair).take 20).map Prod.snd
  if pairResults.length < 3 then 50
  else pairResults.count true / pairResults.length * 100

def score (s : SignalScorer) (signal : Signal) (inventory : InventoryTracker) : ℚ :=
  let liquidityScore : ℚ := 80
  let weighted :=
    s.scoreSpread signal.spreadBps * s.config.spreadWeight +
      liquidityScore * s.config.liquidityWeight +
      scoreInventory signal inventory * s.config.inventoryWeight +
      s.scoreHistory signal.pair * s.config.historyWeight
  roundHalfAway (max 0 (min weighted 100) * 10) / 10

def recordResult (s : SignalScorer) (pair : String) (success : Bool) : SignalScorer :=
  let kept := if 100 ≤ s.recentResults.length then s.recentResults.tail else s.recentResults
  { s with recentResults := kept ++ [(pair, success)] }

/-- The signals with their scores, the highest score first; equal scores keep their order. -/
def ranked (s : SignalScorer) (inventory : InventoryTracker) (candidates : List Signal) :
    List Signal :=
  (candidates.map fun signal => { signal with score := s.score signal inventory }).insertionSort
    fun a b => b.score ≤ a.score

end SignalScorer

/-! ## Fees -/

structure FeeStructure where
  cexTakerBps : ℚ
  dexSwapBps : ℚ
  gasCostUsd : ℚ
deriving DecidableEq, Repr

instance : Inhabited FeeStructure :=
  ⟨{ cexTakerBps := 10, dexSwapBps := 1, gasCostUsd := 2 / 100 }⟩

namespace FeeStructure

/-- The gas, as a fee on the trade, makes the fee of an empty trade infinite. -/
def totalFeeBps (f : FeeStructure) (tradeValueUsd : ℚ) : XRat :=
  if tradeValueUsd ≤ 0 then .inf false
  else
    let gasBps := f.gasCostUsd / tradeValueUsd * 10000
    .fin (f.cexTakerBps + f.dexSwapBps + gasBps)

/-- The fees of a trade, as the generator and `net_profit_usd` compute them. -/
def totalFees (f : FeeStructure) (tradeValueUsd : ℚ) : XRat :=
  f.totalFeeBps tradeValueUsd / (10000 : ℚ) * tradeValueUsd

def netProfitUsd (f : FeeStructure) (spreadBps tradeValueUsd : ℚ) : XRat :=
  let grossPnl := spreadBps / 10000 * tradeValueUsd
  (grossPnl : XRat) - f.totalFees tradeValueUsd

end FeeStructure

end ArbEngine
