import ArbEngine.Inventory.Predictive
import ArbEngine.Strategy.Scorer

/-!
# The rebalancing planner (`inventory/src/rebalancer.rs`)

The tracker tells how an asset is spread over the two venues, and the planner moves what one of
them has too much of. Totals count what is locked; only what is free can be moved.

The report of the skew is passed on as JSON, whose numbers are read as they were written. The
assets of the tracker are collected in a set and listed in an order of its own.

Shares are doubles in the code. What a report says of them depends on the reading
(`ShareReading`); the definitions without one read them exactly, as the scorer's do.
-/

namespace ArbEngine

structure VenueShare where
  amount : ℚ
  pct : ℚ
  deviationPct : ℚ

structure SkewReport where
  asset : String
  total : ℚ
  venues : Venue → VenueShare
  maxDeviationPct : ℚ
  needsRebalance : Bool

/-- What `skew` reports. -/
def InventoryTracker.skewBy (s : ShareReading) (t : InventoryTracker) (asset : String) :
    SkewReport :=
  let total := t.total .cex asset + t.total .wallet asset
  let pct (venue : Venue) : ℚ := if total = 0 then 0 else s.share (t.total venue asset) total
  { asset
    total
    venues := fun venue =>
      { amount := t.total venue asset
        pct := pct venue
        deviationPct := |s.fl (pct venue - 1 / 2)| }
    maxDeviationPct := t.maxDeviationBy s asset
    needsRebalance := t.needsRebalanceBy s asset }

/-- The report with the shares read exactly. -/
def InventoryTracker.skew (t : InventoryTracker) (asset : String) : SkewReport :=
  t.skewBy .exact asset

/-- `MIN_OPERATING_BALANCE`, and nothing for an asset that is not in it. -/
def minOperatingBalance (asset : String) : ℚ :=
  if asset = "ETH" then 1 / 2
  else if asset = "USDT" ∨ asset = "USDC" then 500
  else 0

structure RebalancePlanner where
  tracker : InventoryTracker
  thresholdPct : ℚ

namespace RebalancePlanner

/-- The assets in the order of the set. -/
def checkAllBy (s : ShareReading) (p : RebalancePlanner) (assets : List String) :
    List SkewReport :=
  assets.map (p.tracker.skewBy s)

def checkAll (p : RebalancePlanner) (assets : List String) : List SkewReport :=
  p.checkAllBy .exact assets

/-- `plan` goes on with the asset. -/
def considersBy (s : ShareReading) (p : RebalancePlanner) (asset : String) : Bool :=
  (p.tracker.skewBy s asset).needsRebalance

/-- Where the asset is moved from and to, and how much of it would even out the venues. -/
def direction (p : RebalancePlanner) (asset : String) : Option (Venue × Venue × ℚ) :=
  let targetAmount := (p.tracker.skew asset).total / 2
  let binanceAmount := p.tracker.getAvailable .cex asset
  let walletAmount := p.tracker.getAvailable .wallet asset
  if targetAmount < binanceAmount then some (.cex, .wallet, binanceAmount - targetAmount)
  else if targetAmount < walletAmount then some (.wallet, .cex, walletAmount - targetAmount)
  else none

/-- How much of that is moved, if it is worth a withdrawal. -/
def amount (p : RebalancePlanner) (asset : String) (config : TransferConfig) (fromVenue : Venue)
    (amountToMove : ℚ) : Option ℚ :=
  let minOp := minOperatingBalance asset
  let currentFromBal := p.tracker.getAvailable fromVenue asset
  if amountToMove < config.minWithdrawal then none
  else if currentFromBal - amountToMove < minOp then
    let adjustedMove := currentFromBal - minOp
    if adjustedMove < config.minWithdrawal then none else some adjustedMove
  else some amountToMove

/-- The transfer for an asset that `plan` goes on with, if there is one. -/
def transfers (p : RebalancePlanner) (asset : String) : List TransferPlan :=
  match p.direction asset, transferFees asset with
  | some (fromVenue, toVenue, amountToMove), some config =>
      match p.amount asset config fromVenue amountToMove with
      | some moved =>
          [{ fromVenue
             toVenue
             asset
             amount := moved
             estimatedFee := config.withdrawalFee
             estimatedTimeMin := config.estimatedTimeMin }]
      | none => []
  | _, _ => []

def planBy (s : ShareReading) (p : RebalancePlanner) (asset : String) : List TransferPlan :=
  if !p.considersBy s asset then [] else p.transfers asset

def plan (p : RebalancePlanner) (asset : String) : List TransferPlan := p.planBy .exact asset

/-- The plans of the assets that have one, by asset. -/
def planAll (p : RebalancePlanner) (assets : List String) : List (String × List TransferPlan) :=
  (p.checkAll assets).filterMap fun skew =>
    let plans := p.plan skew.asset
    if plans = [] then none else some (skew.asset, plans)

end RebalancePlanner

/-! ## What plans cost -/

structure CostEstimate where
  totalTransfers : ℕ
  totalFees : String → Option ℚ
  totalTimeMin : ℤ
  assetsAffected : List String

namespace CostEstimate

def start : CostEstimate where
  totalTransfers := 0
  totalFees := fun _ => none
  totalTimeMin := 0
  assetsAffected := []

/-- The body of the loop over the plans. -/
def add (e : CostEstimate) (plan : TransferPlan) : CostEstimate where
  totalTransfers := e.totalTransfers + 1
  totalFees := fun a =>
    if a = plan.asset then some ((e.totalFees plan.asset).getD 0 + plan.estimatedFee)
    else e.totalFees a
  totalTimeMin := max e.totalTimeMin plan.estimatedTimeMin
  assetsAffected :=
    if plan.asset ∈ e.assetsAffected then e.assetsAffected else e.assetsAffected ++ [plan.asset]

end CostEstimate

def estimateCost (plans : List TransferPlan) : CostEstimate :=
  plans.foldl CostEstimate.add CostEstimate.start

end ArbEngine
