import ArbEngine.Inventory.Tracker
import ArbEngine.Pricing.Monitor
import ArbEngine.Pricing.Pool

/-!
# The predictive rebalancer (`inventory/src/predictive_rebalancer.rs`)

A large swap that is still pending is a sign of an opportunity: the rebalancer estimates what it
may be worth, what capital it needs at each venue, and which transfers would bring that capital
there in time. `plan_for_opportunity` is the whole decision; `on_pending_swap` leads up to it.

A `Decimal` has a mantissa of 96 bits, and an operation that leaves it panics. The maps of the
source are functions; the assets of a venue are listed, and in which order the two venues of a
shortfall come is a choice of the run.
-/

namespace ArbEngine

/-- The result of an operation on `Decimal`s. -/
def decimal (x : ℚ) : Outcome ℚ := if |x| < 2 ^ 96 then .ok x else .panic

/-- `Decimal::MAX` -/
def maxDecimal : ℚ := 2 ^ 96 - 1

/-! ## Transfers (`inventory/src/rebalancer.rs`) -/

structure TransferConfig where
  withdrawalFee : ℚ
  minWithdrawal : ℚ
  estimatedTimeMin : ℤ
deriving DecidableEq, Repr

/-- `TRANSFER_FEES` -/
def transferFees (asset : String) : Option TransferConfig :=
  if asset = "ETH" then
    some { withdrawalFee := 5 / 1000, minWithdrawal := 1 / 100, estimatedTimeMin := 15 }
  else if asset = "USDT" ∨ asset = "USDC" then
    some { withdrawalFee := 1, minWithdrawal := 10, estimatedTimeMin := 15 }
  else none

structure TransferPlan where
  fromVenue : Venue
  toVenue : Venue
  asset : String
  amount : ℚ
  estimatedFee : ℚ
  estimatedTimeMin : ℤ
deriving DecidableEq, Repr

def TransferPlan.netAmount (plan : TransferPlan) : ℚ := plan.amount - plan.estimatedFee

/-! ## Opportunities -/

structure ArbOpportunity where
  id : String
  requiredCapital : Venue → List (String × ℚ)
  expectedProfitUsd : ℚ
  ttl : ℚ
  discoveredAt : ℚ

structure PredictiveConfig where
  minProfitToCostRatio : ℚ
  triggerSwapSizeUsd : ℚ
  safetyBufferPct : ℚ
deriving DecidableEq, Repr

instance : Inhabited PredictiveConfig :=
  ⟨{ minProfitToCostRatio := 3, triggerSwapSizeUsd := 50000, safetyBufferPct := 5 / 100 }⟩

structure PrepositionPlan where
  opportunityId : String
  transfers : List TransferPlan
  estimatedCostUsd : ℚ
  expectedProfitUsd : ℚ
  shouldExecute : Bool
  reason : String
deriving DecidableEq, Repr

structure PredictiveRebalancer where
  tracker : InventoryTracker
  config : PredictiveConfig
  pricesUsd : String → Option ℚ
  addressToToken : Address → Option Token
  pools : String → Option Pool
  wethAddress : Address

/-- What one call finds out while it runs: its clock readings, the name of the opportunity, how a
    number is written with two places, and which venue of a shortfall comes first. -/
structure PredictiveEnv where
  discovered : ℚ
  planned : ℚ
  uuid : String
  twoPlaces : ℚ → String
  walletFirst : Bool

namespace ArbOpportunity

/-- The clock of an opportunity does not run backwards. -/
def isExpired (opp : ArbOpportunity) (now : ℚ) : Bool := opp.ttl < max (now - opp.discoveredAt) 0

/-- What a venue lacks of these assets. -/
def missing (tracker : InventoryTracker) (venue : Venue) :
    List (String × ℚ) → Outcome (List (String × ℚ))
  | [] => .ok []
  | (asset, required) :: assets => do
      let available := tracker.getAvailable venue asset
      if available < required then
        let lacking ← decimal (required - available)
        let rest ← missing tracker venue assets
        return (asset, lacking) :: rest
      else missing tracker venue assets

/-- The order in which a run goes through the venues of a shortfall. -/
def venues (walletFirst : Bool) : List Venue :=
  if walletFirst then [.wallet, .cex] else [.cex, .wallet]

def shortfall (opp : ArbOpportunity) (tracker : InventoryTracker) :
    Outcome (Venue → List (String × ℚ)) := do
  let wallet ← missing tracker .wallet (opp.requiredCapital .wallet)
  let cex ← missing tracker .cex (opp.requiredCapital .cex)
  return fun
    | .wallet => wallet
    | .cex => cex

end ArbOpportunity

namespace PredictiveRebalancer

def priceOf (r : PredictiveRebalancer) (asset : String) : ℚ := (r.pricesUsd asset).getD 1

/-! ## Planning -/

def sourceVenue : Venue → Venue
  | .wallet => .cex
  | .cex => .wallet

/-- The transfer that makes up for one asset, if there is enough of it to move. -/
def transferFor (r : PredictiveRebalancer) (targetVenue : Venue) (asset : String) (needed : ℚ) :
    Outcome (Option TransferPlan) := do
  let source := sourceVenue targetVenue
  let availableAtSource := r.tracker.getAvailable source asset
  let share ← decimal (1 - r.config.safetyBufferPct)
  let maxTransferable ← decimal (availableAtSource * share)
  if maxTransferable ≤ 0 then return none
  else
    let amount := min needed maxTransferable
    -- an asset without a fee is never moved
    match transferFees asset with
    | none => return none
    | some cfg =>
        if amount < cfg.minWithdrawal then return none
        else
          return some
            { fromVenue := source, toVenue := targetVenue, asset, amount
              estimatedFee := cfg.withdrawalFee, estimatedTimeMin := cfg.estimatedTimeMin }

def buildTransfersForShortfall (r : PredictiveRebalancer) :
    List (Venue × String × ℚ) → Outcome (List TransferPlan)
  | [] => .ok []
  | (venue, asset, needed) :: shortfall => do
      let plan ← r.transferFor venue asset needed
      let plans ← r.buildTransfersForShortfall shortfall
      return plan.toList ++ plans

/-- The fees of these transfers, added to a total. -/
def estimateTransferCostUsd (r : PredictiveRebalancer) (total : ℚ) :
    List TransferPlan → Outcome ℚ
  | [] => .ok total
  | plan :: plans => do
      let usd ← decimal (plan.estimatedFee * r.priceOf plan.asset)
      let total ← decimal (total + usd)
      r.estimateTransferCostUsd total plans

def profitRatio (profit cost : ℚ) : Outcome ℚ :=
  if 0 < cost then decimal (profit / cost) else .ok maxDecimal

def ratioReason (env : PredictiveEnv) (ratio threshold : ℚ) : String :=
  if threshold ≤ ratio then
    "Profit/cost ratio " ++ env.twoPlaces ratio ++ "x >= threshold " ++
      env.twoPlaces threshold ++ "x"
  else
    "Profit/cost ratio " ++ env.twoPlaces ratio ++ "x < threshold " ++
      env.twoPlaces threshold ++ "x — skipping"

/-- The plan of an opportunity that is not over, for what is lacking. -/
def planForShortfall (r : PredictiveRebalancer) (env : PredictiveEnv) (opp : ArbOpportunity)
    (shortfall : List (Venue × String × ℚ)) : Outcome PrepositionPlan :=
  if shortfall = [] then
    .ok { opportunityId := opp.id, transfers := [], estimatedCostUsd := 0
          expectedProfitUsd := opp.expectedProfitUsd, shouldExecute := true
          reason := "Sufficient capital at all venues, no transfer needed" }
  else do
    let transfers ← r.buildTransfersForShortfall shortfall
    let costUsd ← r.estimateTransferCostUsd 0 transfers
    let ratio ← profitRatio opp.expectedProfitUsd costUsd
    return { opportunityId := opp.id, transfers, estimatedCostUsd := costUsd
             expectedProfitUsd := opp.expectedProfitUsd
             shouldExecute := r.config.minProfitToCostRatio ≤ ratio
             reason := ratioReason env ratio r.config.minProfitToCostRatio }

def planForOpportunity (r : PredictiveRebalancer) (env : PredictiveEnv) (opp : ArbOpportunity) :
    Outcome PrepositionPlan :=
  if opp.isExpired env.planned then
    .ok { opportunityId := opp.id, transfers := [], estimatedCostUsd := 0
          expectedProfitUsd := opp.expectedProfitUsd, shouldExecute := false
          reason := "Opportunity expired before planning" }
  else do
    let lacking ← opp.shortfall r.tracker
    r.planForShortfall env opp
      ((ArbOpportunity.venues env.walletFirst).flatMap fun venue =>
        (lacking venue).map fun entry => (venue, entry.1, entry.2))

/-! ## Pending swaps -/

/-- The lower 128 bits of the amount are read, and must fit a `Decimal`; the power of ten is a
    `u64`. -/
def u256ToDecimal (val : U256) (decimals : ℕ) : Outcome ℚ := do
  Outcome.guardPanic (10 ^ decimals < 2 ^ 64)
  let asU128 ← decimal ((val.setWidth 128).toNat : ℚ)
  return asU128 / 10 ^ decimals

/-- A side of a swap that names no token is the wrapped native one. -/
def resolve (r : PredictiveRebalancer) : Option Address → Option Token
  | some addr => r.addressToToken addr
  | none => r.addressToToken r.wethAddress

def assetsFromSwap (r : PredictiveRebalancer) (swap : ParsedSwap) : Option (Token × Token) := do
  let tokenIn ← r.resolve swap.tokenIn
  let tokenOut ← r.resolve swap.tokenOut
  return (tokenIn, tokenOut)

/-- What the opportunity of a swap needs: half of it on either side. -/
def halfEach (tokenIn tokenOut : Token) (half : ℚ) : Venue → List (String × ℚ)
  | .wallet => [(tokenOut.symbol, half)]
  | .cex => [(tokenIn.symbol, half)]

def estimateArbFromSwap (env : PredictiveEnv) (pool : Pool) (tokenIn tokenOut : Token)
    (amountIn : U256) (amountInDecimal swapSizeUsd : ℚ) : Outcome ArbOpportunity := do
  let impact ← (pool.getPriceImpact amountIn tokenIn).discardErr
  -- an error counts as no impact, a panic goes on
  let priceImpactPct := impact.getD 0
  let gross ← decimal (swapSizeUsd * priceImpactPct)
  return { id := "arb-" ++ env.uuid
           requiredCapital := halfEach tokenIn tokenOut (amountInDecimal / 2)
           expectedProfitUsd := gross * (1 / 2), ttl := 12, discoveredAt := env.discovered }

def poolFor (r : PredictiveRebalancer) (tokenIn tokenOut : Token) : Option Pool :=
  (r.pools (tokenIn.symbol ++ "/" ++ tokenOut.symbol)).or
    (r.pools (tokenOut.symbol ++ "/" ++ tokenIn.symbol))

/-- The size that is compared with the trigger. -/
def swapSizeUsd (r : PredictiveRebalancer) (tokenIn : Token) (amountInDecimal : ℚ) : Outcome ℚ :=
  decimal (amountInDecimal * r.priceOf tokenIn.symbol)

def onPendingSwap (r : PredictiveRebalancer) (env : PredictiveEnv) (swap : ParsedSwap) :
    Outcome (Option PrepositionPlan) :=
  match r.assetsFromSwap swap with
  | none => .ok none
  | some (tokenIn, tokenOut) => do
      let amountInDecimal ← u256ToDecimal swap.amountIn tokenIn.decimals
      let swapSizeUsd ← r.swapSizeUsd tokenIn amountInDecimal
      if swapSizeUsd < r.config.triggerSwapSizeUsd then return none
      else
        match r.poolFor tokenIn tokenOut with
        | none => return none
        | some pool => do
            let estimatedArb ← estimateArbFromSwap env pool tokenIn tokenOut swap.amountIn
              amountInDecimal swapSizeUsd
            let plan ← r.planForOpportunity env estimatedArb
            return some plan

def onMonitorEvent (r : PredictiveRebalancer) (env : PredictiveEnv) :
    MonitorEvent → Outcome (Option PrepositionPlan)
  | .mempoolSwap swap => r.onPendingSwap env swap
  | .poolUpdate _ _ => .ok none

end PredictiveRebalancer

end ArbEngine
