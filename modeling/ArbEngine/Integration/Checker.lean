import ArbEngine.Exchange.Client
import ArbEngine.Exchange.OrderBook
import ArbEngine.Inventory.Tracker
import ArbEngine.Pricing.Engine

/-!
# The arbitrage checker (`integration/src/checker.rs`)

The checker quotes a sale on the DEX and sets it against the book of the exchange. `Decimal` is
read as exact, and a division by zero panics. The book that the client fetches, the clock and how
an error is written are given to it.
-/

namespace ArbEngine

/-! ## What the tracker says to two legs -/

def Venue.debug : Venue → String
  | .cex => "Cex"
  | .wallet => "Wallet"

structure ExecutionCheck where
  canExecute : Bool
  buyVenueAvailable : ℚ
  buyVenueNeeded : ℚ
  sellVenueAvailable : ℚ
  sellVenueNeeded : ℚ
  reason : Option String

/-- Whether both legs have what they need. The two answers are independent, and a missing buy asset
    is named first. -/
def InventoryTracker.canExecute (t : InventoryTracker) (buyVenue : Venue) (buyAsset : String)
    (buyAmount : ℚ) (sellVenue : Venue) (sellAsset : String) (sellAmount : ℚ) : ExecutionCheck :=
  let buyAvailable := t.getAvailable buyVenue buyAsset
  let sellAvailable := t.getAvailable sellVenue sellAsset
  let canBuy : Bool := buyAmount ≤ buyAvailable
  let canSell : Bool := sellAmount ≤ sellAvailable
  { canExecute := canBuy && canSell
    buyVenueAvailable := buyAvailable
    buyVenueNeeded := buyAmount
    sellVenueAvailable := sellAvailable
    sellVenueNeeded := sellAmount
    reason :=
      if !canBuy then some ("Insufficient " ++ buyAsset ++ " on " ++ buyVenue.debug)
      else if !canSell then some ("Insufficient " ++ sellAsset ++ " on " ++ sellVenue.debug)
      else none }

/-! ## The checker -/

structure ArbChecker where
  pricingEngine : PricingEngine
  exchangeClient : ExchangeClient
  inventoryTracker : InventoryTracker

/-- What a check reads from outside. -/
structure CheckEnv where
  fetchOrderBook : String → ℕ → Outcome OrderBook
  timestamp : ℕ
  debug : String → String

namespace ArbChecker

/-- The costs that a check assumes; none of them is measured. -/
structure ArbDetails where
  dexPriceImpactBps : ℚ
  cexSlippageBps : ℚ
  cexFeeBps : ℚ
  dexFeeBps : ℚ
  gasCostUsd : ℚ
deriving DecidableEq

/-- What a check reports, executable or not. -/
structure ArbOpportunity where
  pair : String
  timestamp : ℕ
  dexPrice : ℚ
  cexBid : ℚ
  cexAsk : ℚ
  gapBps : ℚ
  direction : Option String
  estimatedCostsBps : ℚ
  estimatedNetPnlBps : ℚ
  inventoryOk : Bool
  executable : Bool
  details : ArbDetails

/-- The costs as they stand in the source, in basis points, and the gas in dollars. -/
def details : ArbDetails where
  dexPriceImpactBps := 12 / 10
  cexSlippageBps := 4 / 10
  cexFeeBps := 10
  dexFeeBps := 30
  gasCostUsd := 5

/-- What the best route pays for the size, its gas taken off, in human units. The route search has
    20 as its gas price and 3 as the most hops, whatever the size. -/
def proceeds (m : TickMath) (c : ArbChecker) (env : CheckEnv) (fuel : ℕ) (size : ℚ)
    (tokenIn tokenOut : Token) : Fueled ℚ := do
  -- The size is a `Decimal` already, so its text is read back as it is.
  let rawAmountIn ←
    Fueled.ended (TokenAmount.fromDecimal size tokenIn.decimals (some tokenIn.symbol))
  let router ←
    Fueled.ended (Outcome.okOr "Pricing router not initialized" c.pricingEngine.router)
  let best ← (router.findBestRoute m fuel tokenIn tokenOut rawAmountIn.raw 20 3).mapErr
    fun e => "Routing error: " ++ env.debug e
  Fueled.ended (TokenAmount.toHuman
    { raw := best.2, decimals := tokenOut.decimals, symbol := some tokenOut.symbol })

/-- Gas in basis points of what is traded. -/
def gasBps (gasCostUsd notional : ℚ) : ℚ :=
  if 0 < notional then gasCostUsd / notional * 10000 else 0

/-- What is reported of a price on the DEX and the best prices of the book. The gap is measured
    against the bid; the leg that buys on the exchange is checked against the ask. -/
def assess (c : ArbChecker) (pair : String) (timestamp : ℕ) (size : ℚ) (tokenIn tokenOut : Token)
    (dexPrice cexBid cexAsk : ℚ) : ArbOpportunity :=
  let gapUsd := dexPrice - cexBid
  let gapBps := gapUsd / cexBid * 10000
  let notional := size * dexPrice
  let totalCostsBps :=
    details.dexFeeBps + details.cexFeeBps + details.dexPriceImpactBps + details.cexSlippageBps +
      gasBps details.gasCostUsd notional
  let netPnlBps := gapBps - totalCostsBps
  let inventoryOk := (c.inventoryTracker.canExecute .wallet tokenIn.symbol size .cex
    tokenOut.symbol (size * cexAsk)).canExecute
  { pair
    timestamp
    dexPrice
    cexBid
    cexAsk
    gapBps
    direction := some "sell_dex_buy_cex"
    estimatedCostsBps := totalCostsBps
    estimatedNetPnlBps := netPnlBps
    inventoryOk
    executable := inventoryOk && decide (0 < netPnlBps)
    details }

/-- The name under which the book is fetched. -/
def symbolCex (c : ArbChecker) (pair : String) : String :=
  c.exchangeClient.caseTable.toUppercase (replaceText pair "/" "")

/-- The check: sell on the DEX, buy back on the exchange. It ends with the first error, of the
    router or of the exchange, and panics where a size or a bid of zero is divided by. -/
def check (m : TickMath) (c : ArbChecker) (env : CheckEnv) (fuel : ℕ) (pair : String) (size : ℚ)
    (tokenIn tokenOut : Token) : Fueled ArbOpportunity := do
  let output ← c.proceeds m env fuel size tokenIn tokenOut
  Fueled.ended (Outcome.guardPanic (size ≠ 0))
  let dexPrice := output / size
  let ob ← Fueled.ended ((env.fetchOrderBook (c.symbolCex pair) 5).mapErr
    fun e => "Exchange error for " ++ c.symbolCex pair ++ ": " ++ env.debug e)
  Fueled.ended (Outcome.guardPanic (ob.bestBid.1 ≠ 0))
  return c.assess pair env.timestamp size tokenIn tokenOut dexPrice ob.bestBid.1 ob.bestAsk.1

end ArbChecker

end ArbEngine
