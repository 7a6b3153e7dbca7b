import ArbEngine.Executor.Engine

/-!
# The trade legs (`executor/src/engine.rs`)

`executeCexLeg` and the simulated half of `execute_dex_leg`. The exchange is a function from
an order to what it answers. `simulationLegs` puts the simulated legs behind the timeouts of
a configuration: the CEX leg is always awaited for `leg1_timeout_sec` and the DEX leg for
`leg2_timeout_sec`, in both flows.
-/

namespace ArbEngine

def minNotional : ℚ := 5
def lotSizeStep : ℚ := 1
def priceTick : ℚ := 1 / 100000000

def roundQuantity (qty step : ℚ) : ℚ := ⌊qty / step⌋ * step

def roundPrice (price tick : ℚ) : ℚ := roundHalfAway (price / tick) * tick

/-- `pair.starts_with(mark)` -/
def pairStartsWith (pair mark : String) : Bool := mark.toList.isPrefixOf pair.toList

/-- What the exchange answers to an order. -/
structure OrderResult where
  id : String
  amountFilled : TokenAmount
  avgFillPrice : ℚ
  status : String
deriving DecidableEq, Repr

/-- `TokenAmount::from_human(&qty.to_string(), 8, None).unwrap()`, for a whole quantity. -/
def orderAmount (qty : ℚ) : Outcome ℚ :=
  if 0 ≤ qty ∧ qty * 10 ^ 8 < 2 ^ 96 then .ok qty else .panic

def simulateCexLeg (stamp : ℕ) (signal : Signal) (actualSize : ℚ) : LegResult :=
  if pairStartsWith signal.pair "CEXFAIL" then LegResult.failure "Simulated CEX failure"
  else if pairStartsWith signal.pair "PARTIAL" then
    { success := true, price := signal.cexPrice, filled := actualSize * (1 / 2),
      orderId := some ("sim-partial-" ++ toString stamp), txHash := none, error := none }
  else
    { success := true, price := signal.cexPrice, filled := actualSize,
      orderId := some ("sim-cex-" ++ toString stamp), txHash := none, error := none }

/-- What a leg makes of the answer to its order. -/
def cexOrderReply (answer : Except String OrderResult) : Outcome LegResult :=
  match answer with
  | .error e => return LegResult.failure e
  | .ok order => do
      let filled ← order.amountFilled.toHuman
      return { success := order.status = "filled"
               price := order.avgFillPrice
               filled := filled
               orderId := some order.id
               txHash := none
               error := if order.status = "filled" then none else some order.status }

def executeCexLeg (config : ExecutorConfig)
    (createLimitIocOrder : String → TradeSide → ℚ → ℚ → Except String OrderResult) (stamp : ℕ)
    (signal : Signal) (size : Option ℚ) : Outcome LegResult :=
  let actualSize := size.getD signal.size
  if config.simulationMode then .ok (simulateCexLeg stamp signal actualSize)
  else
    let side := if signal.direction = .buyCexSellDex then TradeSide.buy else TradeSide.sell
    let priceMultiplier : ℚ :=
      match side with
      | .buy => 101 / 100
      | .sell => 99 / 100
    let qty := roundQuantity actualSize lotSizeStep
    let price := roundPrice (signal.cexPrice * priceMultiplier) priceTick
    if qty * price < minNotional then
      .ok { LegResult.failure "Order below MIN_NOTIONAL" with price := price }
    else do
      let amount ← orderAmount qty
      cexOrderReply (createLimitIocOrder signal.pair side amount price)

def simulateDexLeg (signal : Signal) (size : ℚ) : LegResult :=
  if pairStartsWith signal.pair "DEXFAIL" then LegResult.failure "Simulated DEX failure"
  else if pairStartsWith signal.pair "PARTIAL" then
    { success := true, price := signal.dexPrice, filled := size * (1 / 2), orderId := none,
      txHash := some "0xsimulatedpartial", error := none }
  else
    { success := true, price := signal.dexPrice, filled := size, orderId := none,
      txHash := some "0xsimulatedhash", error := none }

/-- The legs of the simulation mode, for the times the two of them take. -/
def simulationLegs (config : ExecutorConfig) (cexElapsed dexElapsed : ℚ) (stamp : ℕ) : Legs where
  cex signal size :=
    if (cexElapsed : XRat) < config.leg1TimeoutSec then
      some (simulateCexLeg stamp signal (size.getD signal.size))
    else none
  dex signal size :=
    if (dexElapsed : XRat) < config.leg2TimeoutSec then some (simulateDexLeg signal size) else none

end ArbEngine
