import ArbEngine.Exchange.Client
import ArbEngine.Exchange.OrderBook
import ArbEngine.Lib.JsonPath
import ArbEngine.Strategy.Signal

/-!
# What the client makes of replies (`exchange/src/client.rs`)

The reply to a request is JSON of any shape. `Decimal::from_str` is a parameter, and operations on
`Decimal`s are exact where their results fit.
-/

namespace ArbEngine

/-! ## Books -/

/-- One level of a side: a pair, or an object. -/
def parseLevel (fromStr : String → Option ℚ) (item : Json) : Outcome Level := do
  let priceStr ← Outcome.okOr "Decimal conversion error"
    (((item.getIdx? 0).bind Json.asStr).or ((item.get? "price").bind Json.asStr))
  let qtyStr ← Outcome.okOr "Decimal conversion error"
    ((((item.getIdx? 1).bind Json.asStr).or ((item.get? "size").bind Json.asStr)).or
      ((item.get? "qty").bind Json.asStr))
  let price ← Outcome.okOr "Decimal conversion error" (fromStr priceStr)
  let qty ← Outcome.okOr "Decimal conversion error" (fromStr qtyStr)
  return (price, qty)

def parseItems (fromStr : String → Option ℚ) : List Json → Outcome (List Level)
  | [] => .ok []
  | item :: items => do
      let level ← parseLevel fromStr item
      let levels ← parseItems fromStr items
      return level :: levels

/-- `parse_levels`: what is not an array has no levels. -/
def parseLevels (fromStr : String → Option ℚ) : Json → Outcome (List Level)
  | .arr items => parseItems fromStr items
  | _ => .ok []

/-- The operations of `construct_order_book` on the best prices fit a `Decimal`. -/
def BookFits (bid ask : ℚ) : Prop :=
  |bid + ask| < 2 ^ 96 ∧
    (bid + ask ≠ 0 →
      |(ask - bid) * 10000| < 2 ^ 96 ∧ |(ask - bid) * 10000 / ((bid + ask) / 2)| < 2 ^ 96)

instance (bid ask : ℚ) : Decidable (BookFits bid ask) := by
  unfold BookFits
  infer_instance

/-- `construct_order_book`, which panics where an operation overflows. -/
def bookOfLevels (symbol : String) (timestamp : ℕ) (bids asks : List Level) : Outcome OrderBook :=
  let book := constructOrderBook symbol timestamp bids asks
  if BookFits book.bestBid.1 book.bestAsk.1 then .ok book else .panic

namespace ExchangeClient

/-- The part of the reply that has the sides. -/
def bookData (request : DepthRequest) (reply : Json) : Json :=
  match request.dataPath with
  | some path => reply.index path
  | none => reply

/-- `fetch_order_book`, from the reply on. -/
def orderBookReply (client : ExchangeClient) (fromStr : String → Option ℚ) (symbol : String)
    (limit timestamp : ℕ) (reply : Json) : Outcome OrderBook := do
  let request := client.fetchOrderBook symbol limit
  let data := bookData request reply
  let bids ← parseLevels fromStr (data.index request.bidKey)
  let asks ← parseLevels fromStr (data.index request.askKey)
  bookOfLevels symbol timestamp bids asks

end ExchangeClient

/-! ## Orders -/

/-- The whole of what the source calls an order result. -/
structure OrderReport extends OrderResult where
  symbol : String
  side : String
  orderType : String
  timeInForce : String
  amountRequested : TokenAmount
  fee : TokenAmount
  timestamp : ℕ

/-- What the caller knows of the order already. -/
structure OrderHints where
  side : Option String
  orderType : Option String
  timeInForce : Option String
  amountRequested : Option TokenAmount
  price : Option ℚ

def jsonValueToString (value : Json) : Option String :=
  (value.asStr.or (value.asU64.map toString)).or (value.asI64.map toString)

namespace ExchangeClient

/-- The result object of a reply to an order. -/
def orderData (exchangeType : ExchangeType) (data : Json) : Json :=
  match exchangeType with
  | .binance => data
  | .bybit => data.index "result"
  | .coinbase => data.index "success_response"

def orderId (exchangeType : ExchangeType) (d : Json) : String :=
  (match exchangeType with
    | .binance | .bybit =>
        (jsonValueToString (d.index "orderId")).or (jsonValueToString (d.index "order_id"))
    | .coinbase => jsonValueToString (d.index "order_id")).getD ""

def orderStatus (lowerTable : LowerTable) (exchangeType : ExchangeType) (data d : Json) : String :=
  match exchangeType with
  | .coinbase =>
      if ((data.index "success").asBool).getD true then "accepted"
      else lowerTable.toLowercase (((data.index "failure_reason").asStr).getD "rejected")
  | .binance | .bybit =>
      lowerTable.toLowercase ((d.firstStr ["status", "orderStatus"]).getD "UNKNOWN")

/-- The text of the amount that was asked for. -/
def requestedText (d : Json) : String :=
  (d.firstStr ["origQty", "qty", "sz", "base_size"]).getD "0"

/-- The text of the amount that was filled. -/
def filledText (d : Json) : String :=
  (d.firstStr ["executedQty", "cumExecQty", "accFillSz", "filled_size"]).getD "0"

def avgFillPrice (fromStr : String → Option ℚ) (d : Json) (priceHint : Option ℚ) : ℚ :=
  let responsePrice :=
    (d.firstStr ["price", "avgPrice", "px", "average_filled_price"]).bind fromStr
  (responsePrice.or priceHint).getD 0

def mapOrderResponseWithRequest (client : ExchangeClient) (lowerTable : LowerTable)
    (fromStr : String → Option ℚ) (timestamp : ℕ) (data : Json) (symbol : String)
    (hints : OrderHints) : Outcome OrderReport := do
  let asset := (splitPair symbol).headD ""
  let d := orderData client.exchangeType data
  let amountRequested ←
    match hints.amountRequested with
    | some amount => .ok amount
    | none => TokenAmount.fromHuman fromStr (requestedText d) 8 (some asset)
  let amountFilled ← TokenAmount.fromHuman fromStr (filledText d) 8 (some asset)
  let fee ← TokenAmount.fromHuman fromStr "0" 8 none
  return {
    id := orderId client.exchangeType d
    symbol
    side :=
      (hints.side.or ((d.index "side").asStr.map lowerTable.toLowercase)).getD "unknown"
    orderType := hints.orderType.getD
      (lowerTable.toLowercase ((d.firstStr ["type", "orderType", "ordType"]).getD "limit"))
    timeInForce := hints.timeInForce.getD
      ((d.firstStr ["timeInForce", "time_in_force"]).getD "GTC")
    amountRequested
    amountFilled
    avgFillPrice := avgFillPrice fromStr d hints.price
    fee
    status := orderStatus lowerTable client.exchangeType data d
    timestamp }

end ExchangeClient

end ArbEngine
