import ArbEngine.Core.Amounts
import ArbEngine.Exchange.Coinbase
import ArbEngine.Exchange.Replies
import ArbEngine.Exchange.RateLimiter

/-!
# The private API (`exchange/src/client.rs`)

What the client sends to an exchange for an order, a cancellation or its balances, and what it
makes of the answer. Each exchange has its own way to sign: Binance signs the query and puts the
signature behind it, Bybit signs the parameters with its headers in front, Coinbase wants a token.

The HMAC, the crates behind a Coinbase token and the JSON reader are parameters, and so is the
answer of the exchange. `serde_json` writes the entries of an object in the order of their keys.
-/

namespace ArbEngine

open CanonicalSerializer (serializationError)

inductive RequestPriority where
  | high
  | medium
  | low
deriving DecidableEq, Repr

/-- The key of the client, as `new` has trimmed it. -/
structure ApiKey where
  apiKey : String
  secret : String
deriving DecidableEq, Repr

/-- A request as it is sent. -/
structure HttpRequest where
  method : String
  url : String
  headers : List (String × String)
  body : Option String
deriving DecidableEq, Repr

/-- What comes back: the status as a number and as it is printed, the weight that the exchange
    has seen in the last minute, if it says so, and the text, or why it could not be read. -/
structure HttpResponse where
  status : ℕ
  statusText : String
  usedWeight : Option ℚ
  text : Except String String
deriving Repr

/-- What signs a request: `hmac` is the HMAC of a payload under a key, in hexadecimal. -/
structure SigningCrates where
  hmac : String → String → String
  coinbase : CoinbaseCrates

/-- The readings of the clock that go into a request, in milliseconds, and a nonce. -/
structure RequestStamp where
  timestamp : ℕ
  nonce : String
deriving DecidableEq, Repr

def recvWindow : ℕ := 5000

namespace ExchangeClient

def getWeight (client : ExchangeClient) (endpoint : String) (priority : RequestPriority) : ℕ :=
  match client.exchangeType, priority with
  | .binance, .high => 1
  | .binance, .medium =>
      -- `endpoint.contains("/depth")`
      if endpoint.toList.tails.any ("/depth".toList.isPrefixOf ·) then 1 else 2
  | .binance, .low => 10
  | .bybit, .high => 1
  | _, _ => 1

/-! ## Signing -/

/-- The query that is signed for Binance. -/
def binanceQuery (params : String) (timestamp : ℕ) : String :=
  if params = "" then "timestamp=" ++ toString timestamp
  else params ++ "&timestamp=" ++ toString timestamp

/-- The payload that is signed for Bybit. -/
def bybitPayload (key : ApiKey) (params : String) (timestamp : ℕ) : String :=
  toString timestamp ++ key.apiKey ++ toString recvWindow ++ params

def binanceRequest (client : ExchangeClient) (hmac : String → String → String) (key : ApiKey)
    (timestamp : ℕ) (method endpoint params : String) : Outcome HttpRequest := do
  let query := binanceQuery params timestamp
  let signature := hmac key.secret query
  requestBuilder method
  return { method
           url := client.baseUrl ++ endpoint ++ "?" ++ query ++ "&signature=" ++ signature
           headers := [("X-MBX-APIKEY", key.apiKey)]
           body := none }

def bybitRequest (client : ExchangeClient) (hmac : String → String → String) (key : ApiKey)
    (timestamp : ℕ) (method endpoint params : String) : Outcome HttpRequest := do
  let (url, body) :=
    if method = "GET" then (client.baseUrl ++ endpoint ++ "?" ++ params, none)
    else (client.baseUrl ++ endpoint, some params)
  let signature := hmac key.secret (bybitPayload key params timestamp)
  requestBuilder method
  return { method
           url
           headers :=
             [("X-BAPI-API-KEY", key.apiKey), ("X-BAPI-SIGN", signature),
               ("X-BAPI-TIMESTAMP", toString timestamp),
               ("X-BAPI-RECV-WINDOW", toString recvWindow)] ++
             if method = "GET" then [] else [("Content-Type", "application/json")]
           body }

/-- `signed_request`, up to the sending of the request. -/
def signedRequest (client : ExchangeClient) (crates : SigningCrates) (key : ApiKey)
    (stamp : RequestStamp) (method endpoint params : String) : Outcome HttpRequest :=
  match client.exchangeType with
  | .binance => client.binanceRequest crates.hmac key stamp.timestamp method endpoint params
  | .bybit => client.bybitRequest crates.hmac key stamp.timestamp method endpoint params
  | .coinbase => do
      let request ← client.coinbaseSignedRequest crates.coinbase key.apiKey key.secret
        (stamp.timestamp / 1000) stamp.nonce method endpoint params
      return { method := request.method
               url := request.url
               headers :=
                 [("Authorization", "Bearer " ++ request.token),
                   ("Accept", "application/json")] ++
                 (request.contentType.map fun type => ("Content-Type", type)).toList
               body := request.body }

/-! ## Answers -/

/-- The weight that Binance reports goes to the rate limiter, whatever the rest of the answer. -/
def feedback (client : ExchangeClient) (limiter : RateLimiter) (response : HttpResponse) :
    RateLimiter :=
  match client.exchangeType, response.usedWeight with
  | .binance, some used => limiter.updateFromHeaders used
  | _, _ => limiter

def parseHttpResponse (readJson : String → Except String Json) (response : HttpResponse) :
    Outcome Json := do
  let text ← orSerializationError response.text
  if 200 ≤ response.status ∧ response.status < 300 then
    match readJson text with
    | .ok data => return data
    | .error e => .err (serializationError ("JSON Error: " ++ e))
  else
    .err (serializationError ("Exchange Error: " ++ response.statusText ++ ", Body: " ++ text))

/-- An answer in which the exchange says no; `toString` of the data is its text. -/
def refuses (exchangeType : ExchangeType) (data : Json) : Option String :=
  match exchangeType with
  | .binance => none
  | .bybit =>
      if ((data.index "retCode").asI64).getD 0 ≠ 0 then
        some ("Bybit private API error: " ++ String.ofList data.text)
      else none
  | .coinbase =>
      if (data.index "success").asBool = some false then
        some ("Coinbase private API error: " ++ String.ofList data.text)
      else none

/-- What `signed_request` makes of what came back. -/
def signedReply (client : ExchangeClient) (readJson : String → Except String Json)
    (response : Except String HttpResponse) : Outcome Json := do
  let response ← orSerializationError response
  let data ← parseHttpResponse readJson response
  match refuses client.exchangeType data with
  | some msg => .err (serializationError msg)
  | none => return data

/-! ## Orders -/

def jsonStr (s : String) : Json := .str s.toList

/-- `json!({..})`, with the entries in the order of the keys. -/
def jsonObj (entries : List (String × Json)) : Json :=
  .obj (entries.map fun e => (e.1.toList, e.2))

/-- `client_order_id("arb")` -/
def clientOrderId (stamp : RequestStamp) : String := "arb" ++ toString stamp.timestamp

/-- The parameters of an order, with a price or at the market. -/
def orderParams (exchangeType : ExchangeType) (stamp : RequestStamp) (order : OrderRequest) :
    String :=
  let amountStr := decimalText order.quantity
  match exchangeType, order.price with
  | .binance, some price =>
      "symbol=" ++ order.symbol ++ "&side=" ++ order.side ++
        "&type=LIMIT&timeInForce=IOC&quantity=" ++ amountStr ++ "&price=" ++ decimalText price
  | .binance, none =>
      "symbol=" ++ order.symbol ++ "&side=" ++ order.side ++ "&type=MARKET&quantity=" ++ amountStr
  | .bybit, some price =>
      String.ofList (jsonObj
        [("category", jsonStr "spot"), ("orderType", jsonStr "Limit"),
          ("price", jsonStr (decimalText price)), ("qty", jsonStr amountStr),
          ("side", jsonStr order.side), ("symbol", jsonStr order.symbol),
          ("timeInForce", jsonStr "IOC")]).text
  | .bybit, none =>
      String.ofList (jsonObj
        [("category", jsonStr "spot"), ("orderType", jsonStr "Market"),
          ("qty", jsonStr amountStr), ("side", jsonStr order.side),
          ("symbol", jsonStr order.symbol)]).text
  | .coinbase, some price =>
      String.ofList (jsonObj
        [("client_order_id", jsonStr (clientOrderId stamp)),
          ("order_configuration", jsonObj
            [("sor_limit_ioc", jsonObj
              [("base_size", jsonStr amountStr), ("limit_price", jsonStr (decimalText price)),
                ("rfq_disabled", .bool true)])]),
          ("product_id", jsonStr order.symbol), ("side", jsonStr order.side)]).text
  | .coinbase, none =>
      String.ofList (jsonObj
        [("client_order_id", jsonStr (clientOrderId stamp)),
          ("order_configuration", jsonObj
            [("market_market_ioc", jsonObj
              [("base_size", jsonStr amountStr), ("rfq_disabled", .bool true)])]),
          ("product_id", jsonStr order.symbol), ("side", jsonStr order.side)]).text

/-- The request that carries an order. -/
def orderHttpRequest (client : ExchangeClient) (crates : SigningCrates) (key : ApiKey)
    (stamp : RequestStamp) (order : OrderRequest) : Outcome HttpRequest :=
  client.signedRequest crates key stamp "POST" order.endpoint
    (orderParams client.exchangeType stamp order)

/-! ## Cancellations -/

def cancelRequest (client : ExchangeClient) (symbol orderId : String) :
    String × String × String :=
  let symbolClean := client.normalizeSymbol symbol
  match client.exchangeType with
  | .binance =>
      ("DELETE", "/api/v3/order", "symbol=" ++ symbolClean ++ "&orderId=" ++ orderId)
  | .bybit =>
      ("POST", "/v5/order/cancel",
        String.ofList (jsonObj
          [("category", jsonStr "spot"), ("orderId", jsonStr orderId),
            ("symbol", jsonStr symbolClean)]).text)
  | .coinbase =>
      ("POST", "/orders/batch_cancel",
        String.ofList (jsonObj [("order_ids", .arr [jsonStr orderId])]).text)

/-- What `cancel_order` reads from the answer. -/
def cancelled (exchangeType : ExchangeType) (data : Json) : Bool :=
  match exchangeType with
  | .binance => ((data.index "orderId").asStr).isSome || ((data.index "orderId").asU64).isSome
  | .bybit => ((data.index "retCode").asI64).getD (-1) = 0
  | .coinbase =>
      ((((data.index "results").getIdx? 0).getD .null).index "success").asBool.getD false

end ExchangeClient

end ArbEngine
