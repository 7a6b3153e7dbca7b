import ArbEngine.Executor.Submission
import ArbEngine.Lib.Replace

/-!
# Names of instruments (`exchange/src/client.rs`)

The requests the client makes of an exchange for the book of a symbol and for an order, up to
the point where they are sent. Each function has its own way from the symbol of the bot to the
name the exchange knows the instrument under.

What `to_uppercase` makes of a character is a table of the Unicode standard, of which the
client is only known to need the rows for ASCII; a `CaseTable` is any table with the properties
that hold for every version of it.
-/

namespace ArbEngine

/-- `char::to_uppercase`: one to three characters, themselves unchanged by the table. -/
structure CaseTable where
  upper : Char → List Char
  ascii : ∀ c, c.toNat < 128 → upper c = [c.toUpper]
  upper_ne_nil : ∀ c, upper c ≠ []
  upper_upper : ∀ c, ∀ d ∈ upper c, upper d = [d]

namespace CaseTable

/-- `str::to_uppercase` -/
def toUppercase (table : CaseTable) (s : String) : String :=
  String.ofList (s.toList.flatMap table.upper)

end CaseTable

/-- `str::replace`, for a pattern that is not empty. -/
def replaceText (s pattern new : String) : String :=
  String.ofList (Replace.replaceAll pattern.toList new.toList s.toList)

structure ExchangeClient where
  exchangeType : ExchangeType
  baseUrl : String
  caseTable : CaseTable

/-- The request for a book: its URL, the name in it, and where the answer has its levels. -/
structure DepthRequest where
  url : String
  symbol : String
  bidKey : String
  askKey : String
  dataPath : Option String
deriving DecidableEq, Repr

/-- The fields of a request for an order that depend on the order; without a price it is an
    order at the market. -/
structure OrderRequest where
  endpoint : String
  symbol : String
  side : String
  quantity : ℚ
  price : Option ℚ
deriving DecidableEq, Repr

namespace ExchangeClient

def normalizeSymbol (client : ExchangeClient) (symbol : String) : String :=
  let symbol :=
    match client.exchangeType with
    | .coinbase => replaceText symbol "/" "-"
    | .binance | .bybit => replaceText symbol "/" ""
  let symbol := replaceText (replaceText symbol "WETH" "ETH") "WBTC" "BTC"
  client.caseTable.toUppercase symbol

/-- The request `fetch_order_book` sends. -/
def fetchOrderBook (client : ExchangeClient) (symbol : String) (limit : ℕ) : DepthRequest :=
  let symbolClean := replaceText symbol "/" ""
  let symbolClean :=
    if client.exchangeType = .binance then
      replaceText (replaceText symbolClean "WETH" "ETH") "WBTC" "BTC"
    else symbolClean
  match client.exchangeType with
  | .binance =>
      { url := client.baseUrl ++ "/api/v3/depth?symbol=" ++ symbolClean ++ "&limit=" ++
          toString limit
        symbol := symbolClean
        bidKey := "bids"
        askKey := "asks"
        dataPath := none }
  | .bybit =>
      { url := client.baseUrl ++ "/v5/market/orderbook?category=spot&symbol=" ++ symbolClean ++
          "&limit=" ++ toString limit
        symbol := symbolClean
        bidKey := "b"
        askKey := "a"
        dataPath := some "result" }
  | .coinbase =>
      let symbolClean := client.caseTable.toUppercase (replaceText symbol "/" "-")
      { url := client.baseUrl ++ "/market/product_book?product_id=" ++ symbolClean ++ "&limit=" ++
          toString limit
        symbol := symbolClean
        bidKey := "bids"
        askKey := "asks"
        dataPath := some "pricebook" }

def orderEndpoint : ExchangeType → String
  | .binance => "/api/v3/order"
  | .bybit => "/v5/order/create"
  | .coinbase => "/orders"

/-- The request `create_limit_ioc_order` sends. -/
def createLimitIocOrder (client : ExchangeClient) (symbol side : String) (amount : TokenAmount)
    (price : ℚ) : Outcome OrderRequest := do
  let symbolClean := client.normalizeSymbol symbol
  let quantity ← amount.toHuman
  return { endpoint := orderEndpoint client.exchangeType
           symbol := symbolClean
           side := client.caseTable.toUppercase side
           quantity := quantity
           price := some price }

/-- The request `create_market_order` sends. -/
def createMarketOrder (client : ExchangeClient) (symbol side : String) (amount : TokenAmount) :
    Outcome OrderRequest := do
  let symbolClean := client.normalizeSymbol symbol
  let quantity ← amount.toHuman
  return { endpoint := orderEndpoint client.exchangeType
           symbol := symbolClean
           side := client.caseTable.toUppercase side
           quantity := quantity
           price := none }

end ExchangeClient

end ArbEngine
