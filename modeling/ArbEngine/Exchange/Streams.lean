import ArbEngine.Exchange.PrivateApi
import ArbEngine.Lib.Feed

/-!
# Streams of books (`exchange/src/client.rs`, `stream_order_book`)

The loop over the messages of a WebSocket. What is no text, and a text that is no JSON, is passed
over; a level that cannot be read ends the stream. The callback is given a book where both sides
have levels.

The connection is the environment: whether it is made, whether the subscription can be sent, and
which messages arrive.
-/

namespace ArbEngine

open CanonicalSerializer (serializationError)
open Feed (Consumed consume)

/-- A message of a WebSocket. -/
inductive Frame where
  | text (s : String)
  | ping (payload : List (BitVec 8))
  | other
deriving DecidableEq, Repr

/-- A message, or an error of the connection, and the clock when it is handled. -/
structure Arrival where
  frame : Except String Frame
  timestamp : ℕ

/-- What the loop does: it sends a text or a pong, or hands a book to the callback. -/
inductive StreamEvent where
  | sent (text : String)
  | pong (payload : List (BitVec 8))
  | book (book : OrderBook)

/-- What the connection does before the first message. -/
structure Connection where
  connect : Except String Unit
  subscribe : Except String Unit

namespace ExchangeClient

/-- The endpoint of the stream, for Binance. -/
def binanceStreamEndpoint (lowerTable : LowerTable) (wsUrl symbol : String) : String :=
  wsUrl ++ "/" ++ lowerTable.toLowercase (replaceText symbol "/" "") ++ "@depth20@100ms"

def bybitSubscription (client : ExchangeClient) (symbol : String) : String :=
  String.ofList (jsonObj
    [("args", .arr [jsonStr
        ("orderbook.1." ++ client.caseTable.toUppercase (replaceText symbol "/" ""))]),
      ("op", jsonStr "subscribe")]).text

/-- Both sides of a message; the callback runs where both have levels. -/
def hearSides (fromStr : String → Option ℚ) (symbol : String) (timestamp : ℕ)
    (bidSide askSide : Json) : Outcome (List StreamEvent) := do
  let bids ← parseLevels fromStr bidSide
  let asks ← parseLevels fromStr askSide
  if bids ≠ [] ∧ asks ≠ [] then
    let book ← bookOfLevels symbol timestamp bids asks
    return [.book book]
  else return []

section

variable (readJson : String → Except String Json) (fromStr : String → Option ℚ) (symbol : String)

/-- The body of the loop of `stream_binance`. -/
def hearBinance (arrival : Arrival) : Outcome (List StreamEvent) :=
  match arrival.frame with
  | .ok (.text text) =>
      match readJson text with
      | .ok data =>
          hearSides fromStr symbol arrival.timestamp (data.index "bids") (data.index "asks")
      | .error _ => .ok []
  | _ => .ok []

/-- The body of the loop of `stream_bybit`; whether a pong could be sent makes no difference. -/
def hearBybit (arrival : Arrival) : Outcome (List StreamEvent) :=
  match arrival.frame with
  | .ok (.text text) =>
      match readJson text with
      | .ok data =>
          match data.get? "data" with
          | some obData =>
              hearSides fromStr symbol arrival.timestamp (obData.index "b") (obData.index "a")
          | none => .ok []
      | .error _ => .ok []
  | .ok (.ping payload) => .ok [.pong payload]
  | _ => .ok []

def streamOrderBook (client : ExchangeClient) (connection : Connection)
    (arrivals : List Arrival) : Consumed StreamEvent :=
  match client.exchangeType with
  | .binance =>
      match connection.connect with
      | .error e => ⟨[], .err (serializationError ("Binance WS Connect: " ++ e))⟩
      | .ok () => consume (hearBinance readJson fromStr symbol) arrivals
  | .bybit =>
      match connection.connect with
      | .error e => ⟨[], .err (serializationError ("Bybit WS Connect: " ++ e))⟩
      | .ok () =>
          match connection.subscribe with
          | .error e => ⟨[], .err (serializationError e)⟩
          | .ok () =>
              let heard := consume (hearBybit readJson fromStr symbol) arrivals
              ⟨.sent (client.bybitSubscription symbol) :: heard.emitted, heard.outcome⟩
  | .coinbase =>
      ⟨[], .err (serializationError
        "WebSocket order book streaming is not implemented for Coinbase")⟩

end

end ExchangeClient

end ArbEngine
