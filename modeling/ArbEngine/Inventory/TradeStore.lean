import ArbEngine.Exchange.OrderBook
import ArbEngine.Inventory.Pnl
import ArbEngine.Lib.Table
import ArbEngine.Strategy.Signal

/-!
# The trades in the database (`inventory/src/pnl.rs`, `inventory/src/db.rs`)

A record becomes a row of `arb_trades`, and a row that is read becomes a record again. The reports
are computed from the rows in the order of their time stamps, which the database keeps in
microseconds.

The database is a table with a primary key. An error of the connection is not modelled; neither is
what a report does in `f64`, nor the spelling of its numbers.
-/

namespace ArbEngine

/-- `TIMESTAMPTZ` -/
def storedTime (t : ℚ) : ℚ := ⌊t * 10 ^ 6⌋ / 10 ^ 6

namespace Venue

/-- `format!("{:?}", venue)` -/
def text : Venue → String
  | .cex => "Cex"
  | .wallet => "Wallet"

def ofText (s : String) : Venue := if s = "Cex" then .cex else .wallet

end Venue

/-- A row of `arb_trades`. -/
structure TradeRow where
  id : String
  timestamp : ℚ
  symbol : String
  buyVenue : String
  buyAmount : ℚ
  buyPrice : ℚ
  buyFee : ℚ
  buyFeeAsset : String
  sellVenue : String
  sellAmount : ℚ
  sellPrice : ℚ
  sellFee : ℚ
  sellFeeAsset : String
  gasCostUsd : ℚ
  netPnl : ℚ
  bps : ℚ
deriving DecidableEq, Repr

/-- What `PnLEngine::record` binds. -/
def ArbRecord.row (trade : ArbRecord) : TradeRow where
  id := trade.id
  timestamp := storedTime trade.timestamp
  symbol := trade.buyLeg.symbol
  buyVenue := trade.buyLeg.venue.text
  buyAmount := trade.buyLeg.amount
  buyPrice := trade.buyLeg.price
  buyFee := trade.buyLeg.fee
  buyFeeAsset := trade.buyLeg.feeAsset
  sellVenue := trade.sellLeg.venue.text
  sellAmount := trade.sellLeg.amount
  sellPrice := trade.sellLeg.price
  sellFee := trade.sellLeg.fee
  sellFeeAsset := trade.sellLeg.feeAsset
  gasCostUsd := trade.gasCostUsd
  netPnl := trade.netPnl
  bps := trade.netPnlBps

/-- What `fetch_all_trades` makes of a row. -/
def TradeRow.record (row : TradeRow) : ArbRecord where
  id := row.id
  timestamp := row.timestamp
  buyLeg :=
    { id := row.id ++ "-buy"
      timestamp := row.timestamp
      venue := Venue.ofText row.buyVenue
      symbol := row.symbol
      side := .buy
      amount := row.buyAmount
      price := row.buyPrice
      fee := row.buyFee
      feeAsset := row.buyFeeAsset }
  sellLeg :=
    { id := row.id ++ "-sell"
      timestamp := row.timestamp
      venue := Venue.ofText row.sellVenue
      symbol := row.symbol
      side := .sell
      amount := row.sellAmount
      price := row.sellPrice
      fee := row.sellFee
      feeAsset := row.sellFeeAsset }
  gasCostUsd := row.gasCostUsd

/-- The numbers of `summary`; `winRate` is in percent. -/
structure TradeSummary where
  totalTrades : ℕ
  winRate : ℚ
  totalPnlUsd : ℚ
  totalFeesUsd : ℚ
  avgPnlPerTrade : ℚ
  avgPnlBps : ℚ
  bestTradePnl : ℚ
  worstTradePnl : ℚ
  totalNotional : ℚ
deriving DecidableEq, Repr

/-- An entry of `recent`, without the text of its time. -/
structure RecentTrade where
  asset : String
  route : String
  pnl : ℚ
  bps : ℚ
  isWin : Bool
deriving DecidableEq, Repr

namespace PnLEngine

/-- `record`: there is no row where the key is taken. -/
def record (rows : List TradeRow) (trade : ArbRecord) : Option (List TradeRow) :=
  Table.insert TradeRow.id rows trade.row

/-- What the bot does with its trades: a refused one is logged and dropped. -/
def recordAll (rows : List TradeRow) (trades : List ArbRecord) : List TradeRow :=
  trades.foldl (fun rows trade => (record rows trade).getD rows) rows

/-- What the database may answer to `SELECT * FROM arb_trades ORDER BY timestamp ASC`. -/
abbrev Answer (rows answer : List TradeRow) : Prop :=
  Table.Selection TradeRow.timestamp rows answer

def fetchAllTrades (answer : List TradeRow) : List ArbRecord := answer.map TradeRow.record

def cumulativePnl (answer : List TradeRow) : List (ℚ × ℚ) :=
  Table.cumulate 0 ((fetchAllTrades answer).map fun t => (t.timestamp, t.netPnl))

/-- The numbers of `summary`, of the trades it has fetched. -/
def summarize (trades : List ArbRecord) : Option TradeSummary :=
  if trades = [] then none
  else
    let count := trades.length
    let pnls := trades.map ArbRecord.netPnl
    some
      { totalTrades := count
        winRate := (pnls.filter (0 < ·)).length / count * 100
        totalPnlUsd := roundDp pnls.sum 2
        totalFeesUsd := roundDp (trades.map ArbRecord.totalFees).sum 2
        avgPnlPerTrade := roundDp (pnls.sum / count) 2
        avgPnlBps := roundDp ((trades.map ArbRecord.netPnlBps).sum / count) 1
        bestTradePnl := pnls.max?.getD 0
        worstTradePnl := pnls.min?.getD 0
        totalNotional := roundDp (trades.map ArbRecord.notional).sum 0 }

def summary (answer : List TradeRow) : Option TradeSummary := summarize (fetchAllTrades answer)

def recentTrade (t : ArbRecord) : RecentTrade where
  asset := (splitPair t.buyLeg.symbol).headD "?"
  route := "Buy " ++ t.buyLeg.venue.text ++ " / Sell " ++ t.sellLeg.venue.text
  pnl := roundDp t.netPnl 2
  bps := roundDp t.netPnlBps 1
  isWin := 0 < t.netPnl

def recent (answer : List TradeRow) (n : ℕ) : List RecentTrade :=
  ((fetchAllTrades answer).reverse.take n).map recentTrade

end PnLEngine

end ArbEngine
