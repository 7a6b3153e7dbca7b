import Mathlib.Data.Finset.Sort
import Mathlib.Data.String.Basic
import ArbEngine.Integration.ArbBot
import ArbEngine.Inventory.TradeStore
import ArbEngine.Lib.Binary64

/-!
# Equity snapshots (`integration/src/bin/arb_bot.rs`, `inventory/src/pnl.rs`)

`compute_equity_breakdown` values what the tracker has of each asset of the pairs, venue by venue,
and `record_balance_snapshot` puts the sums into `balance_snapshots`. The balances are `Decimal`s;
they are read as doubles, valued and added up as doubles, and the sums are written back as
`Decimal`s. How the library reads and writes is a parameter of the model (`DecimalFloats`); what
lies between is double arithmetic.

The rows of the table have a serial number for a key, so none is ever refused. Its breakdown is
written as text; here it is the list of its entries, in the order of the assets.
-/

namespace ArbEngine

/-- `Decimal::to_f64` and `Decimal::from_f64`, of numbers that are neither infinite nor none. -/
structure DecimalFloats where
  toF64 : ℚ → F64
  fromF64 : F64 → ℚ

/-- An entry of the breakdown; its numbers are doubles. -/
structure EquityEntry where
  asset : String
  priceUsd : F64
  cexAmount : F64
  walletAmount : F64
  cexUsd : F64
  walletUsd : F64

structure EquityBreakdown where
  cexUsd : F64
  walletUsd : F64
  totalUsd : F64
  breakdown : List EquityEntry

/-- A row of `balance_snapshots`. -/
structure BalanceSnapshot where
  timestamp : ℚ
  cexUsd : ℚ
  walletUsd : ℚ
  totalUsd : ℚ
  breakdown : List EquityEntry

/-- Whether there is anything of the asset. -/
def EquityEntry.listed (entry : EquityEntry) : Bool :=
  (entry.cexAmount : ℚ) ≠ 0 ∨ (entry.walletAmount : ℚ) ≠ 0

namespace ArbBot

/-- `equity_assets`, in the order of a `BTreeSet`. -/
def equityAssetList (pairs : List String) : List String := (equityAssets pairs).sort (· ≤ ·)

/-- `asset_price_usd`, as it is computed: one for a stable asset, nothing where there is no book. -/
def assetPriceF64 (toF64 : ℚ → F64) (mid : String → Option ℚ) (asset : String) : F64 :=
  if asset ∈ stableAssets then 1 else ((mid asset).map toF64).getD 0

def equityEntry (toF64 : ℚ → F64) (b : ArbBot) (mid : String → Option ℚ) (asset : String) :
    EquityEntry :=
  let price := assetPriceF64 toF64 mid asset
  let cexAmt := toF64 (b.sharedInventory.getBalance .cex asset)
  let walletAmt := toF64 (b.sharedInventory.getBalance .wallet asset)
  { asset
    priceUsd := price
    cexAmount := cexAmt
    walletAmount := walletAmt
    cexUsd := cexAmt * price
    walletUsd := walletAmt * price }

/-- One turn of the loop over the assets; an asset of which there is nothing has no entry. -/
def addEquity (sums : EquityBreakdown) (entry : EquityEntry) : EquityBreakdown :=
  { sums with
    cexUsd := sums.cexUsd + entry.cexUsd
    walletUsd := sums.walletUsd + entry.walletUsd
    breakdown := if entry.listed then sums.breakdown ++ [entry] else sums.breakdown }

def computeEquityBreakdown (toF64 : ℚ → F64) (b : ArbBot) (mid : String → Option ℚ) :
    EquityBreakdown :=
  let sums := ((equityAssetList b.pairs).map (equityEntry toF64 b mid)).foldl addEquity
    { cexUsd := 0, walletUsd := 0, totalUsd := 0, breakdown := [] }
  { sums with totalUsd := sums.cexUsd + sums.walletUsd }

/-- What is inserted, if snapshots are enabled. -/
def recordBalanceSnapshot (f : DecimalFloats) (b : ArbBot) (enabled : Bool) (now : ℚ)
    (mid : String → Option ℚ) (rows : List BalanceSnapshot) : List BalanceSnapshot :=
  if enabled then
    let equity := computeEquityBreakdown f.toF64 b mid
    rows ++
      [{ timestamp := storedTime now
         cexUsd := f.fromF64 equity.cexUsd
         walletUsd := f.fromF64 equity.walletUsd
         totalUsd := f.fromF64 equity.totalUsd
         breakdown := equity.breakdown }]
  else rows

end ArbBot

/-- What the database may answer to `SELECT .. ORDER BY timestamp DESC LIMIT 1`. -/
def PnLEngine.LatestSnapshot (rows : List BalanceSnapshot) : Option BalanceSnapshot → Prop
  | none => rows = []
  | some row => row ∈ rows ∧ ∀ row' ∈ rows, row'.timestamp ≤ row.timestamp

/-! ## Fills and snapshots -/

/-- A leg that has been booked. -/
structure BookedFill where
  venueStr : String
  signal : Signal
  filled : ℚ
  price : ℚ

inductive EquityEvent where
  | fill (fill : BookedFill)
  | snapshot (now : ℚ) (mid : String → Option ℚ)

namespace ArbBot

def bookFill (b : ArbBot) (fill : BookedFill) : ArbBot :=
  b.withInventory
    (updateInventory b.sharedInventory fill.venueStr fill.signal fill.filled fill.price)

def equityStep (f : DecimalFloats) (s : ArbBot × List BalanceSnapshot) :
    EquityEvent → ArbBot × List BalanceSnapshot
  | .fill fill => (s.1.bookFill fill, s.2)
  | .snapshot now mid => (s.1, recordBalanceSnapshot f s.1 true now mid s.2)

/-- Fills and snapshots as they come, from an empty table. -/
def equityRun (f : DecimalFloats) (b : ArbBot) (events : List EquityEvent) :
    ArbBot × List BalanceSnapshot :=
  events.foldl (equityStep f) (b, [])

end ArbBot

end ArbEngine
