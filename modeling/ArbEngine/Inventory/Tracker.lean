import ArbEngine.Core.Types

/-!
# The inventory tracker (`inventory/src/tracker.rs`)

What the bot believes it holds, by venue and asset. The two venue maps are created by `new`
and never removed, so a venue is always present; the map of a venue is a partial function.
-/

namespace ArbEngine

inductive Venue where
  | cex
  | wallet
deriving DecidableEq, Repr

structure Balance where
  venue : Venue
  asset : String
  free : ℚ
  locked : ℚ
deriving DecidableEq, Repr

/-- The side of a trade; the source passes `"buy"`, and takes anything else for a sale. -/
inductive TradeSide where
  | buy
  | sell
deriving DecidableEq, Repr

structure InventoryTracker where
  walletAddress : Option Address
  balances : Venue → String → Option Balance

namespace InventoryTracker

def new (wallet : Option Address) : InventoryTracker where
  walletAddress := wallet
  balances := fun _ _ => none

/-- Replace the map of one venue. -/
def withVenue (t : InventoryTracker) (venue : Venue) (m : String → Option Balance) :
    InventoryTracker :=
  { t with balances := fun v => if v = venue then m else t.balances v }

def updateFromCex (t : InventoryTracker) (venue : Venue)
    (cexBalances : String → Option (ℚ × ℚ)) : InventoryTracker :=
  t.withVenue venue fun asset =>
    (cexBalances asset).map fun b =>
      { venue := venue, asset := asset, free := b.1, locked := b.2 }

/-- The wallet map after inserting these amounts; an amount without a symbol is skipped. -/
def walletMap (m : String → Option Balance) : List TokenAmount →
    Outcome (String → Option Balance)
  | [] => .ok m
  | amount :: rest =>
      match amount.symbol with
      | none => walletMap m rest
      | some symbol => do
          let free ← amount.toHuman
          walletMap (fun asset =>
            if asset = symbol then
              some { venue := .wallet, asset := symbol, free := free, locked := 0 }
            else m asset) rest

def updateFromWallet (t : InventoryTracker) (walletBalances : List TokenAmount) :
    Outcome InventoryTracker := do
  let m ← walletMap (fun _ => none) walletBalances
  return t.withVenue .wallet m

def getAvailable (t : InventoryTracker) (venue : Venue) (asset : String) : ℚ :=
  ((t.balances venue asset).map Balance.free).getD 0

def getBalance (t : InventoryTracker) (venue : Venue) (asset : String) : ℚ :=
  ((t.balances venue asset).map Balance.free).getD 0

/-- `entry(asset).or_insert(zero)` with `delta` added to its free amount. -/
def addFree (t : InventoryTracker) (venue : Venue) (asset : String) (delta : ℚ) :
    InventoryTracker :=
  let entry := (t.balances venue asset).getD { venue, asset, free := 0, locked := 0 }
  { t with
    balances := fun v a =>
      if v = venue ∧ a = asset then some { entry with free := entry.free + delta }
      else t.balances v a }

def recordTrade (t : InventoryTracker) (venue : Venue) (side : TradeSide)
    (baseAsset quoteAsset : String) (baseAmount quoteAmount fee : ℚ) (feeAsset : String) :
    InventoryTracker :=
  let t :=
    match side with
    | .buy => t.addFree venue baseAsset baseAmount
    | .sell => t.addFree venue baseAsset (-baseAmount)
  let t :=
    match side with
    | .buy => t.addFree venue quoteAsset (-quoteAmount)
    | .sell => t.addFree venue quoteAsset quoteAmount
  t.addFree venue feeAsset (-fee)

end InventoryTracker

end ArbEngine
