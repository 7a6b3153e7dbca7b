import ArbEngine.Inventory.Tracker

/-!
# Records of arbitrages (`inventory/src/pnl.rs`)

What goes into the database for a completed trade: its two legs and the gas, and the profit
computed from them.
-/

namespace ArbEngine

structure TradeLeg where
  id : String
  timestamp : ℚ
  venue : Venue
  symbol : String
  side : TradeSide
  amount : ℚ
  price : ℚ
  fee : ℚ
  feeAsset : String
deriving DecidableEq, Repr

structure ArbRecord where
  id : String
  timestamp : ℚ
  buyLeg : TradeLeg
  sellLeg : TradeLeg
  gasCostUsd : ℚ
deriving DecidableEq, Repr

namespace ArbRecord

def notional (r : ArbRecord) : ℚ := r.buyLeg.amount * r.buyLeg.price

def totalFees (r : ArbRecord) : ℚ := r.buyLeg.fee + r.sellLeg.fee + r.gasCostUsd

def grossPnl (r : ArbRecord) : ℚ := (r.sellLeg.price - r.buyLeg.price) * r.buyLeg.amount

def netPnl (r : ArbRecord) : ℚ := r.grossPnl - r.totalFees

def netPnlBps (r : ArbRecord) : ℚ :=
  if r.notional = 0 then 0 else r.netPnl / r.notional * 10000

end ArbRecord

end ArbEngine
