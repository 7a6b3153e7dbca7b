import ArbEngine.Integration.RunLoop
import ArbEngine.Inventory.Pnl

/-!
# Persisting a trade (`integration/src/bin/arb_bot.rs`)

`persist_arb_record` builds the record of a completed trade from the context that came back
from the executor and from the settings of the pair. It has a fee model of its own.
-/

namespace ArbEngine

namespace ArbBot

/-- `signal.pair.replace('/', "_")` and the milliseconds of the clock. -/
def tradeId (pair : String) (now : ℚ) : String :=
  pair.map (fun c => if c = '/' then '_' else c) ++ "-" ++ toString ⌊now * 1000⌋

/-- The first and the second part of a pair; splitting never leaves the first one out. -/
def pairSymbols (pair : String) : String × String :=
  let parts := splitPair pair
  (parts.headD "BASE", (parts[1]?).getD "USDT")

/-- The record `persist_arb_record` hands to the database. -/
def persistArbRecord (b : ArbBot) (now : ℚ) (ctx : ExecutionContext) (signal : Signal) :
    ArbRecord :=
  let pairCfg := b.pairConfig signal.pair
  let tradeId := tradeId signal.pair now
  let fillSize := ctx.leg1FillSize.getD 0
  let leg1Price := ctx.leg1FillPrice.getD 0
  let leg2Price := ctx.leg2FillPrice.getD 0
  let cexFeeRate := pairCfg.feeStructure.cexTakerBps / 10000
  let cexFee := fillSize * leg1Price * cexFeeRate
  let (baseSym, quoteSym) := pairSymbols signal.pair
  let (buyVenue, sellVenue) :=
    match signal.direction with
    | .buyCexSellDex => (Venue.cex, Venue.wallet)
    | .buyDexSellCex => (Venue.wallet, Venue.cex)
  { id := tradeId
    timestamp := now
    -- The exchange's fee is charged to the buying leg, also where the wallet buys.
    buyLeg :=
      { id := tradeId ++ "-buy", timestamp := now, venue := buyVenue, symbol := signal.pair,
        side := .buy, amount := fillSize, price := leg1Price, fee := cexFee,
        feeAsset := quoteSym }
    sellLeg :=
      { id := tradeId ++ "-sell", timestamp := now, venue := sellVenue, symbol := signal.pair,
        side := .sell, amount := fillSize, price := leg2Price, fee := 0, feeAsset := baseSym }
    gasCostUsd := pairCfg.feeStructure.gasCostUsd }

end ArbBot

end ArbEngine
