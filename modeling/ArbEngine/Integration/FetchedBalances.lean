import ArbEngine.Exchange.PrivateApi
import ArbEngine.Integration.ArbBot

/-!
# The balances of an account (`exchange/src/client.rs`, `fetch_balance`)

What is asked of each exchange, and how its answer becomes the map the tracker is loaded from. The
texts of an answer are read with eight decimals. An entry that holds nothing is not inserted, and
one that cannot be read fails the whole call.
-/

namespace ArbEngine

namespace ExchangeClient

/-- `exchange::Balance` -/
structure Balance where
  free : TokenAmount
  locked : TokenAmount
  total : TokenAmount
deriving DecidableEq, Repr

/-- The method, the endpoint and the parameters of the request. -/
def balanceRequest : ExchangeType → String × String × String
  | .binance => ("GET", "/api/v3/account", "")
  | .bybit => ("GET", "/v5/account/wallet-balance", "accountType=UNIFIED")
  | .coinbase => ("GET", "/accounts", "")

def balanceHttpRequest (client : ExchangeClient) (crates : SigningCrates) (key : ApiKey)
    (stamp : RequestStamp) : Outcome HttpRequest :=
  let (method, endpoint, params) := balanceRequest client.exchangeType
  client.signedRequest crates key stamp method endpoint params

/-- What an entry of the answer says. -/
structure BalanceTexts where
  symbol : String
  free : String
  locked : String
deriving DecidableEq, Repr

def balanceTexts (exchangeType : ExchangeType) (item : Json) : BalanceTexts :=
  match exchangeType with
  | .binance | .bybit =>
      { symbol := ((item.index "asset").asStr.or (item.index "coin").asStr).getD ""
        free :=
          (((item.index "free").asStr.or (item.index "equity").asStr).or
            (item.index "walletBalance").asStr).getD "0"
        locked := (item.index "locked").asStr.getD "0" }
  | .coinbase =>
      { symbol := (item.index "currency").asStr.getD ""
        free := ((item.index "available_balance").index "value").asStr.getD "0"
        locked := ((item.index "hold").index "value").asStr.getD "0" }

/-- The entries of the answer; an answer without its array has none. -/
def balanceItems (exchangeType : ExchangeType) (data : Json) : List Json :=
  match exchangeType with
  | .binance => (data.index "balances").asArray.getD []
  | .bybit =>
      (((((data.index "result").index "list").getIdx? 0).getD .null).index "coin").asArray.getD []
  | .coinbase => (data.index "accounts").asArray.getD []

def readBalance (fromStr : String → Option ℚ) (texts : BalanceTexts) : Outcome Balance := do
  let free ← TokenAmount.fromHuman fromStr texts.free 8 (some texts.symbol)
  let locked ← TokenAmount.fromHuman fromStr texts.locked 8 (some texts.symbol)
  let total ← free.add locked
  return { free, locked, total }

/-- The loop over the entries; a later entry of an asset replaces an earlier one. -/
def readBalances (fromStr : String → Option ℚ) :
    (AList fun _ : String => Balance) → List BalanceTexts →
      Outcome (AList fun _ : String => Balance)
  | balances, [] => .ok balances
  | balances, texts :: rest => do
      let balance ← readBalance fromStr texts
      readBalances fromStr
        (if 0 < balance.total.raw then balances.insert texts.symbol balance else balances) rest

/-- `fetch_balance` once the answer is there. -/
def fetchBalance (client : ExchangeClient) (fromStr : String → Option ℚ) (data : Json) :
    Outcome (AList fun _ : String => Balance) :=
  readBalances fromStr ∅
    ((balanceItems client.exchangeType data).map (balanceTexts client.exchangeType))

end ExchangeClient

end ArbEngine
