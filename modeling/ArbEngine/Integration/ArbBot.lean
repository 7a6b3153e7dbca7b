import Mathlib.Algebra.BigOperators.Group.Finset.Defs
import Mathlib.Data.List.AList
import ArbEngine.Executor.Checks
import ArbEngine.Executor.Engine
import ArbEngine.Executor.Limits
import ArbEngine.Lib.Binary64
import ArbEngine.Strategy.Scorer

/-!
# The bot and its balances (`integration/src/bin/arb_bot.rs`)

`ArbBot` with its start-up, the two functions that load the tracker, the watchdog that
compares the tracker with what the venues report, and the emergency sale.

The tracker is shared between the bot, the executor and the generator; there is one of it
here, the executor's. The exchange, the chain node, the file system, Telegram and the clock
are the environment: what they answer is an argument. A hash map is an association list, its
entries in the order in which the program happens to iterate over it.

Every order of an emergency sale, every mismatch and every executed signal is written to the
trace of a `BotRun`. Nothing reads the trace.
-/

namespace ArbEngine

/-! ## What the venues report -/

/-- A balance of the exchange. `fetch_balance` reads both amounts with 8 decimals. -/
structure ExchangeBalance where
  free : TokenAmount
  locked : TokenAmount
  free_decimals : free.decimals = 8
  locked_decimals : locked.decimals = 8

abbrev ExchangeBalances := AList fun _ : String => ExchangeBalance

namespace ExchangeBalance

/-- What `fetch_balance` makes of a free and a locked amount in units of `10⁻⁸`. -/
def ofRaw (symbol : String) (free locked : U256) : ExchangeBalance where
  free := { raw := free, decimals := 8, symbol := some symbol }
  locked := { raw := locked, decimals := 8, symbol := some symbol }
  free_decimals := rfl
  locked_decimals := rfl

end ExchangeBalance

/-- What `ChainClient::get_balance` makes of a balance in wei. -/
def ethAmount (wei : U256) : TokenAmount where
  raw := wei
  decimals := 18
  symbol := some "ETH"

/-- `s.contains(part)` -/
def textContains (s part : String) : Bool := s.toList.tails.any (part.toList.isPrefixOf ·)

/-- The decimals `sync_wallet_balances` reads a token with. -/
def walletDecimals (symbol : String) : ℕ :=
  if textContains symbol "USDT" || textContains symbol "USDC" then 6
  else if textContains symbol "BTC" then 8
  else 18

/-! ## The configuration -/

structure PerPairConfig where
  tradeSize : ℚ
  minSpreadBps : ℚ
  minProfitUsd : ℚ
  feeStructure : FeeStructure
  gasUnits : ℕ
deriving DecidableEq, Repr

def PerPairConfig.pepeDefault : PerPairConfig where
  tradeSize := 1250000
  minSpreadBps := 130
  minProfitUsd := 1 / 100
  feeStructure := { cexTakerBps := 10, dexSwapBps := 1, gasCostUsd := 7 / 100 }
  gasUnits := GasUnits.twoHopV3

def PerPairConfig.ethDefault : PerPairConfig where
  tradeSize := 26 / 10000
  minSpreadBps := 20
  minProfitUsd := 2 / 100
  feeStructure := { cexTakerBps := 10, dexSwapBps := 5, gasCostUsd := 2 / 100 }
  gasUnits := GasUnits.uniswapV3Swap

structure CapitalConfig where
  initialCapitalUsd : Option ℚ
  fallbackCapitalUsd : ℚ
deriving DecidableEq, Repr

structure GasConfig where
  initialGwei : ℚ
  alpha : ℚ
  ethPriceUsd : ℚ
deriving DecidableEq, Repr

instance : Inhabited CapitalConfig := ⟨{ initialCapitalUsd := none, fallbackCapitalUsd := 71 }⟩

instance : Inhabited GasConfig := ⟨{ initialGwei := 1 / 10, alpha := 1 / 10, ethPriceUsd := 3000 }⟩

structure StrategyConfig where
  capital : CapitalConfig
  scorer : ScorerConfig
  riskLimits : RiskLimits
  gas : GasConfig
deriving DecidableEq, Repr

/-- `strategy.yml`, and the built-in defaults. -/
instance : Inhabited StrategyConfig :=
  ⟨{ capital := default
     scorer := default
     riskLimits := { (default : RiskLimits) with
       maxTradeUsd := 10, maxPositionPerToken := 10, maxDailyLoss := 10 }
     gas := default }⟩

structure BotConfig where
  pairs : List String
  simulation : Bool
  dryRun : Bool
  dexRouter : Option String
  tokenAddresses : AList fun _ : String => Address
  pairConfigs : String → Option PerPairConfig
  strategy : StrategyConfig

/-! ## The bot -/

structure ArbBot where
  executor : Executor
  scorer : SignalScorer
  riskManager : RiskManager
  validator : PreTradeValidator
  killSwitch : AutoKillSwitch
  pairs : List String
  running : Bool
  tradingActive : Bool
  dryRun : Bool
  tokenAddresses : AList fun _ : String => Address
  lastTradeTime : Option ℚ
  sessionPnl : ℚ
  cumulativePnl : ℚ
  errorTimestamps : List ℚ
  dailyTrades : List ℚ
  pairConfigs : String → Option PerPairConfig
  gasOracle : GasOracle

namespace ArbBot

def sharedInventory (b : ArbBot) : InventoryTracker := b.executor.inventory

def withInventory (b : ArbBot) (inventory : InventoryTracker) : ArbBot :=
  { b with executor := { b.executor with inventory := inventory } }

def recordError (b : ArbBot) (now : ℚ) : ArbBot :=
  { b with errorTimestamps := b.errorTimestamps ++ [now] }

/-- `get_error_count_last_hour`: old time stamps leave the queue from the front. -/
def dropOldErrors (b : ArbBot) (now : ℚ) : ArbBot :=
  { b with errorTimestamps := b.errorTimestamps.dropWhile (· < now - 3600) }

/-! ## Loading the tracker -/

/-- The name the tracker knows an asset of the exchange under. -/
def internalAsset (asset : String) : String := if asset = "ETH" then "WETH" else asset

/-- One entry of the exchange's answer, inserted into the map built so far. -/
def mapBalance (m : String → Option (ℚ × ℚ)) (asset : String) (balance : ExchangeBalance) :
    String → Option (ℚ × ℚ) :=
  let free := balance.free.human
  let locked := balance.locked.human
  if free = 0 ∧ locked = 0 then m
  else fun a => if a = internalAsset asset then some (free, locked) else m a

def mappedBalances (rawBalances : ExchangeBalances) : String → Option (ℚ × ℚ) :=
  rawBalances.entries.foldl (fun m e => mapBalance m e.1 e.2) fun _ => none

def syncBinanceBalances (b : ArbBot) (fetched : Except String ExchangeBalances) :
    Outcome ArbBot :=
  match fetched with
  | .error e => .err e
  | .ok rawBalances =>
      .ok (b.withInventory (b.sharedInventory.updateFromCex .cex (mappedBalances rawBalances)))

/-- The balances of the configured tokens; one whose call fails is left out. -/
def tokenAmounts (tokenAddresses : AList fun _ : String => Address)
    (balanceOf : Address → Option U256) : List TokenAmount :=
  (tokenAddresses.entries.filter fun e => e.1 ≠ "ETH").filterMap fun e =>
    (balanceOf e.2).map fun raw =>
      { raw := raw, decimals := walletDecimals e.1, symbol := some e.1 }

def syncWalletBalances (b : ArbBot) (eth : Except String U256)
    (balanceOf : Address → Option U256) : Outcome ArbBot :=
  match eth with
  | .error e => .err e
  | .ok wei => do
      let walletAmounts := ethAmount wei :: tokenAmounts b.tokenAddresses balanceOf
      let inventory ← b.sharedInventory.updateFromWallet walletAmounts
      return b.withInventory inventory

/-! ## Start-up -/

def stableAssets : List String := ["USDT", "USDC", "USD", "DAI", "BUSD", "TUSD"]

/-- The assets that count for the equity: those of the pairs, and ETH. -/
def equityAssets (pairs : List String) : Finset String :=
  insert "ETH" ((pairs.flatMap splitPair).filter (· ≠ "")).toFinset

/-- `asset_price_usd`, `mid` being the middle of the exchange's book for `<asset>/USDT`. -/
def assetPriceUsd (mid : String → Option ℚ) (asset : String) : ℚ :=
  if asset ∈ stableAssets then 1 else (mid asset).getD 0

def totalEquityUsd (b : ArbBot) (mid : String → Option ℚ) : ℚ :=
  ∑ asset ∈ equityAssets b.pairs,
    (b.sharedInventory.getBalance .cex asset + b.sharedInventory.getBalance .wallet asset) *
      assetPriceUsd mid asset

/-- What the environment answers while the bot starts. -/
structure StartEnv where
  walletAddress : Address
  metrics : ExecutionMetrics
  cexBalances : Except String ExchangeBalances
  ethBalance : Except String U256
  balanceOf : Address → Option U256
  mid : String → Option ℚ

/-- The capital is fixed in the configuration, or derived from the balances, or the fallback. -/
def startCapital (b : ArbBot) (capital : CapitalConfig) (mid : String → Option ℚ) : ArbBot :=
  match capital.initialCapitalUsd with
  | some _ => b
  | none =>
      let total := b.totalEquityUsd mid
      { b with
        riskManager := b.riskManager.setCapital
          (if 0 < total then total else capital.fallbackCapitalUsd) }

/-- The bot before its balances are loaded. -/
def build (config : BotConfig) (walletAddress : Address) (metrics : ExecutionMetrics)
    (gasOracle : GasOracle) : ArbBot where
  executor :=
    Executor.new (InventoryTracker.new (some walletAddress))
      (some { (default : ExecutorConfig) with
        simulationMode := config.simulation
        useFlashbots := !config.simulation
        dexRouterAddress := config.dexRouter
        dexRouterV3 := config.dexRouter })
      metrics
  scorer := SignalScorer.new (some config.strategy.scorer)
  riskManager :=
    RiskManager.new config.strategy.riskLimits
      (config.strategy.capital.initialCapitalUsd.getD
        config.strategy.capital.fallbackCapitalUsd)
  validator := default
  killSwitch := AutoKillSwitch.new
  pairs := config.pairs
  running := false
  tradingActive := false
  dryRun := config.dryRun
  tokenAddresses := config.tokenAddresses
  lastTradeTime := none
  sessionPnl := 0
  cumulativePnl := 0
  errorTimestamps := []
  dailyTrades := []
  pairConfigs := config.pairConfigs
  gasOracle := gasOracle

def new (config : BotConfig) (env : StartEnv) : Outcome ArbBot := do
  Outcome.guardPanic ("WETH" ∈ config.tokenAddresses)
  let gasOracle ← Outcome.unwrap
    (GasOracle.new config.strategy.gas.initialGwei config.strategy.gas.alpha
      config.strategy.gas.ethPriceUsd)
  let b := build config env.walletAddress env.metrics gasOracle
  let b ← b.syncBinanceBalances env.cexBalances
  let b ← b.syncWalletBalances env.ethBalance env.balanceOf
  return b.startCapital config.strategy.capital env.mid

end ArbBot

/-! ## A run of the bot -/

inductive BotEvent where
  | executed (signal : Signal) (ctx : ExecutionContext) (steps : List ExecEvent)
  | marketSell (pair : String) (amount : TokenAmount)
  | dexMismatch (actual expected : ℚ)
  | cexMismatch (base : String) (actual expected : ℚ)
deriving DecidableEq, Repr

/-- The bot with the timers of its loop and what it has done. -/
structure BotRun where
  bot : ArbBot
  lastReset : ℚ
  lastHealthCheck : ℚ
  lastKillSwitchCheck : ℚ
  trace : List BotEvent

namespace BotRun

/-! ## The emergency sale -/

/-- The amount sold of the base asset of a pair: the whole units of what is free, once that is
    a double. `toF64` stands for the conversion, which another crate does and which may round
    up to the next whole number. -/
def flattenAmountBy (toF64 : ℚ → F64) (balances : ExchangeBalances) (pair : String) :
    Outcome (Option TokenAmount) :=
  match splitPair pair with
  | [baseAsset, _] =>
      match balances.lookup baseAsset with
      | some balance =>
          let rawAmount := toF64 balance.free.human
          let floorAmount := ⌊(rawAmount : ℚ)⌋
          if 0 < floorAmount then
            match TokenAmount.fromHumanWhole floorAmount.toNat 18 none with
            | .ok amount => .ok (some amount)
            | .err _ => .ok none
            | .panic => .panic
          else .ok none
      | none => .ok none
  | _ => .ok none

/-- The orders for these pairs; what the exchange answers to one changes nothing. -/
def flattenOrdersBy (toF64 : ℚ → F64) (balances : ExchangeBalances) :
    List String → Outcome (List BotEvent)
  | [] => .ok []
  | pair :: pairs => do
      let amount ← flattenAmountBy toF64 balances pair
      let orders ← flattenOrdersBy toF64 balances pairs
      return amount.toList.map (BotEvent.marketSell pair) ++ orders

def emergencyFlattenBy (toF64 : ℚ → F64) (r : BotRun)
    (fetched : Except String ExchangeBalances) : Outcome BotRun :=
  if r.bot.dryRun then .ok r
  else
    match fetched with
    | .error _ => .ok r
    | .ok balances => do
        let orders ← flattenOrdersBy toF64 balances r.bot.pairs
        return { r with trace := r.trace ++ orders }

/-- The sale with a conversion that rounds to the nearest double. -/
def emergencyFlatten (r : BotRun) (fetched : Except String ExchangeBalances) : Outcome BotRun :=
  r.emergencyFlattenBy F64.ofRat fetched

/-- `self.emergency_flatten().await; self.trading_active = false;` -/
def flattenAndPause (r : BotRun) (fetched : Except String ExchangeBalances) : Outcome BotRun := do
  let r ← r.emergencyFlatten fetched
  return { r with bot := { r.bot with tradingActive := false } }

def trigger (r : BotRun) (reason : KillReason) : BotRun :=
  { r with bot := { r.bot with killSwitch := r.bot.killSwitch.trigger reason } }

def record (r : BotRun) (event : BotEvent) : BotRun := { r with trace := r.trace ++ [event] }

/-! ## The watchdog -/

/-- The largest difference that is not a mismatch. -/
def mismatchThreshold : ℚ := 1 / 1000

def reportDexMismatch (r : BotRun) (fetched : Except String ExchangeBalances)
    (actual expected : ℚ) : Outcome BotRun :=
  ((r.record (.dexMismatch actual expected)).trigger .dexIntegrity).flattenAndPause fetched

def reportCexMismatch (r : BotRun) (fetched : Except String ExchangeBalances) (base : String)
    (actual expected : ℚ) : Outcome BotRun :=
  ((r.record (.cexMismatch base actual expected)).trigger .cexIntegrity).flattenAndPause fetched

def verifyDex (r : BotRun) (fetched : Except String ExchangeBalances) (actual : ℚ) :
    Outcome BotRun :=
  let expected := r.bot.sharedInventory.getBalance .wallet "ETH"
  if mismatchThreshold < |actual - expected| then r.reportDexMismatch fetched actual expected
  else .ok r

/-- The free amount the exchange reports under a name. -/
def reportedFree (balances : ExchangeBalances) (asset : String) : ℚ :=
  ((balances.lookup asset).map fun b => b.free.human).getD 0

def verifyPair (balances : ExchangeBalances) (r : BotRun)
    (fetched : Except String ExchangeBalances) (pair : String) : Outcome BotRun :=
  match splitPair pair with
  | [base, _] =>
      let actual := reportedFree balances base
      let expected := r.bot.sharedInventory.getBalance .cex base
      if mismatchThreshold < |actual - expected| then
        r.reportCexMismatch fetched base actual expected
      else .ok r
  | _ => .ok r

/-- The loop over the pairs; `fetched i` answers a sale for the pair number `i`. -/
def verifyPairs (balances : ExchangeBalances) (fetched : ℕ → Except String ExchangeBalances) :
    BotRun → ℕ → List String → Outcome BotRun
  | r, _, [] => .ok r
  | r, i, pair :: pairs => do
      let r ← verifyPair balances r (fetched i) pair
      verifyPairs balances fetched r (i + 1) pairs

/-- What the environment answers to a watchdog run. -/
structure VerifyEnv where
  cexBalances : Except String ExchangeBalances
  ethBalance : Except String U256
  dexFlatten : Except String ExchangeBalances
  cexFlatten : ℕ → Except String ExchangeBalances

def verifyBalances (r : BotRun) (env : VerifyEnv) : Outcome BotRun :=
  match env.cexBalances with
  | .error e => .err e
  | .ok actualCexMap =>
      match env.ethBalance with
      | .error e => .err e
      | .ok wei => do
          let actualEthDex ← (ethAmount wei).toHuman
          let r ← r.verifyDex env.dexFlatten actualEthDex
          verifyPairs actualCexMap env.cexFlatten r 0 r.bot.pairs

end BotRun

end ArbEngine
