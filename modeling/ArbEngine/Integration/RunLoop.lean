import ArbEngine.Integration.ArbBot

/-!
# The loop of the bot (`integration/src/bin/arb_bot.rs`)

`ArbBot::run` repeats one body, `loopStep`: the kill-switch section every ten seconds, the
daily reset, the health check every sixty seconds, the two syncs, and a tick while trading is
active. One label of the step is everything the environment does during one iteration: clock
readings, the kill file, the stop command, answers of the exchange and of the chain node, the
signals of the generator and the answers of the trade legs. `none` is a panic.

Elapsed times are differences of clock readings. The balance snapshots and the messages that
the loop sends change nothing that the loop reads, and are not here.
-/

namespace ArbEngine

/-! ## A tick -/

/-- What the environment answers during a tick. -/
structure TickEnv where
  breaker : ℚ
  candidates : List Signal
  ageNow : ℚ
  feedError : ℚ
  flatten : Except String ExchangeBalances
  clock : ExecClock
  legs : Legs
  traded : ℚ
  executionError : ℚ

namespace ArbBot

def pairConfig (b : ArbBot) (pair : String) : PerPairConfig :=
  (b.pairConfigs pair).getD PerPairConfig.pepeDefault

/-- The gas check of a signal, on what it is expected to earn before gas. -/
def gasCheck (sqrt : ℚ → ℚ) (b : ArbBot) (signal : Signal) : Except GasRefusal ℚ :=
  let pairCfg := b.pairConfig signal.pair
  safetyCheckWithGas sqrt (signal.expectedNetPnl + pairCfg.feeStructure.gasCostUsd)
    pairCfg.gasUnits b.gasOracle

def absoluteCheck (b : ArbBot) (signal : Signal) : Except SafetyRefusal Unit :=
  safetyCheck (signal.size * signal.cexPrice) b.riskManager.dailyPnl b.riskManager.currentCapital
    b.riskManager.tradesThisHour

/-- The bot after a call of `execute` that ended with this context. -/
def bookTrade (b : ArbBot) (env : TickEnv) (signal : Signal) (ctx : ExecutionContext)
    (executor : Executor) : ArbBot :=
  let success : Bool := ctx.state = .done
  let pnl := ctx.actualNetPnl.getD 0
  let b :=
    { b with
      executor := executor
      scorer := b.scorer.recordResult signal.pair success
      riskManager := b.riskManager.recordTrade pnl
      sessionPnl := b.sessionPnl + pnl
      cumulativePnl := b.cumulativePnl + pnl
      dailyTrades := b.dailyTrades ++ [pnl] }
  if success then { b with lastTradeTime := some env.traded }
  else b.recordError env.executionError

end ArbBot

namespace BotRun

def executeSignal (r : BotRun) (env : TickEnv) (signal : Signal) : BotRun :=
  let (ctx, executor, steps) := r.bot.executor.execute env.clock env.legs signal
  { r with bot := r.bot.bookTrade env signal ctx executor }.record (.executed signal ctx steps)

/-- The part of a tick after the checks that only look: a dry run ends here, the absolute
    limits stop the bot, and what is left is executed. -/
def tradeChecked (r : BotRun) (env : TickEnv) (signal : Signal) : Outcome BotRun :=
  if r.bot.dryRun then .ok r
  -- `trades_this_hour.try_into().unwrap()`
  else if 2 ^ 32 ≤ r.bot.riskManager.tradesThisHour then .panic
  else
    match r.bot.absoluteCheck signal with
    | .error reason => (r.trigger (.absoluteSafety reason)).flattenAndPause env.flatten
    | .ok _ => .ok (r.executeSignal env signal)

def tradeBest (sqrt : ℚ → ℚ) (r : BotRun) (env : TickEnv) (signal : Signal) : Outcome BotRun :=
  match PreTradeValidator.validateSignal signal env.ageNow with
  | .error _ => .ok r
  | .ok _ =>
      let (feed, validator) := r.bot.validator.validatePriceFeed signal.cexPrice signal.pair
      let r := { r with bot := { r.bot with validator := validator } }
      match feed with
      | .error _ => .ok { r with bot := r.bot.recordError env.feedError }
      | .ok _ =>
          match r.bot.riskManager.checkPreTrade signal with
          | .error reason =>
              if reason.mentionsDailyLossLimit then
                (r.trigger (.riskBlocked reason)).flattenAndPause env.flatten
              else .ok r
          | .ok _ =>
              match r.bot.gasCheck sqrt signal with
              | .error _ => .ok r
              | .ok _ => r.tradeChecked env signal

def tick (sqrt : ℚ → ℚ) (r : BotRun) (env : TickEnv) : Outcome BotRun :=
  let (isOpen, circuitBreaker) := r.bot.executor.circuitBreaker.isOpen env.breaker
  let executor := { r.bot.executor with circuitBreaker := circuitBreaker }
  let r := { r with bot := { r.bot with executor := executor } }
  if isOpen then .ok r
  else
    match r.bot.scorer.ranked r.bot.sharedInventory env.candidates with
    | [] => .ok r
    | best :: _ => r.tradeBest sqrt env best

/-! ## The sections of an iteration -/

/-- What the environment answers in the kill-switch section. -/
structure KillEnv where
  now : ℚ
  errorsNow : ℚ
  killFile : Bool
  stopCommand : Bool
  flatten : Except String ExchangeBalances
  checked : ℚ

/-- Trading is active: three reasons to stop it. -/
def stopSection (r : BotRun) (env : KillEnv) : Outcome BotRun :=
  if env.killFile then r.flattenAndPause env.flatten
  else if env.stopCommand then r.flattenAndPause env.flatten
  else
    let (stop, killSwitch) :=
      r.bot.killSwitch.check r.bot.riskManager r.bot.errorTimestamps.length
    let r := { r with bot := { r.bot with killSwitch := killSwitch } }
    if stop then r.flattenAndPause env.flatten else .ok r

/-- What the resume branch asks: the switch is not among it. -/
def conditionsCleared (b : ArbBot) (env : KillEnv) : Bool :=
  !env.killFile && !env.stopCommand && b.errorTimestamps.length = 0 &&
    -b.riskManager.limits.maxDailyLoss < b.riskManager.dailyPnl

def killSwitchDue (r : BotRun) (env : KillEnv) : Bool := 10 ≤ env.now - r.lastKillSwitchCheck

/-- What the section does with `trading_active`. -/
def stopOrResume (r : BotRun) (env : KillEnv) : Outcome BotRun :=
  if r.bot.tradingActive then r.stopSection env
  else if conditionsCleared r.bot env then
    .ok { r with bot := { r.bot with tradingActive := true } }
  else .ok r

def killSwitchSection (r : BotRun) (env : KillEnv) : Outcome BotRun :=
  if r.killSwitchDue env then do
    let r ← { r with bot := r.bot.dropOldErrors env.errorsNow }.stopOrResume env
    return { r with lastKillSwitchCheck := env.checked }
  else .ok r

structure ResetEnv where
  now : ℚ
  done : ℚ

def dailyReset (r : BotRun) (env : ResetEnv) : BotRun :=
  if 86400 ≤ env.now - r.lastReset then
    { r with
      bot := { r.bot with riskManager := r.bot.riskManager.resetDaily
                          sessionPnl := 0
                          dailyTrades := [] }
      lastReset := env.done }
  else r

/-- What the environment answers in the health check; `baseFee` is in wei. -/
structure HealthEnv where
  now : ℚ
  baseFee : Except String U128
  ethPrice : Option ℚ
  verify : VerifyEnv
  breaker : ℚ
  done : ℚ

def updateGasOracle (b : ArbBot) (env : HealthEnv) : ArbBot :=
  let oracle :=
    match env.baseFee with
    | .ok fee => b.gasOracle.update (fee.toNat / 10 ^ 9)
    | .error _ => b.gasOracle
  { b with
    gasOracle :=
      match env.ethPrice with
      | some price => oracle.setEthPrice price
      | none => oracle }

/-- `if let Err(e) = self.verify_balances().await { self.trading_active = false; }` -/
def verifyOrPause (r : BotRun) (env : VerifyEnv) : Outcome BotRun :=
  match r.verifyBalances env with
  | .ok r => .ok r
  | .err _ => .ok { r with bot := { r.bot with tradingActive := false } }
  | .panic => .panic

def healthSection (r : BotRun) (env : HealthEnv) : Outcome BotRun :=
  if 60 ≤ env.now - r.lastHealthCheck then do
    let r ← { r with bot := updateGasOracle r.bot env }.verifyOrPause env.verify
    -- Asking for the breaker to report it can reset it.
    let circuitBreaker := (r.bot.executor.circuitBreaker.isOpen env.breaker).2
    let executor := { r.bot.executor with circuitBreaker := circuitBreaker }
    return { r with bot := { r.bot with executor := executor }, lastHealthCheck := env.done }
  else .ok r

/-- What the environment answers to the two syncs. -/
structure SyncEnv where
  cexBalances : Except String ExchangeBalances
  cexError : ℚ
  ethBalance : Except String U256
  balanceOf : Address → Option U256
  walletError : ℚ

/-- A call whose error is recorded and otherwise ignored. -/
def orRecordError (b : ArbBot) (now : ℚ) : Outcome ArbBot → Outcome ArbBot
  | .ok b' => .ok b'
  | .err _ => .ok (b.recordError now)
  | .panic => .panic

def syncSection (r : BotRun) (env : SyncEnv) : Outcome BotRun := do
  let b ← orRecordError r.bot env.cexError (r.bot.syncBinanceBalances env.cexBalances)
  let b ← orRecordError b env.walletError (b.syncWalletBalances env.ethBalance env.balanceOf)
  return { r with bot := b }

/-! ## The loop -/

/-- What the environment does during one iteration. -/
structure LoopEnv where
  kill : KillEnv
  reset : ResetEnv
  health : HealthEnv
  sync : SyncEnv
  tick : TickEnv
  tickError : ℚ

def tickSection (sqrt : ℚ → ℚ) (r : BotRun) (env : LoopEnv) : Outcome BotRun :=
  if r.bot.tradingActive then
    match r.tick sqrt env.tick with
    | .ok r => .ok r
    | .err _ => .ok { r with bot := r.bot.recordError env.tickError }
    | .panic => .panic
  else .ok r

/-- Everything an iteration does before its tick. -/
def beforeTick (r : BotRun) (env : LoopEnv) : Outcome BotRun := do
  let r ← r.killSwitchSection env.kill
  let r := r.dailyReset env.reset
  let r ← r.healthSection env.health
  r.syncSection env.sync

/-- One iteration. -/
def iteration (sqrt : ℚ → ℚ) (r : BotRun) (env : LoopEnv) : Outcome BotRun := do
  let r ← r.killSwitchSection env.kill
  let r := r.dailyReset env.reset
  let r ← r.healthSection env.health
  let r ← r.syncSection env.sync
  r.tickSection sqrt env

/-- The body of `while self.running`. -/
def loopStep (sqrt : ℚ → ℚ) (r : BotRun) (env : LoopEnv) : Option BotRun :=
  if r.bot.running then
    match r.iteration sqrt env with
    | .ok r => some r
    | .err _ => none
    | .panic => none
  else none

/-- The state in which `run` enters its loop; the timers start at these readings. -/
def start (b : ArbBot) (lastReset lastHealthCheck lastKillSwitchCheck : ℚ) : BotRun where
  bot := { b with running := true, tradingActive := true }
  lastReset := lastReset
  lastHealthCheck := lastHealthCheck
  lastKillSwitchCheck := lastKillSwitchCheck
  trace := []

end BotRun

end ArbEngine
