import Mathlib.Logic.Relation
import ArbEngine.Executor.Legs
import ArbEngine.Integration.RunLoop

/-!
# What the sections of an iteration do

One lemma a section: which parts of the bot it can change, and what it writes to the trace.
An emergency sale writes its orders and nothing else; the health check and the syncs are made
of three kinds of `Move`; a tick ends without a trade, or stops the bot, or executes one signal
that has passed every check.
-/

namespace ArbEngine

open ArbBot

namespace BotRun

/-! ## The emergency sale -/

/-- The event is an order of an emergency sale. -/
def IsSale (e : BotEvent) : Prop := ∃ pair amount, e = .marketSell pair amount

/-- Whatever the balances, only sales are ordered. -/
theorem flattenOrdersBy_sales {toF64 : ℚ → F64} {balances : ExchangeBalances}
    {pairs : List String} {orders : List BotEvent}
    (h : flattenOrdersBy toF64 balances pairs = .ok orders) : ∀ e ∈ orders, IsSale e := by
  induction pairs generalizing orders with
  | nil =>
    cases h
    intro e he
    cases he
  | cons pair pairs ih =>
    obtain ⟨amount, _, h⟩ := Outcome.bind_eq_ok.mp h
    obtain ⟨rest, hrest, h⟩ := Outcome.bind_eq_ok.mp h
    cases h
    intro e he
    rcases List.mem_append.mp he with he | he
    · obtain ⟨a, _, rfl⟩ := List.mem_map.mp he
      exact ⟨pair, a, rfl⟩
    · exact ih hrest e he

/-- An emergency sale writes its orders. A dry run, or balances that could not be fetched, writes
    none. -/
theorem emergencyFlatten_ok {r s : BotRun} {fetched : Except String ExchangeBalances}
    (h : r.emergencyFlatten fetched = .ok s) :
    ∃ orders, (∀ e ∈ orders, IsSale e) ∧ s = { r with trace := r.trace ++ orders } := by
  have unchanged : s = r → ∃ orders, (∀ e ∈ orders, IsSale e) ∧
      s = { r with trace := r.trace ++ orders } := by
    intro hs
    refine ⟨[], by simp, ?_⟩
    rw [hs, List.append_nil]
  unfold emergencyFlatten emergencyFlattenBy at h
  by_cases hd : r.bot.dryRun = true
  · rw [if_pos hd] at h
    cases h
    exact unchanged rfl
  · rw [if_neg hd] at h
    cases fetched with
    | error e =>
      cases h
      exact unchanged rfl
    | ok balances =>
      obtain ⟨orders, horders, h⟩ := Outcome.bind_eq_ok.mp h
      cases h
      exact ⟨orders, flattenOrdersBy_sales horders, rfl⟩

/-- **What a stop does**: it writes its orders and clears `trading_active`. -/
theorem flattenAndPause_ok {r s : BotRun} {fetched : Except String ExchangeBalances}
    (h : r.flattenAndPause fetched = .ok s) :
    ∃ orders, (∀ e ∈ orders, IsSale e) ∧
      s = { r with bot := { r.bot with tradingActive := false }, trace := r.trace ++ orders } := by
  obtain ⟨t, ht, h⟩ := Outcome.bind_eq_ok.mp h
  obtain ⟨orders, horders, rfl⟩ := emergencyFlatten_ok ht
  cases h
  exact ⟨orders, horders, rfl⟩

/-! ## The syncs -/

/-- A sync replaces the inventory and nothing else. -/
theorem syncBinanceBalances_ok {b s : ArbBot} {fetched : Except String ExchangeBalances}
    (h : b.syncBinanceBalances fetched = .ok s) : ∃ inventory, s = b.withInventory inventory := by
  cases fetched with
  | error e => cases h
  | ok balances =>
    cases h
    exact ⟨_, rfl⟩

/-- The same for the wallet. -/
theorem syncWalletBalances_ok {b s : ArbBot} {eth : Except String U256}
    {balanceOf : Address → Option U256} (h : b.syncWalletBalances eth balanceOf = .ok s) :
    ∃ inventory, s = b.withInventory inventory := by
  cases eth with
  | error e => cases h
  | ok wei =>
    obtain ⟨inventory, _, h⟩ := Outcome.bind_eq_ok.mp h
    cases h
    exact ⟨inventory, rfl⟩

/-! ## The start -/

/-- **A bot that has just been made**: as it is built, with what the balances were loaded into,
    and its capital. -/
theorem new_eq_ok {config : BotConfig} {env : StartEnv} {b : ArbBot}
    (h : ArbBot.new config env = .ok b) :
    ∃ gasOracle inventory,
      b = ((ArbBot.build config env.walletAddress env.metrics gasOracle).withInventory
        inventory).startCapital config.strategy.capital env.mid := by
  obtain ⟨_, _, h⟩ := Outcome.bind_eq_ok.mp h
  obtain ⟨gasOracle, _, h⟩ := Outcome.bind_eq_ok.mp h
  obtain ⟨b₁, h₁, h⟩ := Outcome.bind_eq_ok.mp h
  obtain ⟨b₂, h₂, h⟩ := Outcome.bind_eq_ok.mp h
  obtain ⟨_, rfl⟩ := syncBinanceBalances_ok h₁
  obtain ⟨inventory, rfl⟩ := syncWalletBalances_ok h₂
  cases h
  exact ⟨gasOracle, inventory, rfl⟩

/-! ## Moves

The health check and the syncs are made of three things: they refresh what no flag and no limit
is about, they clear `trading_active`, and they report a mismatch and stop. -/

/-- The part of the bot the limits and the reports read. The inventory is not in it, nor the flags.
    -/
structure Settings where
  riskManager : RiskManager
  dryRun : Bool
  pairs : List String
  pairConfigs : String → Option PerPairConfig
  executorConfig : ExecutorConfig
  sessionPnl : ℚ
  cumulativePnl : ℚ
  dailyTrades : List ℚ

def settings (r : BotRun) : Settings where
  riskManager := r.bot.riskManager
  dryRun := r.bot.dryRun
  pairs := r.bot.pairs
  pairConfigs := r.bot.pairConfigs
  executorConfig := r.bot.executor.config
  sessionPnl := r.bot.sessionPnl
  cumulativePnl := r.bot.cumulativePnl
  dailyTrades := r.bot.dailyTrades

/-- An event of the watchdog. -/
inductive IsMismatch : BotEvent → Prop
  | dex (actual expected : ℚ) : IsMismatch (.dexMismatch actual expected)
  | cex (base : String) (actual expected : ℚ) : IsMismatch (.cexMismatch base actual expected)

/-- One of the three things. What a stop sells is not up to it: the mismatch is recorded, the
    switch is triggered, and the sale is that of any stop. -/
inductive Move : BotRun → BotRun → Prop
  | refreshed {r s : BotRun} (settings : s.settings = r.settings)
      (lastReset : s.lastReset = r.lastReset) (killSwitch : s.bot.killSwitch = r.bot.killSwitch)
      (tradingActive : s.bot.tradingActive = r.bot.tradingActive) (trace : s.trace = r.trace) :
      Move r s
  | paused (r : BotRun) : Move r { r with bot := { r.bot with tradingActive := false } }
  | stopped {r s : BotRun} {e : BotEvent} {reason : KillReason}
      {fetched : Except String ExchangeBalances} (mismatch : IsMismatch e)
      (h : ((r.record e).trigger reason).flattenAndPause fetched = .ok s) : Move r s

/-- Any number of moves. -/
def Moves : BotRun → BotRun → Prop := Relation.ReflTransGen Move

/-- None at all. -/
theorem Moves.refl (r : BotRun) : Moves r r := Relation.ReflTransGen.refl

/-- One. -/
theorem Moves.single {r s : BotRun} (h : Move r s) : Moves r s := Relation.ReflTransGen.single h

/-- One after another. -/
theorem Moves.trans {r s t : BotRun} (h : Moves r s) (h' : Moves s t) : Moves r t :=
  Relation.ReflTransGen.trans h h'

/-- The check of the wallet stops or does nothing. -/
theorem verifyDex_moves {r s : BotRun} {fetched : Except String ExchangeBalances} {actual : ℚ}
    (h : r.verifyDex fetched actual = .ok s) : Moves r s := by
  simp only [verifyDex] at h
  split at h
  · exact .single (.stopped (.dex _ _) h)
  · cases h
    exact .refl _

/-- The check of one pair on the exchange. -/
theorem verifyPair_moves {balances : ExchangeBalances} {r s : BotRun}
    {fetched : Except String ExchangeBalances} {pair : String}
    (h : verifyPair balances r fetched pair = .ok s) : Moves r s := by
  unfold verifyPair at h
  split at h
  · simp only at h
    split at h
    · exact .single (.stopped (.cex _ _ _) h)
    · cases h
      exact .refl _
  · cases h
    exact .refl _

/-- Pair after pair. The check goes on after a mismatch, so there can be several stops. -/
theorem verifyPairs_moves {balances : ExchangeBalances}
    {fetched : ℕ → Except String ExchangeBalances} {pairs : List String} {r s : BotRun} {i : ℕ}
    (h : verifyPairs balances fetched r i pairs = .ok s) : Moves r s := by
  induction pairs generalizing r i with
  | nil =>
    cases h
    exact .refl _
  | cons pair pairs ih =>
    obtain ⟨t, ht, h⟩ := Outcome.bind_eq_ok.mp h
    exact (verifyPair_moves ht).trans (ih h)

/-- Both checks, once both balances have been fetched. -/
theorem verifyBalances_moves {r s : BotRun} {env : VerifyEnv}
    (h : r.verifyBalances env = .ok s) : Moves r s := by
  unfold verifyBalances at h
  split at h
  · cases h
  · split at h
    · cases h
    · obtain ⟨actual, _, h⟩ := Outcome.bind_eq_ok.mp h
      obtain ⟨t, ht, h⟩ := Outcome.bind_eq_ok.mp h
      exact (verifyDex_moves ht).trans (verifyPairs_moves h)

/-- A check that fails with an error pauses. -/
theorem verifyOrPause_moves {r s : BotRun} {env : VerifyEnv}
    (h : r.verifyOrPause env = .ok s) : Moves r s := by
  unfold verifyOrPause at h
  split at h
  · rename_i t ht
    cases h
    exact verifyBalances_moves ht
  · cases h
    exact .single (.paused r)
  · cases h

/-- **The health check is a sequence of moves.** -/
theorem healthSection_moves {r s : BotRun} {env : HealthEnv}
    (h : r.healthSection env = .ok s) : Moves r s := by
  unfold healthSection at h
  split at h
  · obtain ⟨t, ht, h⟩ := Outcome.bind_eq_ok.mp h
    cases h
    have before : Moves r { r with bot := updateGasOracle r.bot env } :=
      .single (.refreshed rfl rfl rfl rfl rfl)
    refine (before.trans (verifyOrPause_moves ht)).trans ?_
    exact .single (.refreshed rfl rfl rfl rfl rfl)
  · cases h
    exact .refl _

/-- A sync replaces the inventory, or an error is recorded. -/
theorem orRecordError_moves {r : BotRun} {b : ArbBot} {now : ℚ} {o : Outcome ArbBot}
    (ok : ∀ t, o = .ok t → ∃ inventory, t = r.bot.withInventory inventory)
    (h : orRecordError r.bot now o = .ok b) : Moves r { r with bot := b } := by
  cases o with
  | ok t =>
    cases h
    obtain ⟨inventory, rfl⟩ := ok b rfl
    exact .single (.refreshed rfl rfl rfl rfl rfl)
  | err e =>
    cases h
    exact .single (.refreshed rfl rfl rfl rfl rfl)
  | panic => cases h

/-- **So are the two syncs.** -/
theorem syncSection_moves {r s : BotRun} {env : SyncEnv} (h : r.syncSection env = .ok s) :
    Moves r s := by
  obtain ⟨b, hb, h⟩ := Outcome.bind_eq_ok.mp h
  obtain ⟨b', hb', h⟩ := Outcome.bind_eq_ok.mp h
  cases h
  have cex : Moves r { r with bot := b } :=
    orRecordError_moves (fun _ => syncBinanceBalances_ok) hb
  have wallet : Moves { r with bot := b } { { r with bot := b } with bot := b' } :=
    orRecordError_moves (fun _ => syncWalletBalances_ok) hb'
  exact cex.trans wallet

/-! ## A tick -/

/-- The bot with the breaker a tick has asked and the prices it has seen. -/
def looked (r : BotRun) (circuitBreaker : CircuitBreaker) (validator : PreTradeValidator) :
    BotRun :=
  let executor := { r.bot.executor with circuitBreaker := circuitBreaker }
  { r with bot := { r.bot with executor := executor, validator := validator } }

/-- The checks a tick has made of the signal it executes, in their order. What they say is about
    the state at the head of the tick, but for the breaker and the prices that the tick itself has
    looked at. -/
structure Passed (sqrt : ℚ → ℚ) (r : BotRun) (env : TickEnv) (signal : Signal) : Prop where
  closed : (r.bot.executor.circuitBreaker.isOpen env.breaker).1 = false
  best : (r.bot.scorer.ranked r.bot.sharedInventory env.candidates).head? = some signal
  valid : PreTradeValidator.validateSignal signal env.ageNow = .ok ()
  feed : (r.bot.validator.validatePriceFeed signal.cexPrice signal.pair).1 = .ok ()
  risk : r.bot.riskManager.checkPreTrade signal = .ok ()
  gas : ∃ net, r.bot.gasCheck sqrt signal = .ok net
  live : r.bot.dryRun = false
  absolute : r.bot.absoluteCheck signal = .ok ()

/-- How a tick can end. A dry run ends like a tick in which nothing was found: the signal is logged
    and no more. -/
inductive TickEnd (sqrt : ℚ → ℚ) (r : BotRun) (env : TickEnv) : BotRun → Prop where
  | nothing (circuitBreaker : CircuitBreaker) (validator : PreTradeValidator) :
      TickEnd sqrt r env (r.looked circuitBreaker validator)
  | feedRefused (circuitBreaker : CircuitBreaker) (validator : PreTradeValidator) :
      TickEnd sqrt r env
        { r.looked circuitBreaker validator with
          bot := (r.looked circuitBreaker validator).bot.recordError env.feedError }
  | stopped {s : BotRun} (circuitBreaker : CircuitBreaker) (validator : PreTradeValidator)
      (reason : KillReason)
      (h : ((r.looked circuitBreaker validator).trigger reason).flattenAndPause env.flatten =
        .ok s) : TickEnd sqrt r env s
  | executed (circuitBreaker : CircuitBreaker) (validator : PreTradeValidator) (signal : Signal)
      (asked : (r.bot.executor.circuitBreaker.isOpen env.breaker).2 = circuitBreaker)
      (passed : Passed sqrt r env signal) :
      TickEnd sqrt r env ((r.looked circuitBreaker validator).executeSignal env signal)

/-- The last part of a tick, for a signal that has passed the other checks. -/
theorem tradeChecked_end {sqrt : ℚ → ℚ} {r s : BotRun} {env : TickEnv} {signal : Signal}
    (cb : CircuitBreaker) (v : PreTradeValidator)
    (asked : (r.bot.executor.circuitBreaker.isOpen env.breaker).2 = cb)
    (passed : r.bot.dryRun = false → r.bot.absoluteCheck signal = .ok () →
      Passed sqrt r env signal)
    (h : (r.looked cb v).tradeChecked env signal = .ok s) : TickEnd sqrt r env s := by
  unfold tradeChecked at h
  by_cases hd : (r.looked cb v).bot.dryRun = true
  · rw [if_pos hd] at h
    cases h
    exact .nothing cb v
  · rw [if_neg hd] at h
    by_cases ht : 2 ^ 32 ≤ (r.looked cb v).bot.riskManager.tradesThisHour
    · rw [if_pos ht] at h
      cases h
    · rw [if_neg ht] at h
      have live : r.bot.dryRun = false := Bool.not_eq_true _ ▸ hd
      cases ha : (r.looked cb v).bot.absoluteCheck signal with
      | error reason =>
        rw [ha] at h
        exact .stopped cb v _ h
      | ok u =>
        rw [ha] at h
        cases h
        exact .executed cb v signal asked (passed live ha)

/-- The part before it, check by check. -/
theorem tradeBest_end {sqrt : ℚ → ℚ} {r s : BotRun} {env : TickEnv} {signal : Signal}
    {cb : CircuitBreaker}
    (closed : (r.bot.executor.circuitBreaker.isOpen env.breaker).1 = false)
    (asked : (r.bot.executor.circuitBreaker.isOpen env.breaker).2 = cb)
    (best : (r.bot.scorer.ranked r.bot.sharedInventory env.candidates).head? = some signal)
    (h : (r.looked cb r.bot.validator).tradeBest sqrt env signal = .ok s) :
    TickEnd sqrt r env s := by
  unfold tradeBest at h
  cases hv : PreTradeValidator.validateSignal signal env.ageNow with
  | error e =>
    rw [hv] at h
    cases h
    exact .nothing cb _
  | ok u =>
    rw [hv] at h
    cases hf : r.bot.validator.validatePriceFeed signal.cexPrice signal.pair with
    | mk feed validator =>
      simp only [looked, hf] at h
      cases feed with
      | error e =>
        cases h
        exact .feedRefused cb validator
      | ok u' =>
        simp only at h
        cases hr : r.bot.riskManager.checkPreTrade signal with
        | error reason =>
          simp only [hr] at h
          by_cases hm : reason.mentionsDailyLossLimit = true
          · rw [if_pos hm] at h
            exact .stopped cb validator _ h
          · rw [if_neg hm] at h
            cases h
            exact .nothing cb validator
        | ok u'' =>
          simp only [hr] at h
          cases hg : r.bot.gasCheck sqrt signal with
          | error reason =>
            have hg' : (r.looked cb validator).bot.gasCheck sqrt signal = .error reason := hg
            simp only [looked] at hg'
            rw [hg'] at h
            cases h
            exact .nothing cb validator
          | ok net =>
            have hg' : (r.looked cb validator).bot.gasCheck sqrt signal = .ok net := hg
            simp only [looked] at hg'
            rw [hg'] at h
            refine tradeChecked_end cb validator asked ?_ h
            intro live absolute
            exact ⟨closed, best, hv, by rw [hf], hr, ⟨net, hg⟩, live, absolute⟩

/-- **How a tick ends.** -/
theorem tick_end {sqrt : ℚ → ℚ} {r s : BotRun} {env : TickEnv} (h : r.tick sqrt env = .ok s) :
    TickEnd sqrt r env s := by
  unfold tick at h
  cases hcb : r.bot.executor.circuitBreaker.isOpen env.breaker with
  | mk isOpen cb =>
    simp only [hcb] at h
    cases isOpen with
    | true =>
      cases h
      exact .nothing cb r.bot.validator
    | false =>
      simp only [Bool.false_eq_true, if_false] at h
      cases hbest : r.bot.scorer.ranked r.bot.sharedInventory env.candidates with
      | nil =>
        simp only [sharedInventory] at hbest
        simp only [sharedInventory, hbest] at h
        cases h
        exact .nothing cb r.bot.validator
      | cons best rest =>
        have hhead : (r.bot.scorer.ranked r.bot.sharedInventory env.candidates).head? =
            some best := by rw [hbest]; rfl
        simp only [sharedInventory] at hbest
        simp only [sharedInventory, hbest] at h
        exact tradeBest_end (by rw [hcb]) (by rw [hcb]) hhead h

end BotRun

/-! ## A small account

A bot in simulation mode with a hundred and fifty dollars: tokens on the exchange, ether and
tokens in the wallet, and a spread of 450 basis points on offer. -/

open BotRun

/-- The addresses of three tokens. -/
def sampleTokens : AList fun _ : String => Address :=
  [⟨"PEPE", 1#160⟩, ⟨"USDT", 2#160⟩, ⟨"WETH", 3#160⟩].toAList

/-- A configuration that trades in simulation mode and not as a dry run. -/
def sampleConfig : BotConfig where
  pairs := ["PEPE/USDT", "WETH/USDT"]
  simulation := true
  dryRun := false
  dexRouter := none
  tokenAddresses := sampleTokens
  pairConfigs pair :=
    if pair = "PEPE/USDT" then some PerPairConfig.pepeDefault
    else if pair = "WETH/USDT" then some PerPairConfig.ethDefault
    else none
  strategy :=
    { (default : StrategyConfig) with
      capital := { (default : CapitalConfig) with initialCapitalUsd := some 150 }
      riskLimits := default }

/-- A hundred dollars. -/
def sampleCexBalances : ExchangeBalances :=
  [⟨"USDT", ExchangeBalance.ofRaw "USDT" 10000000000#256 0#256⟩].toAList

/-- 0.05 ether. -/
def sampleWei : U256 := 50000000000000000#256

/-- A hundred dollars and 0.02 wrapped ether. -/
def sampleBalanceOf (token : Address) : Option U256 :=
  if token = 2#160 then some 100000000#256
  else if token = 3#160 then some 20000000000000000#256
  else some 0#256

/-- What start-up is answered. -/
def sampleStart : StartEnv where
  walletAddress := 0#160
  metrics := { executionAttempts := 0, executionSuccess := 0, executionFailure := 0,
               legCexFailures := 0, legDexFailures := 0, netPnl := [] }
  cexBalances := .ok sampleCexBalances
  ethBalance := .ok sampleWei
  balanceOf := sampleBalanceOf
  mid := fun _ => none

/-- The spread on offer, with the profit and the fees that the strategy reckons with. -/
def sampleSpread (now : ℚ) : Signal where
  signalId := "WETHUSDT_0a1b2c3d"
  pair := "WETH/USDT"
  direction := .buyCexSellDex
  cexPrice := 2000
  dexPrice := 2090
  spreadBps := 450
  size := 95 / 10000
  expectedGrossPnl := 855 / 1000
  expectedFees := 409 / 10000
  expectedNetPnl := 8141 / 10000
  score := 45 / 10
  timestamp := now
  expiry := now + 5
  inventoryOk := true
  withinLimits := true

/-- An iteration at the time `now` in which nothing happens but the spread on offer; the
    watchdog, where it is due, sees `wei`. -/
def sampleEnv (now : ℚ) (killFile : Bool) (wei : U256) : LoopEnv where
  kill := { now := now, errorsNow := now, killFile := killFile, stopCommand := false,
            flatten := .error "timeout", checked := now }
  reset := { now := now, done := now }
  health :=
    { now := now
      baseFee := .error "timeout"
      ethPrice := none
      verify := { cexBalances := .ok sampleCexBalances, ethBalance := .ok wei,
                  dexFlatten := .error "timeout", cexFlatten := fun _ => .error "timeout" }
      breaker := now
      done := now }
  sync := { cexBalances := .ok sampleCexBalances, cexError := now, ethBalance := .ok wei,
            balanceOf := sampleBalanceOf, walletError := now }
  tick :=
    { breaker := now
      candidates := [sampleSpread now]
      ageNow := now
      feedError := now
      flatten := .error "timeout"
      clock := { started := now, breaker := now, replay := now, validity := now, mark := now,
                 record := now, reopen := now, finished := now }
      legs := simulationLegs default 1 1 0
      traded := now
      executionError := now }
  tickError := now

/-- The bot these start-up answers make, at the head of its loop. -/
def sampleRun (envs : List LoopEnv) : Option BotRun :=
  (ArbBot.new sampleConfig sampleStart).toOption.bind fun b =>
    envs.foldlM (BotRun.loopStep fun _ => 0) (BotRun.start b 0 0 0)

end ArbEngine
