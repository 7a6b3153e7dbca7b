import ArbEngine.Proof.Integration.Iteration

/-!
# What an executed signal has passed

A tick returns early at each of its gates, so a call of `executor.execute` finds all of them
open at once: the breaker, the validator, the risk manager, the gas check, the dry-run flag
and the absolute limits. `Gates` is what that comes to in numbers.

One gate is weaker than it looks: the risk manager compares the drawdown only if the peak of
the capital is positive. The absolute limits ask for fifty dollars of capital, and the peak is
never below the capital (`Standing.peak`), so for an executed signal it has been compared.
-/

namespace ArbEngine

open ArbBot

namespace BotRun

/-- **The gates of a trade**, in numbers, at the tick that makes it. -/
structure Gates (limits : RiskLimits) (t : BotRun) (env : TickEnv) (signal : Signal) : Prop where
  live : t.bot.dryRun = false
  closed : (t.bot.executor.circuitBreaker.isOpen env.breaker).1 = false
  cexPrice : 0 < signal.cexPrice
  dexPrice : 0 < signal.dexPrice
  size : 0 < signal.size
  spread : signal.spreadBps ≤ 500
  value : signal.size * signal.cexPrice ≤
    min (min limits.maxTradeUsd (limits.maxTradePct * t.bot.riskManager.initialCapital)) 25
  dailyLoss : -min limits.maxDailyLoss 20 < t.bot.riskManager.dailyPnl
  capital : 50 ≤ t.bot.riskManager.currentCapital
  drawdown : 0 < t.bot.riskManager.peakCapital ∧
    (t.bot.riskManager.peakCapital - t.bot.riskManager.currentCapital) /
      t.bot.riskManager.peakCapital < limits.maxDrawdownPct
  streak : t.bot.riskManager.consecutiveLosses < limits.consecutiveLossLimit
  hourly : t.bot.riskManager.tradesThisHour < min limits.maxTradesPerHour 30

/-- **A signal that has passed a tick has passed the gates.** Each bound of the gates is the
    tighter of two: one of the configuration, and a constant of the last check. -/
theorem Passed.gates {sqrt : ℚ → ℚ} {config : BotConfig} {t : BotRun} {env : TickEnv}
    {signal : Signal} (standing : Standing config t) (passed : Passed sqrt t env signal) :
    Gates config.strategy.riskLimits t env signal := by
  obtain ⟨hcex, hdex, hspread, _, hsize⟩ := PreTradeValidator.validateSignal_eq_ok passed.valid
  obtain ⟨hvalue, hshare, hloss, hdraw, hstreak, hhour⟩ :=
    RiskManager.checkPreTrade_eq_ok.mp passed.risk
  obtain ⟨hvalue', hloss', hcapital, hhour'⟩ := safetyCheck_eq_ok passed.absolute
  -- the capital is above the absolute minimum, so there is a peak and the drawdown has been looked
  -- at
  have hpeak : 0 < t.bot.riskManager.peakCapital := by
    have hle : absoluteMinCapital ≤ t.bot.riskManager.peakCapital :=
      hcapital.trans standing.peak
    have hmin : (0 : ℚ) < absoluteMinCapital := by norm_num [absoluteMinCapital]
    exact hmin.trans_le hle
  rw [standing.limits] at hvalue hshare hloss hdraw hstreak hhour
  constructor
  case live => exact passed.live
  case closed => exact passed.closed
  case cexPrice => exact hcex
  case dexPrice => exact hdex
  case size => exact hsize
  case spread => exact hspread
  case value =>
    apply le_min
    · apply le_min hvalue
      rw [mul_comm config.strategy.riskLimits.maxTradePct]
      exact hshare
    · exact hvalue'
  case dailyLoss =>
    rw [neg_lt]
    apply lt_min
    · exact neg_lt.mp hloss
    · exact neg_lt.mp hloss'
  case capital => exact hcapital
  case drawdown =>
    refine ⟨hpeak, ?_⟩
    have hratio := hdraw hpeak
    rw [RiskManager.drawdown, if_pos hpeak] at hratio
    exact hratio
  case streak => exact hstreak
  case hourly => exact lt_min hhour hhour'

/-- A harmless trace holds no execution. -/
theorem executions_eq_nil {r : BotRun} (h : ∀ e ∈ r.trace, Harmless true e) :
    r.executions = [] := by
  have before : r.executions = { r with trace := [] }.executions :=
    executions_append (fun e he => (h e he).1) rfl
  rw [before]
  rfl

section Runs

variable {sqrt : ℚ → ℚ} {config : BotConfig} {start₀ : StartEnv} {b : ArbBot} {t₀ t₁ t₂ : ℚ}
  {envs : List LoopEnv} {r : BotRun}

/-- **Every executed trade has passed every gate**: from any reachable state an iteration
    executes nothing, or the one signal for which all gates are open at its tick; and a dry
    run has neither executed nor sold anything. -/
theorem executed_passed_every_gate (made : ArbBot.new config start₀ = .ok b)
    (run : Run (loopStep sqrt) (start b t₀ t₁ t₂) envs r) :
    (∀ env s, r.loopStep sqrt env = some s →
      ∃ t, r.beforeTick env = .ok t ∧
        (s.executions = r.executions ∨
          ∃ signal ctx, s.executions = r.executions ++ [(signal, ctx)] ∧
            Gates config.strategy.riskLimits t env.tick signal)) ∧
      (config.dryRun = true → r.executions = [] ∧ ∀ e ∈ r.trace, ¬ IsSale e) := by
  have standing : Standing config r := .run made run
  constructor
  · intro env s hs
    obtain ⟨t, ht, framed, ticked⟩ := loopStep_cases hs
    have same : t.executions = r.executions := by
      rw [framed.executions, dailyReset_executions]
    refine ⟨t, ht, ?_⟩
    cases ticked with
    | idle hf =>
      left
      rw [hf.executions, same]
    | traded signal _ passed executed =>
      right
      refine ⟨signal, (t.calling env.tick signal).1, ?_, passed.gates (standing.beforeTick ht)⟩
      rw [executed.executions, same]
  · intro hdry
    have harmless := standing.harmless hdry
    refine ⟨executions_eq_nil harmless, ?_⟩
    intro e he
    exact (harmless e he).2 rfl

end Runs

/-- The first iteration of the small account executes its signal, past every gate. -/
theorem sample_trade_passed_every_gate :
    ∃ b s t signal ctx, ArbBot.new sampleConfig sampleStart = .ok b ∧
      (start b 0 0 0).loopStep (fun _ => 0) (sampleEnv 1 false sampleWei) = some s ∧
      (start b 0 0 0).beforeTick (sampleEnv 1 false sampleWei) = .ok t ∧
      s.executions = [(signal, ctx)] ∧
      Gates sampleConfig.strategy.riskLimits t (sampleEnv 1 false sampleWei).tick signal := by
  have ran : (sampleRun [sampleEnv 1 false sampleWei]).map (fun r => r.executions.length) =
      some 1 := by
    decide +kernel
  obtain ⟨s, hs, one⟩ := Option.map_eq_some_iff.mp ran
  obtain ⟨b, made, run⟩ := sampleRun_inv hs
  obtain ⟨u, first, run⟩ := Option.bind_eq_some_iff.mp run
  cases run
  obtain ⟨t, ht, h⟩ := (executed_passed_every_gate made (.nil _)).1 _ _ first
  rcases h with same | ⟨signal, ctx, hexec, gates⟩
  · rw [same] at one
    cases one
  · exact ⟨b, s, t, signal, ctx, made, first, ht, hexec, gates⟩

end BotRun

end ArbEngine
