import ArbEngine.Proof.Executor.Contexts
import ArbEngine.Proof.Integration.KillSwitch

/-!
# One iteration, for the limits

An iteration is everything up to the tick (`beforeTick`) and then the tick. Of the bot, the
limits read the risk manager and the settings; the only thing before the tick that changes
them is the daily reset (`beforeTick_framed`), and the only thing a tick does to them is to
record the one signal it executes (`loopStep_cases`). No theorem about the limits has to look
at the sections again.
-/

namespace ArbEngine

open ArbBot

namespace BotRun

/-- An iteration is what comes before the tick, and the tick. -/
theorem iteration_eq_ok {sqrt : ℚ → ℚ} {r s : BotRun} {env : LoopEnv} :
    r.iteration sqrt env = .ok s ↔ ∃ t, r.beforeTick env = .ok t ∧ t.tickSection sqrt env = .ok s := by
  unfold iteration beforeTick
  constructor
  · intro h
    obtain ⟨t₁, h₁, h⟩ := Outcome.bind_eq_ok.mp h
    obtain ⟨t₂, h₂, h⟩ := Outcome.bind_eq_ok.mp h
    obtain ⟨t₃, h₃, h⟩ := Outcome.bind_eq_ok.mp h
    refine ⟨t₃, ?_, h⟩
    exact Outcome.bind_eq_ok.mpr ⟨t₁, h₁, Outcome.bind_eq_ok.mpr ⟨t₂, h₂, h₃⟩⟩
  · rintro ⟨t₃, ht, h⟩
    obtain ⟨t₁, h₁, ht⟩ := Outcome.bind_eq_ok.mp ht
    obtain ⟨t₂, h₂, h₃⟩ := Outcome.bind_eq_ok.mp ht
    exact Outcome.bind_eq_ok.mpr ⟨t₁, h₁, Outcome.bind_eq_ok.mpr ⟨t₂, h₂,
      Outcome.bind_eq_ok.mpr ⟨t₃, h₃, h⟩⟩⟩

/-! ## What the limits read -/

/-- An event that is no execution, and no order either if the run is a dry one. A dry run reports
    mismatches as any other does. -/
def Harmless (dryRun : Bool) (e : BotEvent) : Prop :=
  (∀ signal ctx steps, e ≠ .executed signal ctx steps) ∧ (dryRun = true → ¬ IsSale e)

/-- What happened between the two states concerns no limit: the settings are the same, the daily
    reset has not happened, and only harmless events were recorded. -/
structure Framed (r s : BotRun) : Prop where
  settings : s.settings = r.settings
  lastReset : s.lastReset = r.lastReset
  trace : ∃ events, s.trace = r.trace ++ events ∧ ∀ e ∈ events, Harmless r.bot.dryRun e

/-- Where nothing of it has changed. -/
theorem Framed.of_eq {r s : BotRun} (hs : s.settings = r.settings)
    (hl : s.lastReset = r.lastReset) (ht : s.trace = r.trace) : Framed r s := by
  refine ⟨hs, hl, [], ?_, ?_⟩
  · rw [ht, List.append_nil]
  · intro e he
    cases he

/-- Nothing happened. -/
theorem Framed.refl (r : BotRun) : Framed r r := .of_eq rfl rfl rfl

/-- The risk manager is one of the settings. -/
theorem Framed.riskManager {r s : BotRun} (h : Framed r s) :
    s.bot.riskManager = r.bot.riskManager := congrArg Settings.riskManager h.settings

theorem Framed.dryRun {r s : BotRun} (h : Framed r s) : s.bot.dryRun = r.bot.dryRun :=
  congrArg Settings.dryRun h.settings

/-- One after another. -/
theorem Framed.trans {r s t : BotRun} (h : Framed r s) (h' : Framed s t) : Framed r t := by
  obtain ⟨es, hes, harm⟩ := h.trace
  obtain ⟨es', hes', harm'⟩ := h'.trace
  refine ⟨h'.settings.trans h.settings, h'.lastReset.trans h.lastReset, es ++ es', ?_, ?_⟩
  · rw [hes', hes, List.append_assoc]
  · intro e he
    rcases List.mem_append.mp he with he | he
    · exact harm e he
    · rw [← h.dryRun]
      exact harm' e he

/-- Harmless events are no executions. -/
theorem Framed.executions {r s : BotRun} (h : Framed r s) : s.executions = r.executions := by
  obtain ⟨events, hevents, harmless⟩ := h.trace
  exact executions_append (fun e he => (harmless e he).1) hevents

/-! ## The sections -/

/-- A stop sells, unless the run is a dry one. -/
theorem flattenAndPause_framed {r s : BotRun} {fetched : Except String ExchangeBalances}
    (h : r.flattenAndPause fetched = .ok s) : Framed r s := by
  by_cases hdry : r.bot.dryRun = true
  · obtain ⟨t, ht, h⟩ := Outcome.bind_eq_ok.mp h
    unfold emergencyFlatten emergencyFlattenBy at ht
    rw [if_pos hdry] at ht
    cases ht
    cases h
    exact .of_eq rfl rfl rfl
  · obtain ⟨orders, horders, rfl⟩ := flattenAndPause_ok h
    refine ⟨rfl, rfl, orders, rfl, ?_⟩
    intro e he
    obtain ⟨pair, amount, rfl⟩ := horders e he
    refine ⟨?_, ?_⟩
    · intro signal ctx steps heq
      cases heq
    · intro hyes
      exact absurd hyes hdry

/-- A stop that is triggered sells as one that is decided on. -/
theorem trigger_framed {r s : BotRun} {fetched : Except String ExchangeBalances}
    {reason : KillReason} (h : (r.trigger reason).flattenAndPause fetched = .ok s) : Framed r s := by
  have triggered : Framed r (r.trigger reason) := .of_eq rfl rfl rfl
  exact triggered.trans (flattenAndPause_framed h)

/-- A mismatch that is reported trades nothing. -/
theorem harmless_of_mismatch {e : BotEvent} (he : IsMismatch e) (dryRun : Bool) :
    Harmless dryRun e := by
  cases he with
  | dex =>
    constructor
    · intro signal ctx steps heq
      cases heq
    · rintro _ ⟨pair, amount, heq⟩
      cases heq
  | cex =>
    constructor
    · intro signal ctx steps heq
      cases heq
    · rintro _ ⟨pair, amount, heq⟩
      cases heq

/-- So recording one is harmless. -/
theorem record_framed {r : BotRun} {e : BotEvent} (he : IsMismatch e) :
    Framed r (r.record e) := by
  refine ⟨rfl, rfl, [e], rfl, ?_⟩
  intro e' he'
  rw [List.mem_singleton.mp he']
  exact harmless_of_mismatch he _

/-- One move of the sections before the tick, each as it is. -/
theorem Move.framed {r s : BotRun} (h : Move r s) : Framed r s := by
  cases h with
  | refreshed settings lastReset _ _ trace => exact .of_eq settings lastReset trace
  | paused => exact .of_eq rfl rfl rfl
  | stopped mismatch h => exact (record_framed mismatch).trans (trigger_framed h)

/-- The health check and the syncs concern no limit. -/
theorem Moves.framed {r s : BotRun} (h : Moves r s) : Framed r s := by
  induction h with
  | refl => exact .refl r
  | tail _ last ih => exact ih.trans last.framed

/-- The section of the kill switch: it drops old errors, and then it stops, resumes or goes on. -/
theorem killSwitchSection_framed {r s : BotRun} {env : KillEnv}
    (h : r.killSwitchSection env = .ok s) : Framed r s := by
  unfold killSwitchSection at h
  split at h
  · obtain ⟨t, ht, h⟩ := Outcome.bind_eq_ok.mp h
    cases h
    have dropped : Framed r { r with bot := r.bot.dropOldErrors env.errorsNow } :=
      .of_eq rfl rfl rfl
    have decided : Framed { r with bot := r.bot.dropOldErrors env.errorsNow } t := by
      -- two ways to stop at once, the limits to check, and otherwise a resume or nothing
      unfold stopOrResume stopSection at ht
      split at ht
      · split at ht
        · exact flattenAndPause_framed ht
        · split at ht
          · exact flattenAndPause_framed ht
          · simp only at ht
            split at ht
            · have checked := flattenAndPause_framed ht
              exact ⟨checked.settings, checked.lastReset, checked.trace⟩
            · cases ht
              exact .of_eq rfl rfl rfl
      · split at ht
        · cases ht
          exact .of_eq rfl rfl rfl
        · cases ht
          exact .refl _
    refine (dropped.trans decided).trans ?_
    exact .of_eq rfl rfl rfl
  · cases h
    exact .refl _

/-- The daily reset looks at the clock and at nothing a frame leaves open. -/
theorem Framed.dailyReset {r s : BotRun} (h : Framed r s) (env : ResetEnv) :
    Framed (r.dailyReset env) (s.dailyReset env) := by
  obtain ⟨events, hevents, harmless⟩ := h.trace
  unfold BotRun.dailyReset
  rw [h.lastReset]
  split
  · refine ⟨?_, rfl, events, hevents, harmless⟩
    have hset := h.settings
    simp only [BotRun.settings, Settings.mk.injEq] at hset ⊢
    obtain ⟨hrisk, hdry, hpairs, hconf, hexec, _, hcumulative, _⟩ := hset
    exact ⟨by rw [hrisk], hdry, hpairs, hconf, hexec, trivial, hcumulative, trivial⟩
  · exact h

/-- **Before its tick, an iteration has made the daily reset and nothing else that a limit
    reads.** -/
theorem beforeTick_framed {r t : BotRun} {env : LoopEnv} (h : r.beforeTick env = .ok t) :
    Framed (r.dailyReset env.reset) t := by
  obtain ⟨t₁, h₁, h⟩ := Outcome.bind_eq_ok.mp h
  obtain ⟨t₂, h₂, h₃⟩ := Outcome.bind_eq_ok.mp h
  have kill := (killSwitchSection_framed h₁).dailyReset env.reset
  exact (kill.trans (healthSection_moves h₂).framed).trans (syncSection_moves h₃).framed

@[simp] theorem dailyReset_executions (r : BotRun) (env : ResetEnv) :
    (r.dailyReset env).executions = r.executions := by
  unfold dailyReset
  split <;> rfl

/-! ## The tick -/

/-- The executor a tick calls: it has been asked for its breaker. -/
def callee (t : BotRun) (env : TickEnv) : Executor :=
  { t.bot.executor with
    circuitBreaker := (t.bot.executor.circuitBreaker.isOpen env.breaker).2 }

/-- What the call of a signal returns. -/
def calling (t : BotRun) (env : TickEnv) (signal : Signal) :
    ExecutionContext × Executor × List ExecEvent :=
  (t.callee env).execute env.clock env.legs signal

/-- What a tick that executes a signal leaves behind. -/
structure Executed (t : BotRun) (env : TickEnv) (signal : Signal) (s : BotRun) : Prop where
  trace : s.trace =
    t.trace ++ [.executed signal (t.calling env signal).1 (t.calling env signal).2.2]
  risk : s.bot.riskManager =
    t.bot.riskManager.recordTrade ((t.calling env signal).1.actualNetPnl.getD 0)
  inventory : s.bot.sharedInventory = (t.calling env signal).2.1.inventory
  dryRun : s.bot.dryRun = t.bot.dryRun
  pairs : s.bot.pairs = t.bot.pairs
  pairConfigs : s.bot.pairConfigs = t.bot.pairConfigs
  lastReset : s.lastReset = t.lastReset
  sessionPnl : s.bot.sessionPnl =
    t.bot.sessionPnl + (t.calling env signal).1.actualNetPnl.getD 0
  cumulativePnl : s.bot.cumulativePnl =
    t.bot.cumulativePnl + (t.calling env signal).1.actualNetPnl.getD 0
  dailyTrades : s.bot.dailyTrades =
    t.bot.dailyTrades ++ [(t.calling env signal).1.actualNetPnl.getD 0]

/-- A signal that is executed is booked once, with what its call returned. -/
theorem executeSignal_executed (t : BotRun) (env : TickEnv) (v : PreTradeValidator)
    (signal : Signal) :
    Executed t env signal
      ((t.looked (t.bot.executor.circuitBreaker.isOpen env.breaker).2 v).executeSignal env
        signal) := by
  have booked : ∀ b : ArbBot, ∀ ctx ex,
      (b.bookTrade env signal ctx ex).riskManager =
          b.riskManager.recordTrade (ctx.actualNetPnl.getD 0) ∧
        (b.bookTrade env signal ctx ex).executor = ex ∧
        (b.bookTrade env signal ctx ex).dryRun = b.dryRun ∧
        (b.bookTrade env signal ctx ex).pairs = b.pairs ∧
        (b.bookTrade env signal ctx ex).pairConfigs = b.pairConfigs ∧
        (b.bookTrade env signal ctx ex).sessionPnl = b.sessionPnl + ctx.actualNetPnl.getD 0 ∧
        (b.bookTrade env signal ctx ex).cumulativePnl =
          b.cumulativePnl + ctx.actualNetPnl.getD 0 ∧
        (b.bookTrade env signal ctx ex).dailyTrades =
          b.dailyTrades ++ [ctx.actualNetPnl.getD 0] := by
    intro b ctx ex
    simp only [bookTrade]
    split <;> exact ⟨rfl, rfl, rfl, rfl, rfl, rfl, rfl, rfl⟩
  obtain ⟨hrisk, hexec, hdry, hpairs, hconf, hsession, hcumulative, hdaily⟩ :=
    booked (t.looked (t.bot.executor.circuitBreaker.isOpen env.breaker).2 v).bot
      (t.calling env signal).1 (t.calling env signal).2.1
  exact ⟨rfl, hrisk, congrArg Executor.inventory hexec, hdry, hpairs, hconf, rfl, hsession,
    hcumulative, hdaily⟩

/-- It is the one execution of its tick. -/
theorem Executed.executions {t s : BotRun} {env : TickEnv} {signal : Signal}
    (h : Executed t env signal s) :
    s.executions = t.executions ++ [(signal, (t.calling env signal).1)] := by
  rw [BotRun.executions, h.trace, List.filterMap_append, BotRun.executions]
  rfl

/-- What the tick of an iteration does. -/
inductive Ticked (sqrt : ℚ → ℚ) (t : BotRun) (env : TickEnv) (s : BotRun) : Prop
  | idle (framed : Framed t s)
  | traded (signal : Signal) (active : t.bot.tradingActive = true)
      (passed : Passed sqrt t env signal) (executed : Executed t env signal s)

/-- A tick trades one signal or leaves the limits alone. -/
theorem tickSection_ticked {sqrt : ℚ → ℚ} {t s : BotRun} {env : LoopEnv}
    (h : t.tickSection sqrt env = .ok s) : Ticked sqrt t env.tick s := by
  unfold tickSection at h
  split at h
  · rename_i active
    split at h
    · rename_i u hu
      cases h
      cases tick_end hu with
      | nothing cb v => exact .idle (.of_eq rfl rfl rfl)
      | feedRefused cb v => exact .idle (.of_eq rfl rfl rfl)
      | stopped cb v reason hs =>
        have looked : Framed t (t.looked cb v) := .of_eq rfl rfl rfl
        exact .idle (looked.trans (trigger_framed hs))
      | executed cb v signal asked passed =>
        cases asked
        exact .traded signal active passed (executeSignal_executed t env.tick v signal)
    · cases h
      exact .idle (.of_eq rfl rfl rfl)
    · cases h
  · cases h
    exact .idle (.refl t)

/-- **What an iteration does to the limits.** Before the tick it is a daily reset at most, and the
    tick is one of the two above. -/
theorem loopStep_cases {sqrt : ℚ → ℚ} {r s : BotRun} {env : LoopEnv}
    (h : r.loopStep sqrt env = some s) :
    ∃ t, r.beforeTick env = .ok t ∧ Framed (r.dailyReset env.reset) t ∧
      Ticked sqrt t env.tick s := by
  obtain ⟨t, ht, hs⟩ := iteration_eq_ok.mp (loopStep_iteration h)
  exact ⟨t, ht, beforeTick_framed ht, tickSection_ticked hs⟩

/-! ## What holds all along a run -/

/-- A bot that has just been made has the configured limits and settings, and its capital is
    its peak. -/
theorem new_settings {config : BotConfig} {env : StartEnv} {b : ArbBot}
    (h : ArbBot.new config env = .ok b) :
    (∃ capital, b.riskManager = RiskManager.new config.strategy.riskLimits capital) ∧
      b.dryRun = config.dryRun ∧ b.pairs = config.pairs ∧ b.pairConfigs = config.pairConfigs := by
  obtain ⟨gasOracle, inventory, rfl⟩ := new_eq_ok h
  rw [startCapital]
  split
  · exact ⟨⟨_, rfl⟩, rfl, rfl, rfl⟩
  · exact ⟨⟨_, rfl⟩, rfl, rfl, rfl⟩

/-- What the configuration fixes, and what the capital never does. `harmless` is about the whole
    trace: a dry run has sold nothing so far. -/
structure Standing (config : BotConfig) (r : BotRun) : Prop where
  limits : r.bot.riskManager.limits = config.strategy.riskLimits
  peak : r.bot.riskManager.currentCapital ≤ r.bot.riskManager.peakCapital
  dryRun : r.bot.dryRun = config.dryRun
  pairs : r.bot.pairs = config.pairs
  pairConfigs : r.bot.pairConfigs = config.pairConfigs
  harmless : config.dryRun = true → ∀ e ∈ r.trace, Harmless true e

/-- A bot that has just been made stands so. -/
theorem Standing.start {config : BotConfig} {start₀ : StartEnv} {b : ArbBot} (t₀ t₁ t₂ : ℚ)
    (made : ArbBot.new config start₀ = .ok b) : Standing config (start b t₀ t₁ t₂) := by
  obtain ⟨⟨capital, hrisk⟩, hdry, hpairs, hconf⟩ := new_settings made
  constructor
  · show b.riskManager.limits = _
    rw [hrisk]
    rfl
  · show b.riskManager.currentCapital ≤ b.riskManager.peakCapital
    rw [hrisk]
    exact le_refl capital
  · exact hdry
  · exact hpairs
  · exact hconf
  · intro _ e he
    cases he

/-- A reset changes counters. -/
theorem Standing.dailyReset {config : BotConfig} {r : BotRun} (h : Standing config r)
    (env : ResetEnv) : Standing config (r.dailyReset env) := by
  unfold BotRun.dailyReset
  split
  · exact ⟨h.limits, h.peak, h.dryRun, h.pairs, h.pairConfigs, h.harmless⟩
  · exact h

/-- What concerns no limit leaves it. -/
theorem Standing.framed {config : BotConfig} {r s : BotRun} (h : Standing config r)
    (hf : Framed r s) : Standing config s := by
  obtain ⟨events, hevents, harmless⟩ := hf.trace
  refine ⟨?_, ?_, ?_, ?_, ?_, ?_⟩
  · rw [hf.riskManager]
    exact h.limits
  · rw [hf.riskManager]
    exact h.peak
  · rw [hf.dryRun]
    exact h.dryRun
  · exact (congrArg Settings.pairs hf.settings).trans h.pairs
  · exact (congrArg Settings.pairConfigs hf.settings).trans h.pairConfigs
  · intro hdry e he
    rw [hevents] at he
    rcases List.mem_append.mp he with he | he
    · exact h.harmless hdry e he
    · have hharm := harmless e he
      rw [h.dryRun, hdry] at hharm
      exact hharm

/-- A trade that raises the capital above the peak raises the peak. -/
theorem le_peak_recordTrade {r : RiskManager} (pnl : ℚ) :
    (r.recordTrade pnl).currentCapital ≤ (r.recordTrade pnl).peakCapital := by
  show r.currentCapital + pnl ≤
    if r.peakCapital < r.currentCapital + pnl then r.currentCapital + pnl else r.peakCapital
  split
  · exact le_refl _
  · rename_i hle
    exact not_lt.mp hle

/-- A signal that is executed has passed the gates, so the run is not a dry one. -/
theorem Standing.executed {config : BotConfig} {sqrt : ℚ → ℚ} {t s : BotRun} {env : TickEnv}
    {signal : Signal} (h : Standing config t) (passed : Passed sqrt t env signal)
    (he : Executed t env signal s) : Standing config s := by
  refine ⟨?_, ?_, ?_, ?_, ?_, ?_⟩
  · rw [he.risk]
    exact h.limits
  · rw [he.risk]
    exact le_peak_recordTrade _
  · rw [he.dryRun]
    exact h.dryRun
  · rw [he.pairs]
    exact h.pairs
  · rw [he.pairConfigs]
    exact h.pairConfigs
  · -- A dry run executes nothing.
    intro hdry
    have live := passed.live
    rw [h.dryRun, hdry] at live
    cases live

/-- **An iteration keeps it.** -/
theorem Standing.step {config : BotConfig} {sqrt : ℚ → ℚ} {r s : BotRun} {env : LoopEnv}
    (h : Standing config r) (hs : r.loopStep sqrt env = some s) : Standing config s := by
  obtain ⟨t, _, framed, ticked⟩ := loopStep_cases hs
  have before : Standing config t := (h.dailyReset env.reset).framed framed
  cases ticked with
  | idle hf => exact before.framed hf
  | traded signal _ passed executed => exact before.executed passed executed

/-- **It holds in every state of every run.** -/
theorem Standing.run {config : BotConfig} {sqrt : ℚ → ℚ} {start₀ : StartEnv} {b : ArbBot}
    {t₀ t₁ t₂ : ℚ} {G : BotRun → LoopEnv → Prop} {envs : List LoopEnv} {r : BotRun}
    (made : ArbBot.new config start₀ = .ok b)
    (run : GuardedRun (loopStep sqrt) G (BotRun.start b t₀ t₁ t₂) envs r) :
    Standing config r := by
  apply run.invariant (I := Standing config)
  · intro r s env h _ hs
    exact h.step hs
  · exact .start t₀ t₁ t₂ made

/-- What stands at the head of an iteration stands at its tick. -/
theorem Standing.beforeTick {config : BotConfig} {r t : BotRun} {env : LoopEnv}
    (h : Standing config r) (ht : r.beforeTick env = .ok t) : Standing config t :=
  (h.dailyReset env.reset).framed (beforeTick_framed ht)

end BotRun

end ArbEngine
