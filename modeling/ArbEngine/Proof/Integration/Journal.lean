import ArbEngine.Proof.Integration.Iteration

/-!
# The bot with its journal

The risk manager counts: losses in a row, trades since a reset. What its counters should mean
is said with a history the bot does not keep, the executions with the times at which they
began, those of the current day apart from those before the last daily reset. A journal is
the bot with that history; its steps are the bot's (`Journal.bot_run`), and nothing the bot
does depends on what is written in it.
-/

namespace ArbEngine

open ArbBot BotRun

/-- An execution and when it began. -/
structure Entry where
  time : ℚ
  signal : Signal
  ctx : ExecutionContext

structure Journal where
  run : BotRun
  /-- The executions before the last daily reset. -/
  before : List Entry
  /-- The executions since. -/
  today : List Entry

namespace Journal

def start (run : BotRun) : Journal where
  run := run
  before := []
  today := []

/-- Every execution of the run. -/
def entries (j : Journal) : List Entry := j.before ++ j.today

/-- The daily reset begins a new page. -/
def turn (j : Journal) (env : ResetEnv) : Journal :=
  if 86400 ≤ env.now - j.run.lastReset then { j with before := j.entries, today := [] } else j

/-- What an iteration has executed, written down with the clock reading of the call. -/
def written (r s : BotRun) (time : ℚ) : List Entry :=
  (s.executions.drop r.executions.length).map fun e =>
    { time := time, signal := e.1, ctx := e.2 }

def step (sqrt : ℚ → ℚ) (j : Journal) (env : LoopEnv) : Option Journal :=
  (j.run.loopStep sqrt env).map fun s =>
    { run := s
      before := (j.turn env.reset).before
      today := (j.turn env.reset).today ++ written j.run s env.tick.clock.started }

@[simp] theorem turn_entries (j : Journal) (env : ResetEnv) : (j.turn env).entries = j.entries := by
  unfold turn
  split
  · exact List.append_nil _
  · rfl

/-- What the tick of a step does, for the bot and for its journal. -/
inductive Wrote (sqrt : ℚ → ℚ) (j : Journal) (env : LoopEnv) (t : BotRun) (k : Journal) : Prop
  | nothing (framed : Framed t k.run) (today : k.today = (j.turn env.reset).today)
  | entry (signal : Signal) (active : t.bot.tradingActive = true)
      (passed : Passed sqrt t env.tick signal) (executed : Executed t env.tick signal k.run)
      (today : k.today = (j.turn env.reset).today ++
        [{ time := env.tick.clock.started, signal := signal,
           ctx := (t.calling env.tick signal).1 }])

/-- **What a step does**: the page is turned if the day is over, and the tick adds at most one
    entry. -/
theorem step_cases {sqrt : ℚ → ℚ} {j k : Journal} {env : LoopEnv} (h : j.step sqrt env = some k) :
    ∃ t, j.run.beforeTick env = .ok t ∧ Framed (j.run.dailyReset env.reset) t ∧
      k.before = (j.turn env.reset).before ∧ Wrote sqrt j env t k := by
  obtain ⟨s, hs, hk⟩ := Option.map_eq_some_iff.mp h
  obtain ⟨t, ht, framed, ticked⟩ := loopStep_cases hs
  have same : t.executions = j.run.executions := by
    rw [framed.executions, dailyReset_executions]
  subst hk
  refine ⟨t, ht, framed, rfl, ?_⟩
  cases ticked with
  | idle hf =>
    apply Wrote.nothing hf
    show _ ++ written j.run s env.tick.clock.started = _
    rw [written, hf.executions, same, List.drop_length, List.map_nil, List.append_nil]
  | traded signal active passed executed =>
    apply Wrote.entry signal active passed executed
    show _ ++ written j.run s env.tick.clock.started = _
    rw [written, executed.executions, same, List.drop_left]
    rfl

theorem bot_step {sqrt : ℚ → ℚ} {j k : Journal} {env : LoopEnv} (h : j.step sqrt env = some k) :
    j.run.loopStep sqrt env = some k.run := by
  obtain ⟨s, hs, hk⟩ := Option.map_eq_some_iff.mp h
  subst hk
  exact hs

/-- **The bot of a journal runs as it does without one.** -/
theorem bot_run {sqrt : ℚ → ℚ} {G : Journal → LoopEnv → Prop} {j k : Journal}
    {envs : List LoopEnv} (run : GuardedRun (step sqrt) G j envs k) :
    Run (loopStep sqrt) j.run envs k.run := by
  induction run with
  | nil => exact .nil _
  | snoc _ _ next ih => exact .snoc ih trivial (bot_step next)

/-- The risk manager a tick sees, the daily reset made where it is due. -/
theorem risk_at_tick {j : Journal} {env : LoopEnv} {t : BotRun}
    (framed : Framed (j.run.dailyReset env.reset) t) :
    (t.bot.riskManager = j.run.bot.riskManager ∧ (j.turn env.reset) = j) ∨
      (t.bot.riskManager = j.run.bot.riskManager.resetDaily ∧ (j.turn env.reset).today = []) := by
  rw [framed.riskManager]
  unfold dailyReset turn
  by_cases due : 86400 ≤ env.reset.now - j.run.lastReset
  · right
    rw [if_pos due, if_pos due]
    exact ⟨rfl, rfl⟩
  · left
    rw [if_neg due, if_neg due]
    exact ⟨rfl, rfl⟩

end Journal

/-! ## The small account, trading -/

/-- The offer of `sampleSpread` under an id of its own, answered by these legs. -/
def sampleTrade (now : ℚ) (id : String) (legs : Legs) : LoopEnv :=
  { sampleEnv now false sampleWei with
    tick := { (sampleEnv now false sampleWei).tick with
      candidates := [{ sampleSpread now with signalId := id }]
      legs := legs } }

/-- The small account outside simulation, with these limits. -/
def sampleLimited (limits : RiskLimits) : BotConfig :=
  { sampleConfig with
    simulation := false
    strategy := { sampleConfig.strategy with riskLimits := limits } }

/-- The journal of a run of it. -/
def sampleJournal (limits : RiskLimits) (envs : List LoopEnv) : Option Journal :=
  (ArbBot.new (sampleLimited limits) sampleStart).toOption.bind fun b =>
    envs.foldlM (Journal.step fun _ => 0) (Journal.start (BotRun.start b 0 0 0))

theorem sampleJournal_inv {limits : RiskLimits} {envs : List LoopEnv} {j : Journal}
    (h : sampleJournal limits envs = some j) :
    ∃ b, ArbBot.new (sampleLimited limits) sampleStart = .ok b ∧
      envs.foldlM (Journal.step fun _ => 0) (Journal.start (BotRun.start b 0 0 0)) = some j := by
  obtain ⟨b, hb, h⟩ := Option.bind_eq_some_iff.mp h
  exact ⟨b, Outcome.toOption_eq_some.mp hb, h⟩

/-- Two iterations of it, one after the other. -/
theorem sampleJournal_two {limits : RiskLimits} {env env' : LoopEnv} {k : Journal}
    (h : sampleJournal limits [env, env'] = some k) :
    ∃ b j, ArbBot.new (sampleLimited limits) sampleStart = .ok b ∧
      (Journal.start (BotRun.start b 0 0 0)).step (fun _ => 0) env = some j ∧
      j.step (fun _ => 0) env' = some k ∧ sampleJournal limits [env] = some j := by
  obtain ⟨b, made, run⟩ := sampleJournal_inv h
  rw [List.foldlM_cons] at run
  obtain ⟨j, first, run⟩ := Option.bind_eq_some_iff.mp run
  rw [List.foldlM_cons] at run
  obtain ⟨k', second, run⟩ := Option.bind_eq_some_iff.mp run
  cases run
  refine ⟨b, j, made, first, second, ?_⟩
  rw [sampleJournal, made]
  show List.foldlM _ _ _ = _
  rw [List.foldlM_cons, first]
  rfl

end ArbEngine
