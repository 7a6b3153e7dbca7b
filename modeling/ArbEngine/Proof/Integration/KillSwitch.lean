import ArbEngine.Lib.Run
import ArbEngine.Proof.Integration.Sections

/-!
# The kill switch over a run

The switch has a flag of its own, and the loop a second one, `trading_active`. Whoever
triggers the switch clears the second flag, and every section keeps it cleared — except the
resume branch of the kill-switch section, which asks for the kill file, the stop command, the
errors and the daily loss, and not for the switch.

`KeepsLatch` is what each section does to the two flags. `triggered_switch_is_final` follows
for the runs that never take the resume branch while the switch is triggered, and
`sample_resumed_bot_executes` is a run that takes it.
-/

namespace ArbEngine

open ArbBot

namespace BotRun

/-- The signals handed to `executor.execute`, in order, with the contexts that came back. -/
def executions (r : BotRun) : List (Signal × ExecutionContext) :=
  r.trace.filterMap fun e =>
    match e with
    | .executed signal ctx _ => some (signal, ctx)
    | _ => none

/-- The section resumes trading. -/
def resumes (r : BotRun) (env : KillEnv) : Bool :=
  r.killSwitchDue env && !r.bot.tradingActive &&
    conditionsCleared (r.bot.dropOldErrors env.errorsNow) env

/-- The iteration does not resume a bot whose switch is triggered. -/
def SwitchObeyed (r : BotRun) (env : LoopEnv) : Prop :=
  ¬(r.bot.killSwitch.triggered = true ∧ r.resumes env.kill = true)

/-! ## The two flags -/

/-- Nothing between the two states has reset the switch, and a bot that is active with a
    triggered switch was so before. -/
structure KeepsLatch (r s : BotRun) : Prop where
  stays : r.bot.killSwitch.triggered = true → s.bot.killSwitch.triggered = true
  active : s.bot.killSwitch.triggered = true → s.bot.tradingActive = true →
    r.bot.killSwitch.triggered = true ∧ r.bot.tradingActive = true

/-- In addition nothing was executed. -/
structure Quiet (r s : BotRun) : Prop extends KeepsLatch r s where
  executions : s.executions = r.executions

/-- Two stretches of a run that keep the latch keep it together. -/
theorem KeepsLatch.trans {r s t : BotRun} (h : KeepsLatch r s) (h' : KeepsLatch s t) :
    KeepsLatch r t where
  stays hr := h'.stays (h.stays hr)
  active ht hactive := by
    obtain ⟨hs, hactive⟩ := h'.active ht hactive
    exact h.active hs hactive

theorem Quiet.trans {r s t : BotRun} (h : Quiet r s) (h' : Quiet s t) : Quiet r t where
  toKeepsLatch := h.toKeepsLatch.trans h'.toKeepsLatch
  executions := h'.executions.trans h.executions

/-- A section that leaves both flags alone. -/
theorem KeepsLatch.of_flags {r s : BotRun} (hk : s.bot.killSwitch = r.bot.killSwitch)
    (ha : s.bot.tradingActive = r.bot.tradingActive) : KeepsLatch r s where
  stays hr := by
    rw [hk]
    exact hr
  active hs hactive := by
    rw [hk] at hs
    rw [ha] at hactive
    exact ⟨hs, hactive⟩

/-- A section that leaves both flags and the trace alone is quiet. -/
theorem Quiet.of_flags {r s : BotRun} (hk : s.bot.killSwitch = r.bot.killSwitch)
    (ha : s.bot.tradingActive = r.bot.tradingActive) (ht : s.trace = r.trace) : Quiet r s where
  toKeepsLatch := .of_flags hk ha
  executions := by rw [BotRun.executions, ht, BotRun.executions]

theorem Quiet.refl (r : BotRun) : Quiet r r := .of_flags rfl rfl rfl

/-- Events that are no executions add none. -/
theorem executions_append {r s : BotRun} {events : List BotEvent}
    (none_executed : ∀ e ∈ events, ∀ signal ctx steps, e ≠ .executed signal ctx steps)
    (ht : s.trace = r.trace ++ events) : s.executions = r.executions := by
  unfold executions
  rw [ht, List.filterMap_append, List.append_right_eq_self, List.filterMap_eq_nil_iff]
  intro e he
  cases e with
  | executed signal ctx steps => exact absurd rfl (none_executed _ he signal ctx steps)
  | marketSell => rfl
  | dexMismatch => rfl
  | cexMismatch => rfl

/-- The sales of a flattening are no executions. -/
theorem executions_append_sales {r s : BotRun} {orders : List BotEvent}
    (horders : ∀ e ∈ orders, IsSale e) (ht : s.trace = r.trace ++ orders) :
    s.executions = r.executions := by
  apply executions_append _ ht
  intro e he signal ctx steps heq
  obtain ⟨pair, amount, hsale⟩ := horders e he
  rw [hsale] at heq
  cases heq

/-- A state in which the bot is not trading has nothing to fear from the latch. -/
theorem Quiet.of_paused {r s : BotRun}
    (stays : r.bot.killSwitch.triggered = true → s.bot.killSwitch.triggered = true)
    (paused : s.bot.tradingActive = false) (executions : s.executions = r.executions) :
    Quiet r s where
  stays := stays
  active _ hactive := by
    rw [paused] at hactive
    cases hactive
  executions := executions

/-- Nor has one whose switch is left untriggered, whether it is trading or not. -/
theorem Quiet.of_untriggered {r s : BotRun} (same : s.bot.killSwitch = r.bot.killSwitch)
    (untriggered : r.bot.killSwitch.triggered = false)
    (executions : s.executions = r.executions) : Quiet r s where
  stays htrig := by
    rw [untriggered] at htrig
    cases htrig
  active htrig _ := by
    rw [same, untriggered] at htrig
    cases htrig
  executions := executions

/-- **A stop is quiet**, whatever has been done to the switch before it. -/
theorem stop_quiet {r t s : BotRun} {fetched : Except String ExchangeBalances}
    (h : t.flattenAndPause fetched = .ok s) (same : t.trace = r.trace)
    (stays : r.bot.killSwitch.triggered = true → t.bot.killSwitch.triggered = true) :
    Quiet r s := by
  obtain ⟨orders, horders, rfl⟩ := flattenAndPause_ok h
  refine .of_paused stays rfl (executions_append_sales horders ?_)
  show t.trace ++ orders = r.trace ++ orders
  rw [same]

/-- Triggering the switch stops the bot at once, so it is quiet. -/
theorem trigger_quiet {r s : BotRun} {fetched : Except String ExchangeBalances}
    {reason : KillReason} (h : (r.trigger reason).flattenAndPause fetched = .ok s) : Quiet r s :=
  stop_quiet h rfl fun _ => AutoKillSwitch.trigger_triggered _ _

/-! ## The sections -/

/-- Recording a mismatch is no execution either. -/
theorem record_mismatch_quiet {r : BotRun} {e : BotEvent} (he : IsMismatch e) :
    Quiet r (r.record e) := by
  refine { toKeepsLatch := .of_flags rfl rfl, executions := executions_append ?_ rfl }
  intro e' he' signal ctx steps heq
  rw [List.mem_singleton.mp he'] at heq
  subst heq
  cases he

/-- Each step of the health check and of the syncs is quiet. -/
theorem Move.quiet {r s : BotRun} (h : Move r s) : Quiet r s := by
  cases h with
  | refreshed _ _ killSwitch tradingActive trace => exact .of_flags killSwitch tradingActive trace
  | paused => exact .of_paused id rfl rfl
  | stopped mismatch h => exact (record_mismatch_quiet mismatch).trans (trigger_quiet h)

/-- **The health check and the syncs are quiet.** -/
theorem Moves.quiet {r s : BotRun} (h : Moves r s) : Quiet r s := by
  induction h with
  | refl => exact .refl r
  | tail _ last ih => exact ih.trans last.quiet

/-- The daily reset clears counters and touches neither flag. -/
theorem dailyReset_quiet (r : BotRun) (env : ResetEnv) : Quiet r (r.dailyReset env) := by
  unfold dailyReset
  split
  · exact .of_flags rfl rfl rfl
  · exact .refl _

/-- The part that stops a trading bot is quiet, whatever it stops for. -/
theorem stopSection_quiet {r s : BotRun} {env : KillEnv} (h : r.stopSection env = .ok s) :
    Quiet r s := by
  unfold stopSection at h
  split at h
  · exact stop_quiet h rfl id
  · split at h
    · exact stop_quiet h rfl id
    · simp only at h
      split at h
      · rename_i fired
        refine stop_quiet h rfl fun _ => ?_
        rw [AutoKillSwitch.check_fst] at fired
        exact fired
      · rename_i silent
        cases h
        obtain ⟨untriggered, same⟩ := AutoKillSwitch.check_false (Bool.not_eq_true _ ▸ silent)
        exact .of_untriggered same untriggered rfl

/-- The part that stops or resumes is quiet unless it resumes a bot whose switch is triggered. -/
theorem stopOrResume_quiet {r s : BotRun} {env : KillEnv}
    (obeyed : ¬(r.bot.killSwitch.triggered = true ∧ r.bot.tradingActive = false ∧
      conditionsCleared r.bot env = true))
    (h : r.stopOrResume env = .ok s) : Quiet r s := by
  unfold stopOrResume at h
  by_cases hactive : r.bot.tradingActive = true
  · rw [if_pos hactive] at h
    exact stopSection_quiet h
  · rw [if_neg hactive] at h
    by_cases hclear : conditionsCleared r.bot env = true
    · rw [if_pos hclear] at h
      cases h
      -- The resume branch: by the guard the switch is not triggered.
      have untriggered : ¬r.bot.killSwitch.triggered = true := by
        intro htrig
        exact obeyed ⟨htrig, Bool.not_eq_true _ ▸ hactive, hclear⟩
      exact .of_untriggered rfl (Bool.not_eq_true _ ▸ untriggered) rfl
    · rw [if_neg hclear] at h
      cases h
      exact .refl _

/-- The whole section, which may drop old errors first. -/
theorem killSwitchSection_quiet {r s : BotRun} {env : KillEnv}
    (obeyed : ¬(r.bot.killSwitch.triggered = true ∧ r.resumes env = true))
    (h : r.killSwitchSection env = .ok s) : Quiet r s := by
  unfold killSwitchSection at h
  by_cases hdue : r.killSwitchDue env = true
  · rw [if_pos hdue] at h
    obtain ⟨t, ht, h⟩ := Outcome.bind_eq_ok.mp h
    cases h
    have dropped : Quiet r { r with bot := r.bot.dropOldErrors env.errorsNow } :=
      .of_flags rfl rfl rfl
    have decided : Quiet { r with bot := r.bot.dropOldErrors env.errorsNow } t := by
      refine stopOrResume_quiet ?_ ht
      intro ⟨htrig, hpaused, hclear⟩
      apply obeyed
      refine ⟨htrig, ?_⟩
      have hpaused' : r.bot.tradingActive = false := hpaused
      rw [resumes, hdue, hpaused', hclear]
      rfl
    refine (dropped.trans decided).trans ?_
    exact .of_flags rfl rfl rfl
  · rw [if_neg hdue] at h
    cases h
    exact .refl _

/-- A tick may execute a signal, and keeps the latch. -/
theorem tick_keepsLatch {sqrt : ℚ → ℚ} {r s : BotRun} {env : TickEnv}
    (h : r.tick sqrt env = .ok s) : KeepsLatch r s := by
  cases tick_end h with
  | nothing cb v => exact .of_flags rfl rfl
  | feedRefused cb v => exact .of_flags rfl rfl
  | stopped cb v reason hs =>
    have looked_keeps : KeepsLatch r (r.looked cb v) := .of_flags rfl rfl
    exact looked_keeps.trans (trigger_quiet hs).toKeepsLatch
  | executed cb v signal =>
    refine .of_flags ?_ ?_
    · simp only [executeSignal, record, bookTrade]
      split <;> rfl
    · simp only [executeSignal, record, bookTrade]
      split <;> rfl

theorem tickSection_keepsLatch {sqrt : ℚ → ℚ} {r s : BotRun} {env : LoopEnv}
    (h : r.tickSection sqrt env = .ok s) : KeepsLatch r s := by
  unfold tickSection at h
  split at h
  · split at h
    · rename_i t ht
      cases h
      exact tick_keepsLatch ht
    · cases h
      exact .of_flags rfl rfl
    · cases h
  · cases h
    exact (Quiet.refl r).toKeepsLatch

/-! ## An iteration, and a run -/

/-- A step of the loop is an iteration that has gone through. -/
theorem loopStep_iteration {sqrt : ℚ → ℚ} {r s : BotRun} {env : LoopEnv}
    (h : r.loopStep sqrt env = some s) : r.iteration sqrt env = .ok s := by
  unfold loopStep at h
  split at h
  · split at h
    · rename_i t ht
      cases h
      exact ht
    · cases h
    · cases h
  · cases h

/-- The part of an iteration before its tick. All of its sections are quiet, the kill-switch
    section by what is asked of the iteration. -/
theorem iteration_quiet {sqrt : ℚ → ℚ} {r s : BotRun} {env : LoopEnv}
    (obeyed : SwitchObeyed r env) (h : r.iteration sqrt env = .ok s) :
    ∃ t, Quiet r t ∧ t.tickSection sqrt env = .ok s := by
  obtain ⟨t₁, h₁, h⟩ := Outcome.bind_eq_ok.mp h
  obtain ⟨t₂, h₂, h⟩ := Outcome.bind_eq_ok.mp h
  obtain ⟨t₃, h₃, h⟩ := Outcome.bind_eq_ok.mp h
  refine ⟨t₃, ?_, h⟩
  have kill := killSwitchSection_quiet obeyed h₁
  have reset := dailyReset_quiet t₁ env.reset
  exact ((kill.trans reset).trans (healthSection_moves h₂).quiet).trans (syncSection_moves h₃).quiet

/-- **What an iteration keeps**: both flags' latch, and with a triggered switch on a bot that
    is not trading the executions as well. -/
theorem loopStep_keeps {sqrt : ℚ → ℚ} {r s : BotRun} {env : LoopEnv}
    (obeyed : SwitchObeyed r env) (h : r.loopStep sqrt env = some s) :
    KeepsLatch r s ∧
      (r.bot.killSwitch.triggered = true → r.bot.tradingActive = false →
        s.executions = r.executions) := by
  obtain ⟨t, quiet, htick⟩ := iteration_quiet obeyed (loopStep_iteration h)
  refine ⟨quiet.toKeepsLatch.trans (tickSection_keepsLatch htick), ?_⟩
  intro triggered paused
  have inactive : ¬t.bot.tradingActive = true := by
    intro hactive
    obtain ⟨_, active⟩ := quiet.active (quiet.stays triggered) hactive
    rw [paused] at active
    cases active
  rw [tickSection, if_neg inactive] at htick
  cases htick
  exact quiet.executions

/-- A bot whose switch is triggered is not trading. -/
def Latched (r : BotRun) : Prop :=
  r.bot.killSwitch.triggered = true → r.bot.tradingActive = false

theorem Latched.step {sqrt : ℚ → ℚ} {r s : BotRun} {env : LoopEnv} (latched : Latched r)
    (obeyed : SwitchObeyed r env) (h : r.loopStep sqrt env = some s) : Latched s := by
  intro triggered
  by_contra hactive
  obtain ⟨htrig, active⟩ :=
    (loopStep_keeps obeyed h).1.active triggered (Bool.not_eq_false _ ▸ hactive)
  rw [latched htrig] at active
  cases active

/-- A bot that has just been made starts with a switch that is not triggered. -/
theorem new_killSwitch {config : BotConfig} {env : StartEnv} {b : ArbBot}
    (h : ArbBot.new config env = .ok b) : b.killSwitch = AutoKillSwitch.new := by
  obtain ⟨gasOracle, inventory, rfl⟩ := new_eq_ok h
  rw [startCapital]
  split <;> rfl

theorem start_untriggered {config : BotConfig} {start₀ : StartEnv} {b : ArbBot} (t₀ t₁ t₂ : ℚ)
    (made : ArbBot.new config start₀ = .ok b) :
    ¬(start b t₀ t₁ t₂).bot.killSwitch.triggered = true := by
  intro triggered
  have hk : b.killSwitch.triggered = true := triggered
  rw [new_killSwitch made] at hk
  cases hk

theorem latched_run {sqrt : ℚ → ℚ} {config : BotConfig} {start₀ : StartEnv} {b : ArbBot}
    {t₀ t₁ t₂ : ℚ} {envs : List LoopEnv} {r : BotRun} (made : ArbBot.new config start₀ = .ok b)
    (run : GuardedRun (loopStep sqrt) SwitchObeyed (start b t₀ t₁ t₂) envs r) : Latched r := by
  refine run.invariant (I := Latched) ?_ ?_
  · intro r s env latched obeyed h
    exact latched.step obeyed h
  · intro triggered
    exact absurd triggered (start_untriggered t₀ t₁ t₂ made)

/-- **A triggered switch is final**, as long as no iteration resumes behind it. -/
theorem triggered_switch_is_final {sqrt : ℚ → ℚ} {config : BotConfig} {start₀ : StartEnv}
    {b : ArbBot} {t₀ t₁ t₂ : ℚ} {envs later : List LoopEnv} {r s : BotRun}
    (made : ArbBot.new config start₀ = .ok b)
    (run : GuardedRun (loopStep sqrt) SwitchObeyed (start b t₀ t₁ t₂) envs r)
    (triggered : r.bot.killSwitch.triggered = true)
    (rest : GuardedRun (loopStep sqrt) SwitchObeyed r later s) :
    s.bot.killSwitch.triggered = true ∧ s.executions = r.executions := by
  have paused : r.bot.tradingActive = false := latched_run made run triggered
  have final := rest.invariant
    (I := fun t => (t.bot.killSwitch.triggered = true ∧ t.bot.tradingActive = false) ∧
      t.executions = r.executions) ?_ ⟨⟨triggered, paused⟩, rfl⟩
  · exact ⟨final.1.1, final.2⟩
  · intro t u env ⟨⟨htrig, hpaused⟩, same⟩ obeyed h
    obtain ⟨keeps, quiet⟩ := loopStep_keeps obeyed h
    have latched : Latched u := Latched.step (fun _ => hpaused) obeyed h
    have utrig := keeps.stays htrig
    exact ⟨⟨utrig, latched utrig⟩, (quiet htrig hpaused).trans same⟩

/-! ## A deposit

A hundredth of an ether reaches the wallet between a sync and a health check; the watchdog
takes it for a mismatch and triggers the switch. Fifteen seconds later nothing is wrong. -/

/-- The wallet after the deposit. -/
def sampleDeposited : U256 := 60000000000000000#256

theorem sampleRun_inv {envs : List LoopEnv} {r : BotRun} (h : sampleRun envs = some r) :
    ∃ b, ArbBot.new sampleConfig sampleStart = .ok b ∧
      envs.foldlM (loopStep fun _ => 0) (start b 0 0 0) = some r := by
  obtain ⟨b, hb, h⟩ := Option.bind_eq_some_iff.mp h
  exact ⟨b, Outcome.toOption_eq_some.mp hb, h⟩

/-- The state after the health check. -/
theorem sample_triggered :
    ∃ r, sampleRun [sampleEnv 60 false sampleDeposited] = some r ∧
      r.bot.killSwitch.triggered = true ∧ r.executions = [] := by
  have seen : (sampleRun [sampleEnv 60 false sampleDeposited]).map (fun r =>
      (r.bot.killSwitch.triggered, r.executions)) = some (true, []) := by
    decide +kernel
  obtain ⟨r, hr, h⟩ := Option.map_eq_some_iff.mp seen
  cases h' : r.executions with
  | nil =>
    refine ⟨r, hr, ?_, h'⟩
    exact congrArg Prod.fst h
  | cons e es =>
    rw [h'] at h
    cases congrArg Prod.snd h

/-- With the kill file in place the section does not resume, and the switch is final. -/
theorem sample_killed_bot_stays_quiet :
    ∃ r s, sampleRun [sampleEnv 60 false sampleDeposited] = some r ∧
      r.loopStep (fun _ => 0) (sampleEnv 75 true sampleDeposited) = some s ∧
      s.bot.killSwitch.triggered = true ∧ s.executions = r.executions := by
  obtain ⟨r, hr, triggered, -⟩ := sample_triggered
  obtain ⟨b, made, run⟩ := sampleRun_inv hr
  have continued : ((sampleRun [sampleEnv 60 false sampleDeposited]).bind fun r =>
      r.loopStep (fun _ => 0) (sampleEnv 75 true sampleDeposited)).isSome = true := by
    decide +kernel
  rw [hr, Option.bind_some] at continued
  obtain ⟨s, hs⟩ := Option.isSome_iff_exists.mp continued
  rw [List.foldlM_cons] at run
  obtain ⟨u, first, run⟩ := Option.bind_eq_some_iff.mp run
  cases run
  have obeyed : SwitchObeyed (start b 0 0 0) (sampleEnv 60 false sampleDeposited) := by
    intro ⟨htrig, _⟩
    exact start_untriggered 0 0 0 made htrig
  have obeyed' : SwitchObeyed r (sampleEnv 75 true sampleDeposited) := by
    intro ⟨_, hresumes⟩
    simp [resumes, conditionsCleared, sampleEnv] at hresumes
  exact ⟨r, s, hr, hs, triggered_switch_is_final made (.single obeyed first) triggered
    (.single obeyed' hs)⟩

/-- **Resumed behind the switch**: the next check of the kill switch finds no kill file, no
    stop command, no errors and no loss, and the tick of that iteration executes a signal. -/
theorem sample_resumed_bot_executes :
    ∃ b r s, ArbBot.new sampleConfig sampleStart = .ok b ∧
      Run (loopStep fun _ => 0) (start b 0 0 0) [sampleEnv 60 false sampleDeposited] r ∧
      r.bot.killSwitch.triggered = true ∧
      Run (loopStep fun _ => 0) r [sampleEnv 75 false sampleDeposited] s ∧
      s.executions ≠ r.executions := by
  obtain ⟨r, hr, triggered, none_before⟩ := sample_triggered
  obtain ⟨b, made, run⟩ := sampleRun_inv hr
  have continued : ((sampleRun [sampleEnv 60 false sampleDeposited]).bind fun r =>
      r.loopStep (fun _ => 0) (sampleEnv 75 false sampleDeposited)).map
        (fun s => s.executions.length) = some 1 := by
    decide +kernel
  rw [hr, Option.bind_some] at continued
  obtain ⟨s, hs, one⟩ := Option.map_eq_some_iff.mp continued
  refine ⟨b, r, s, made, Run.of_foldlM run, triggered, .single trivial hs, ?_⟩
  intro same
  rw [same, none_before] at one
  cases one

end BotRun

end ArbEngine
