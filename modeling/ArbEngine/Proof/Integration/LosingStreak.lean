import ArbEngine.Proof.Integration.Journal

/-!
# The losing streak

The risk manager stops trading after so many losses in a row, and `record_trade` keeps the
count: a negative profit raises it, any other clears it. The tick records a profit for every
execution, and for one that has failed, which has none, it records `0.0` — so a failure looks
like a trade that broke even, and clears the count.

As long as no execution fails while a streak is open, the count is the streak of the day
(`counts_streak`), and a streak of the configured length blocks every signal.
-/

namespace ArbEngine

open ArbBot BotRun

namespace Journal

/-! ## The streak a journal shows -/

/-- A completed trade extends the streak or ends it; a failed execution does neither. -/
def nextStreak (streak : ℕ) (ctx : ExecutionContext) : ℕ :=
  if ctx.state = .done then
    if ctx.actualNetPnl.getD 0 < 0 then streak + 1 else 0
  else streak

/-- The completed trades with a loss since the last completed one without. -/
def lossStreak (entries : List Entry) : ℕ :=
  entries.foldl (fun streak e => nextStreak streak e.ctx) 0

theorem lossStreak_append (entries : List Entry) (e : Entry) :
    lossStreak (entries ++ [e]) = nextStreak (lossStreak entries) e.ctx := by
  unfold lossStreak
  rw [List.foldl_append]
  rfl

/-- The counter of the risk manager is the streak of the day. -/
def CountsStreak (j : Journal) : Prop :=
  j.run.bot.riskManager.consecutiveLosses = lossStreak j.today

/-! ## The iterations that keep the count right -/

/-- **No execution fails while a streak is open**: a signal that passes the gates while losses
    are being counted is admitted by the executor, and both its legs are taken. -/
def NoFailureInStreak (sqrt : ℚ → ℚ) (j : Journal) (env : LoopEnv) : Prop :=
  ∀ t signal, j.run.beforeTick env = .ok t → t.bot.tradingActive = true →
    Passed sqrt t env.tick signal → 0 < t.bot.riskManager.consecutiveLosses →
      ∃ leg leg2, Completes (t.callee env.tick) env.tick.clock env.tick.legs signal leg leg2

/-- A recorded execution moves the counter as it moves the streak, unless it fails in one. -/
theorem consecutiveLosses_recordTrade {ex : Executor} {clock : ExecClock} {legs : Legs}
    {signal : Signal} {risk : RiskManager}
    (completes : 0 < risk.consecutiveLosses →
      ∃ leg leg2, Completes ex clock legs signal leg leg2) :
    (risk.recordTrade ((ex.execute clock legs signal).1.actualNetPnl.getD 0)).consecutiveLosses =
      nextStreak risk.consecutiveLosses (ex.execute clock legs signal).1 := by
  show (if (ex.execute clock legs signal).1.actualNetPnl.getD 0 < 0 then
    risk.consecutiveLosses + 1 else 0) = _
  unfold nextStreak
  rcases (execute_context ex clock legs signal).2 with ⟨leg, leg2, _, settled⟩ | ⟨no, failed⟩
  · rw [if_pos settled.state]
  · have clear : risk.consecutiveLosses = 0 := by
      by_contra open_
      obtain ⟨leg, leg2, h⟩ := completes (Nat.pos_of_ne_zero open_)
      exact no leg leg2 h
    rw [failed.pnl, failed.state, clear]
    simp

/-- **One iteration keeps the count right.** -/
theorem CountsStreak.step {sqrt : ℚ → ℚ} {j k : Journal} {env : LoopEnv} (h : CountsStreak j)
    (guard : NoFailureInStreak sqrt j env) (hk : j.step sqrt env = some k) : CountsStreak k := by
  obtain ⟨t, ht, framed, _, wrote⟩ := step_cases hk
  have seen : t.bot.riskManager.consecutiveLosses = lossStreak (j.turn env.reset).today := by
    rcases risk_at_tick framed with ⟨hrisk, hturn⟩ | ⟨hrisk, htoday⟩
    · rw [hrisk, hturn]
      exact h
    · rw [hrisk, htoday]
      rfl
  unfold CountsStreak
  cases wrote with
  | nothing hf today =>
    rw [hf.riskManager, today]
    exact seen
  | entry signal active passed executed today =>
    rw [executed.risk, today, lossStreak_append, ← seen]
    exact consecutiveLosses_recordTrade (guard t signal ht active passed)

section Runs

variable {sqrt : ℚ → ℚ} {config : BotConfig} {start₀ : StartEnv} {b : ArbBot} {t₀ t₁ t₂ : ℚ}
  {envs : List LoopEnv} {j : Journal}

theorem counts_streak (made : ArbBot.new config start₀ = .ok b)
    (run : GuardedRun (step sqrt) (NoFailureInStreak sqrt) (start (BotRun.start b t₀ t₁ t₂)) envs j) :
    CountsStreak j := by
  apply run.invariant (I := CountsStreak)
  · intro j k env h guard hk
    exact h.step guard hk
  · obtain ⟨⟨capital, hrisk⟩, _⟩ := new_settings made
    show b.riskManager.consecutiveLosses = 0
    rw [hrisk]
    rfl

/-- **A losing streak blocks trading** in every run in which no execution fails while a streak
    is open. -/
theorem losing_streak_blocks (made : ArbBot.new config start₀ = .ok b)
    (run : GuardedRun (step sqrt) (NoFailureInStreak sqrt) (start (BotRun.start b t₀ t₁ t₂)) envs j)
    (streak : config.strategy.riskLimits.consecutiveLossLimit ≤ lossStreak j.today) :
    ∀ signal, ∃ reason, j.run.bot.riskManager.checkPreTrade signal = .error reason := by
  intro signal
  have standing : BotRun.Standing config j.run := .run made (bot_run run)
  have counted : CountsStreak j := counts_streak made run
  cases hcheck : j.run.bot.riskManager.checkPreTrade signal with
  | error reason => exact ⟨reason, rfl⟩
  | ok u =>
    obtain ⟨_, _, _, _, below, _⟩ := RiskManager.checkPreTrade_eq_ok.mp hcheck
    rw [standing.limits, counted] at below
    exact absurd streak (not_le.mpr below)

end Runs

/-! ## Four trades -/

/-- Bought at 2000 and sold at 1990. -/
def losingLegs : Legs :=
  sampleLegs (some (sampleLeg true (95 / 10000)))
    (some { sampleLeg true (95 / 10000) with price := 1990 })

/-- Two losses in a row, both completed. -/
def twoLosses : List LoopEnv :=
  [sampleTrade 1 "a" losingLegs, sampleTrade 2 "b" losingLegs]

/-- Then an order the exchange does not answer, and a third loss. -/
def hiddenLoss : List LoopEnv :=
  [sampleTrade 3 "c" (sampleLegs none none), sampleTrade 4 "d" losingLegs]

/-- Two losses are allowed. -/
def twoAllowed : RiskLimits := { (default : RiskLimits) with consecutiveLossLimit := 2 }

/-- With a limit of two, the two losses block the next signal. -/
theorem sample_two_losses_block :
    ∃ b j reason, ArbBot.new (sampleLimited twoAllowed) sampleStart = .ok b ∧
      Run (step fun _ => 0) (start (BotRun.start b 0 0 0)) twoLosses j ∧
      lossStreak j.today = 2 ∧
      j.run.bot.riskManager.checkPreTrade (sampleSpread 5) = .error reason := by
  have streak : (sampleJournal twoAllowed twoLosses).map (fun j => lossStreak j.today) = some 2 := by
    decide +kernel
  obtain ⟨j, hj, two⟩ := Option.map_eq_some_iff.mp streak
  obtain ⟨b, j₁, made, first, second, one⟩ := sampleJournal_two hj
  -- The streak opens with the first trade, so the guard asks about the second.
  have guard₁ : NoFailureInStreak (fun _ => 0) (start (BotRun.start b 0 0 0))
      (sampleTrade 1 "a" losingLegs) := by
    intro t signal ht _ _ open_
    obtain ⟨⟨capital, hrisk⟩, _⟩ := new_settings made
    rcases risk_at_tick (j := start (BotRun.start b 0 0 0)) (beforeTick_framed ht) with
      ⟨hsame, _⟩ | ⟨hsame, _⟩
    · change t.bot.riskManager = b.riskManager at hsame
      rw [hsame, hrisk] at open_
      cases open_
    · rw [hsame] at open_
      cases open_
  have guard₂ : NoFailureInStreak (fun _ => 0) j₁ (sampleTrade 2 "b" losingLegs) := by
    intro t signal ht _ passed _
    have done : ((sampleJournal twoAllowed [sampleTrade 1 "a" losingLegs]).bind fun j =>
        (j.run.beforeTick (sampleTrade 2 "b" losingLegs)).toOption.bind fun t =>
          (t.bot.scorer.ranked t.bot.sharedInventory
            (sampleTrade 2 "b" losingLegs).tick.candidates).head?.map fun signal =>
              (t.calling (sampleTrade 2 "b" losingLegs).tick signal).1.state) = some .done := by
      decide +kernel
    rw [one, Option.bind_some, Outcome.toOption_eq_some.mpr ht, Option.bind_some,
      passed.best] at done
    exact execute_done_iff.mp (Option.some.inj done)
  have guarded : GuardedRun (step fun _ => 0) (NoFailureInStreak fun _ => 0)
      (start (BotRun.start b 0 0 0)) twoLosses j :=
    .cons guard₁ first (.single guard₂ second)
  obtain ⟨reason, hreason⟩ := losing_streak_blocks made guarded (le_of_eq two.symm) (sampleSpread 5)
  exact ⟨b, j, reason, made, guarded.weaken (fun _ _ _ => trivial), two, hreason⟩

/-- **Three losses, and the next signal is allowed**: the failed order between the second and
    the third has cleared the count. -/
theorem sample_failure_hides_streak :
    ∃ b j, ArbBot.new (sampleLimited default) sampleStart = .ok b ∧
      Run (step fun _ => 0) (start (BotRun.start b 0 0 0)) (twoLosses ++ hiddenLoss) j ∧
      (sampleLimited default).strategy.riskLimits.consecutiveLossLimit ≤ lossStreak j.today ∧
      j.run.bot.riskManager.checkPreTrade (sampleSpread 5) = .ok () := by
  have seen : (sampleJournal default (twoLosses ++ hiddenLoss)).map (fun j =>
      (lossStreak j.today, (j.run.bot.riskManager.checkPreTrade (sampleSpread 5)).isOk)) =
        some (3, true) := by
    decide +kernel
  obtain ⟨j, hj, h⟩ := Option.map_eq_some_iff.mp seen
  obtain ⟨b, made, run⟩ := sampleJournal_inv hj
  refine ⟨b, j, made, Run.of_foldlM run, ?_, ?_⟩
  · have three : lossStreak j.today = 3 := congrArg Prod.fst h
    rw [three]
    exact le_refl 3
  · have allowed := congrArg Prod.snd h
    cases hcheck : j.run.bot.riskManager.checkPreTrade (sampleSpread 5) with
    | error reason =>
      simp only [hcheck] at allowed
      cases allowed
    | ok u => rfl

end Journal

end ArbEngine
