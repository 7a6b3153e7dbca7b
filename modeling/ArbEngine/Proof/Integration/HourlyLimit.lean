import ArbEngine.Proof.Integration.Journal

/-!
# The hourly limit

`trades_this_hour` counts executions, but it is cleared by the daily reset and by nothing
else. It is the number of executions of the last hour as long as the reset finds no execution
younger than an hour, and as long as the counter does not stand at the limit for longer than
that. In runs with both properties no window of 3600 seconds holds more executions than the
limit, and a signal is turned away for the limit only if the last 3600 seconds hold that many.

The clock readings are those of the loop: the reset, the check of the signal, the call of
`execute`.
-/

namespace ArbEngine

open ArbBot BotRun

namespace Journal

/-- The executions that began in the 3600 seconds from `a` on. -/
def inWindow (a : ℚ) (entries : List Entry) : ℕ :=
  entries.countP fun e => a ≤ e.time ∧ e.time < a + 3600

/-- The executions that began in the 3600 seconds before `now`. -/
def inLastHour (now : ℚ) (entries : List Entry) : ℕ :=
  entries.countP fun e => now - 3600 < e.time ∧ e.time ≤ now

/-- The readings of an iteration do not decrease, and come after those already used. -/
structure ClockRuns (j : Journal) (env : LoopEnv) : Prop where
  lastReset : j.run.lastReset ≤ env.reset.now
  entries : ∀ e ∈ j.entries, e.time ≤ env.reset.now
  reset : env.reset.now ≤ env.reset.done
  check : env.reset.done ≤ env.tick.ageNow
  call : env.tick.ageNow ≤ env.tick.clock.started

/-- **The iterations in which the counter is the count of an hour.** -/
structure CountsHour (limit : ℕ) (j : Journal) (env : LoopEnv) : Prop extends ClockRuns j env where
  /-- The daily reset forgets no execution of the last hour. -/
  forgets : 86400 ≤ env.reset.now - j.run.lastReset →
    ∀ e ∈ j.entries, e.time + 3600 ≤ env.reset.now
  /-- A signal is not checked with the counter at the limit and an older execution counted. -/
  stale : ∀ t, j.run.beforeTick env = .ok t → t.bot.tradingActive = true →
    limit ≤ t.bot.riskManager.tradesThisHour →
      ∀ e ∈ (j.turn env.reset).today, env.tick.ageNow - 3600 < e.time

/-! ## What the counter counts -/

/-- The counter counts the day, the day begins an hour after everything before it, and no
    window before it is over the limit. -/
structure HourlyInv (limit : ℕ) (j : Journal) : Prop where
  counts : j.run.bot.riskManager.tradesThisHour = j.today.length
  below : j.today.length ≤ limit
  apart : ∀ e ∈ j.before, e.time + 3600 ≤ j.run.lastReset
  after : ∀ e ∈ j.today, j.run.lastReset ≤ e.time
  windows : ∀ a, inWindow a j.before ≤ limit

/-- Executions are counted one by one. -/
theorem inWindow_append (a : ℚ) (xs ys : List Entry) :
    inWindow a (xs ++ ys) = inWindow a xs + inWindow a ys := List.countP_append

/-- Executions an hour apart share no window. -/
theorem inWindow_eq_zero_or {a mid : ℚ} {xs ys : List Entry}
    (hxs : ∀ e ∈ xs, e.time + 3600 ≤ mid) (hys : ∀ e ∈ ys, mid ≤ e.time) :
    inWindow a xs = 0 ∨ inWindow a ys = 0 := by
  by_cases hmid : mid < a + 3600
  · left
    apply List.countP_eq_zero.mpr
    intro e he
    have hle := hxs e he
    simp only [decide_eq_true_eq, not_and, not_lt]
    intro ha
    linarith
  · right
    apply List.countP_eq_zero.mpr
    intro e he
    have hle := hys e he
    simp only [decide_eq_true_eq, not_and, not_lt]
    intro _
    linarith

/-- **No window is over the limit**, whether it lies before the last reset or after it. It cannot
    reach across: what is counted now began an hour after everything that was forgotten. -/
theorem HourlyInv.window {limit : ℕ} {j : Journal} (h : HourlyInv limit j) (a : ℚ) :
    inWindow a j.entries ≤ limit := by
  unfold entries
  rw [inWindow_append]
  rcases inWindow_eq_zero_or (a := a) h.apart h.after with hzero | hzero
  · rw [hzero, zero_add]
    exact List.countP_le_length.trans h.below
  · rw [hzero, add_zero]
    exact h.windows a

/-- The page is turned without harm when the reset forgets no execution of the last hour. -/
theorem HourlyInv.turn {limit : ℕ} {j : Journal} {env : LoopEnv} (h : HourlyInv limit j)
    (guard : CountsHour limit j env) {t : BotRun}
    (framed : Framed (j.run.dailyReset env.reset) t) :
    t.bot.riskManager.tradesThisHour = (j.turn env.reset).today.length ∧
      (j.turn env.reset).today.length ≤ limit ∧
      (∀ e ∈ (j.turn env.reset).before, e.time + 3600 ≤ t.lastReset) ∧
      (∀ e ∈ (j.turn env.reset).today, t.lastReset ≤ e.time) ∧
      (∀ a, inWindow a (j.turn env.reset).before ≤ limit) ∧
      t.lastReset ≤ env.tick.clock.started := by
  rw [framed.riskManager, framed.lastReset]
  unfold BotRun.dailyReset Journal.turn
  by_cases due : 86400 ≤ env.reset.now - j.run.lastReset
  · rw [if_pos due, if_pos due]
    refine ⟨rfl, Nat.zero_le _, ?_, ?_, h.window, ?_⟩
    · intro e he
      exact (guard.forgets due e he).trans guard.reset
    · intro e he
      cases he
    · exact guard.check.trans guard.call
  · rw [if_neg due, if_neg due]
    refine ⟨h.counts, h.below, h.apart, h.after, h.windows, ?_⟩
    exact ((guard.lastReset.trans guard.reset).trans guard.check).trans guard.call

/-- **One iteration keeps the counter the count of an hour.** The reset turns the page, an
    execution is added where the counter is below the limit, and nothing else moves it. -/
theorem HourlyInv.step {sqrt : ℚ → ℚ} {config : BotConfig} {j k : Journal} {env : LoopEnv}
    (standing : BotRun.Standing config j.run)
    (h : HourlyInv config.strategy.riskLimits.maxTradesPerHour j)
    (guard : CountsHour config.strategy.riskLimits.maxTradesPerHour j env)
    (hk : j.step sqrt env = some k) :
    HourlyInv config.strategy.riskLimits.maxTradesPerHour k := by
  obtain ⟨t, ht, framed, before, wrote⟩ := step_cases hk
  obtain ⟨counts, below, apart, after, windows, started⟩ := h.turn guard framed
  cases wrote with
  | nothing hf today =>
    constructor
    case counts =>
      rw [hf.riskManager, today]
      exact counts
    case below =>
      rw [today]
      exact below
    case apart =>
      rw [before, hf.lastReset]
      exact apart
    case after =>
      rw [today, hf.lastReset]
      exact after
    case windows =>
      rw [before]
      exact windows
  | entry signal active passed executed today =>
    -- the risk check has let the signal through, so the count is below the limit
    have room : t.bot.riskManager.tradesThisHour < config.strategy.riskLimits.maxTradesPerHour := by
      obtain ⟨_, _, _, _, _, hour⟩ := RiskManager.checkPreTrade_eq_ok.mp passed.risk
      rw [(standing.beforeTick ht).limits] at hour
      exact hour
    constructor
    case counts =>
      rw [executed.risk, today, List.length_append]
      show t.bot.riskManager.tradesThisHour + 1 = _
      rw [counts]
      rfl
    case below =>
      rw [today, List.length_append, ← counts]
      exact room
    case apart =>
      rw [before, executed.lastReset]
      exact apart
    case after =>
      rw [today, executed.lastReset]
      intro e he
      rcases List.mem_append.mp he with he | he
      · exact after e he
      · rw [List.mem_singleton.mp he]
        exact started
    case windows =>
      rw [before]
      exact windows

/-- A refusal for the hourly limit means that the counter stands at it. -/
theorem checkPreTrade_hourlyTrades {risk : RiskManager} {signal : Signal} {n : ℕ}
    (h : risk.checkPreTrade signal = .error (.hourlyTrades n)) :
    risk.limits.maxTradesPerHour ≤ risk.tradesThisHour := by
  by_contra below
  unfold RiskManager.checkPreTrade at h
  simp only [if_neg below] at h
  split at h
  · cases h
  · split at h
    · cases h
    · split at h
      · cases h
      · split at h
        · cases h
        · split at h
          · cases h
          · cases h

section Runs

variable {sqrt : ℚ → ℚ} {config : BotConfig} {start₀ : StartEnv} {b : ArbBot} {t₀ t₁ t₂ : ℚ}
  {envs : List LoopEnv} {j : Journal}

/-- And so does every run from the start of a bot, where nothing has been counted. -/
theorem hourlyInv_run (made : ArbBot.new config start₀ = .ok b)
    (run : GuardedRun (step sqrt) (CountsHour config.strategy.riskLimits.maxTradesPerHour)
      (start (BotRun.start b t₀ t₁ t₂)) envs j) :
    HourlyInv config.strategy.riskLimits.maxTradesPerHour j := by
  have both := run.invariant
    (I := fun j => BotRun.Standing config j.run ∧
      HourlyInv config.strategy.riskLimits.maxTradesPerHour j) ?_ ?_
  · exact both.2
  · intro j k env ⟨standing, h⟩ guard hk
    exact ⟨standing.step (bot_step hk), h.step standing guard hk⟩
  · refine ⟨.start t₀ t₁ t₂ made, ?_⟩
    obtain ⟨⟨capital, hrisk⟩, _⟩ := new_settings made
    constructor
    case counts =>
      show b.riskManager.tradesThisHour = 0
      rw [hrisk]
      rfl
    case below => exact Nat.zero_le _
    case apart =>
      intro e he
      cases he
    case after =>
      intro e he
      cases he
    case windows =>
      intro a
      exact Nat.zero_le _

/-- **The hourly limit is an hourly limit** in every run whose iterations count an hour: no window
    of 3600 seconds has more executions than the limit, and a tick that turns a signal away for the
    limit comes after that many executions in the last 3600 seconds. For the second half, the
    counter is at the limit by what the refusal says, and then all that it counts is young by
    `CountsHour.stale`. -/
theorem hourly_limit_is_hourly (made : ArbBot.new config start₀ = .ok b)
    (run : GuardedRun (step sqrt) (CountsHour config.strategy.riskLimits.maxTradesPerHour)
      (start (BotRun.start b t₀ t₁ t₂)) envs j) :
    (∀ a, inWindow a j.entries ≤ config.strategy.riskLimits.maxTradesPerHour) ∧
      ∀ env t signal n, CountsHour config.strategy.riskLimits.maxTradesPerHour j env →
        j.run.beforeTick env = .ok t → t.bot.tradingActive = true →
          t.bot.riskManager.checkPreTrade signal = .error (.hourlyTrades n) →
            config.strategy.riskLimits.maxTradesPerHour ≤ inLastHour env.tick.ageNow j.entries := by
  have inv := hourlyInv_run made run
  refine ⟨inv.window, ?_⟩
  intro env t signal n guard ht active refused
  have standing : BotRun.Standing config t := (BotRun.Standing.run made (bot_run run)).beforeTick ht
  have full := checkPreTrade_hourlyTrades refused
  rw [standing.limits] at full
  obtain ⟨counts, _, _⟩ := inv.turn guard (beforeTick_framed ht)
  -- what the counter has counted lies within the hour, by the second part of the guard
  have recent : inLastHour env.tick.ageNow (j.turn env.reset).today =
      (j.turn env.reset).today.length := by
    apply List.countP_eq_length.mpr
    intro e he
    have mem : e ∈ j.entries := by
      rw [← turn_entries j env.reset]
      exact List.mem_append_right _ he
    have past : e.time ≤ env.tick.ageNow :=
      ((guard.entries e mem).trans guard.reset).trans guard.check
    exact decide_eq_true ⟨guard.stale t ht active full e he, past⟩
  calc config.strategy.riskLimits.maxTradesPerHour
      ≤ (j.turn env.reset).today.length := counts ▸ full
    _ = inLastHour env.tick.ageNow (j.turn env.reset).today := recent.symm
    _ ≤ inLastHour env.tick.ageNow (j.turn env.reset).entries := by
        unfold entries inLastHour
        rw [List.countP_append]
        exact Nat.le_add_left _ _
    _ = inLastHour env.tick.ageNow j.entries := by rw [turn_entries]

end Runs

/-! ## One trade an hour -/

def onePerHour : RiskLimits := { (default : RiskLimits) with maxTradesPerHour := 1 }

/-- Full fills at the prices of the signal. -/
def fullFills : Legs := simulationLegs default 1 1 0

/-- The readings of a sample iteration are all the same. -/
theorem sampleTrade_clockRuns {j : Journal} {now : ℚ} (id : String) (legs : Legs)
    (lastReset : j.run.lastReset ≤ now) (entries : ∀ e ∈ j.entries, e.time ≤ now) :
    ClockRuns j (sampleTrade now id legs) :=
  ⟨lastReset, entries, le_refl now, le_refl now, le_refl now⟩

/-- At the start every reading is possible that is not negative. -/
theorem start_clockRuns (b : ArbBot) {now : ℚ} (h : 0 ≤ now) (id : String) (legs : Legs) :
    ClockRuns (start (BotRun.start b 0 0 0)) (sampleTrade now id legs) := by
  apply sampleTrade_clockRuns id legs h
  intro e he
  cases he

/-- The first trade of the small account counts an hour. -/
theorem sample_first_trade_counts_hour :
    ∃ b j, ArbBot.new (sampleLimited onePerHour) sampleStart = .ok b ∧
      Run (step fun _ => 0) (start (BotRun.start b 0 0 0)) [sampleTrade 1 "a" fullFills] j ∧
      j.entries.length = 1 ∧ ∀ a, inWindow a j.entries ≤ 1 := by
  have traded : (sampleJournal onePerHour [sampleTrade 1 "a" fullFills]).map (fun j =>
      j.entries.length) = some 1 := by
    decide +kernel
  obtain ⟨j, hj, one⟩ := Option.map_eq_some_iff.mp traded
  obtain ⟨b, made, run⟩ := sampleJournal_inv hj
  obtain ⟨j₁, first, run⟩ := Option.bind_eq_some_iff.mp run
  cases run
  have guard : CountsHour (sampleLimited onePerHour).strategy.riskLimits.maxTradesPerHour
      (start (BotRun.start b 0 0 0)) (sampleTrade 1 "a" fullFills) := by
    refine ⟨start_clockRuns b (by norm_num) "a" fullFills, ?_, ?_⟩
    · intro _ e he
      cases he
    · intro t _ _ _ e he
      unfold turn at he
      split at he
      · cases he
      · cases he
  have guarded : GuardedRun (step fun _ => 0) (CountsHour _) (start (BotRun.start b 0 0 0))
      [sampleTrade 1 "a" fullFills] j := .single guard first
  exact ⟨b, j, made, guarded.weaken (fun _ _ _ => trivial), one,
    (hourly_limit_is_hourly made guarded).1⟩

/-- Two sample iterations, the clock running. -/
theorem sample_two_clockRuns {now later : ℚ} {j : Journal} (hnow : 0 ≤ now) (hle : now ≤ later)
    (seen : (sampleJournal onePerHour [sampleTrade now "a" fullFills]).map (fun j =>
      (j.run.lastReset, j.entries.map Entry.time)) = some (0, [now]))
    (h : sampleJournal onePerHour [sampleTrade now "a" fullFills, sampleTrade later "b" fullFills] =
      some j) :
    ∃ b, ArbBot.new (sampleLimited onePerHour) sampleStart = .ok b ∧
      GuardedRun (step fun _ => 0) ClockRuns (start (BotRun.start b 0 0 0))
        [sampleTrade now "a" fullFills, sampleTrade later "b" fullFills] j := by
  obtain ⟨b, j₁, made, first, second, one⟩ := sampleJournal_two h
  rw [one] at seen
  have hreset : j₁.run.lastReset = 0 := congrArg Prod.fst (Option.some.inj seen)
  have htimes : j₁.entries.map Entry.time = [now] := congrArg Prod.snd (Option.some.inj seen)
  refine ⟨b, made, .cons (start_clockRuns b hnow "a" fullFills) first (.single ?_ second)⟩
  apply sampleTrade_clockRuns
  · rw [hreset]
    exact hnow.trans hle
  · intro e he
    have mem : e.time ∈ [now] := by
      rw [← htimes]
      exact List.mem_map_of_mem he
    rw [List.mem_singleton.mp mem]
    exact hle

/-- **The counter is not the count of an hour.** With a limit of one, two trades five seconds
    apart with the daily reset between them; and, two hours after a single trade, a refusal
    for the hourly limit. -/
theorem sample_limit_is_not_hourly :
    (∃ b j, ArbBot.new (sampleLimited onePerHour) sampleStart = .ok b ∧
      GuardedRun (step fun _ => 0) ClockRuns (start (BotRun.start b 0 0 0))
        [sampleTrade 86395 "a" fullFills, sampleTrade 86400 "b" fullFills] j ∧
      onePerHour.maxTradesPerHour < inWindow 86395 j.entries) ∧
    (∃ b j t signal, ArbBot.new (sampleLimited onePerHour) sampleStart = .ok b ∧
      GuardedRun (step fun _ => 0) ClockRuns (start (BotRun.start b 0 0 0))
        [sampleTrade 1 "a" fullFills, sampleTrade 7200 "b" fullFills] j ∧
      j.run.beforeTick (sampleTrade 7215 "c" fullFills) = .ok t ∧ t.bot.tradingActive = true ∧
      t.bot.riskManager.checkPreTrade signal = .error (.hourlyTrades 1) ∧
      inLastHour 7215 j.entries < onePerHour.maxTradesPerHour) := by
  constructor
  · -- the reset at midnight sets the counter back between the two
    have seen : (sampleJournal onePerHour
        [sampleTrade 86395 "a" fullFills, sampleTrade 86400 "b" fullFills]).map (fun j =>
          inWindow 86395 j.entries) = some 2 := by
      decide +kernel
    obtain ⟨j, hj, two⟩ := Option.map_eq_some_iff.mp seen
    obtain ⟨b, made, run⟩ := sample_two_clockRuns (by norm_num) (by norm_num)
      (by decide +kernel) hj
    refine ⟨b, j, made, run, ?_⟩
    rw [two]
    exact Nat.lt_succ_self 1
  · -- nothing sets it back after two hours
    have seen : ((sampleJournal onePerHour
        [sampleTrade 1 "a" fullFills, sampleTrade 7200 "b" fullFills]).bind fun j =>
          (j.run.beforeTick (sampleTrade 7215 "c" fullFills)).toOption.map fun t =>
            (inLastHour 7215 j.entries, t.bot.tradingActive,
              decide (t.bot.riskManager.checkPreTrade (sampleSpread 7215) =
                .error (.hourlyTrades 1)))) = some (0, true, true) := by
      decide +kernel
    obtain ⟨j, hj, seen⟩ := Option.bind_eq_some_iff.mp seen
    obtain ⟨t, ht, seen⟩ := Option.map_eq_some_iff.mp seen
    obtain ⟨b, made, run⟩ := sample_two_clockRuns (by norm_num) (by norm_num)
      (by decide +kernel) hj
    refine ⟨b, j, t, sampleSpread 7215, made, run, Outcome.toOption_eq_some.mp ht, ?_, ?_, ?_⟩
    · exact congrArg (fun x => x.2.1) seen
    · exact of_decide_eq_true (congrArg (fun x => x.2.2) seen)
    · have none_recent : inLastHour 7215 j.entries = 0 := congrArg Prod.fst seen
      rw [none_recent]
      exact Nat.zero_lt_one

end Journal

end ArbEngine
