import Mathlib.Data.List.DropRight
import Mathlib.Order.Bounds.Basic
import ArbEngine.Proof.Integration.Journal

/-!
# The bookkeeping of a session

The profit of a trade is entered in two places: the risk manager, which the limits read, and
the bot, which the reports read. `Agrees` says how their seven counters hang together. A trade
enters all of them (`Agrees.executed`), the daily reset clears four of them at once
(`Agrees.dailyReset`), and nothing else touches any (`Agrees.framed`).

The peak is no counter of the present: it is the largest capital among the states the run has
passed through (`CapitalReached`).
-/

namespace ArbEngine

open ArbBot

namespace BotRun

/-- The counters of the bot and of its risk manager agree. -/
structure Agrees (r : BotRun) : Prop where
  session : r.bot.sessionPnl = r.bot.riskManager.dailyPnl
  daily : r.bot.riskManager.dailyPnl = r.bot.dailyTrades.sum
  trades : r.bot.dailyTrades.length = r.bot.riskManager.tradesThisHour
  capital : r.bot.riskManager.currentCapital =
    r.bot.riskManager.initialCapital + r.bot.cumulativePnl
  streak : r.bot.riskManager.consecutiveLosses = (r.bot.dailyTrades.rtakeWhile (· < 0)).length

/-- What leaves the seven counters alone keeps them in agreement. -/
theorem Agrees.framed {r s : BotRun} (h : Agrees r) (hf : Framed r s) : Agrees s := by
  have hsession : s.bot.sessionPnl = r.bot.sessionPnl := congrArg Settings.sessionPnl hf.settings
  have hcumulative : s.bot.cumulativePnl = r.bot.cumulativePnl :=
    congrArg Settings.cumulativePnl hf.settings
  have hdaily : s.bot.dailyTrades = r.bot.dailyTrades :=
    congrArg Settings.dailyTrades hf.settings
  constructor
  · rw [hsession, hf.riskManager]
    exact h.session
  · rw [hf.riskManager, hdaily]
    exact h.daily
  · rw [hdaily, hf.riskManager]
    exact h.trades
  · rw [hf.riskManager, hcumulative]
    exact h.capital
  · rw [hf.riskManager, hdaily]
    exact h.streak

/-- The reset clears what the day has counted, in both places. -/
theorem Agrees.dailyReset {r : BotRun} (h : Agrees r) (env : ResetEnv) :
    Agrees (r.dailyReset env) := by
  unfold BotRun.dailyReset
  split
  · exact ⟨rfl, rfl, rfl, h.capital, rfl⟩
  · exact h

/-- A loss makes the streak at the end one longer, anything else ends it. -/
theorem streak_append (trades : List ℚ) (pnl : ℚ) :
    ((trades ++ [pnl]).rtakeWhile (· < 0)).length =
      if pnl < 0 then (trades.rtakeWhile (· < 0)).length + 1 else 0 := by
  rw [List.rtakeWhile_concat]
  by_cases hloss : pnl < 0 <;> simp [hloss]

/-- A trade is entered everywhere. It adds its profit to the day and to the session, to the capital
    and to the sum behind it, and makes the list of trades and their count one longer. -/
theorem Agrees.executed {t s : BotRun} {env : TickEnv} {signal : Signal} (h : Agrees t)
    (he : Executed t env signal s) : Agrees s := by
  constructor
  · rw [he.sessionPnl, he.risk, h.session]
    rfl
  · rw [he.risk, he.dailyTrades, List.sum_append, List.sum_singleton, ← h.daily]
    rfl
  · rw [he.dailyTrades, he.risk, List.length_append, List.length_singleton, h.trades]
    rfl
  · rw [he.risk, he.cumulativePnl, ← add_assoc]
    exact congrArg (· + _) h.capital
  · rw [he.risk, he.dailyTrades, streak_append, ← h.streak]
    rfl

/-- An iteration is a reset, if one is due, and then an execution or nothing that touches the
    counters. -/
theorem Agrees.step {sqrt : ℚ → ℚ} {r s : BotRun} {env : LoopEnv} (h : Agrees r)
    (hs : r.loopStep sqrt env = some s) : Agrees s := by
  obtain ⟨t, _, framed, ticked⟩ := loopStep_cases hs
  have before : Agrees t := (h.dailyReset env.reset).framed framed
  cases ticked with
  | idle hf => exact before.framed hf
  | traded signal _ _ executed => exact before.executed executed

/-! ## The peak -/

/-- The capital in a state that a run over these labels passes through. -/
def CapitalReached (sqrt : ℚ → ℚ) (r : BotRun) (envs : List LoopEnv) (capital : ℚ) : Prop :=
  ∃ past rest s, envs = past ++ rest ∧ Run (loopStep sqrt) r past s ∧
    s.bot.riskManager.currentCapital = capital

/-- An iteration raises the peak to the capital it leaves, if that is larger. -/
theorem peak_loopStep {sqrt : ℚ → ℚ} {r s : BotRun} {env : LoopEnv}
    (hs : r.loopStep sqrt env = some s)
    (below : r.bot.riskManager.currentCapital ≤ r.bot.riskManager.peakCapital) :
    s.bot.riskManager.peakCapital =
      max r.bot.riskManager.peakCapital s.bot.riskManager.currentCapital := by
  obtain ⟨t, _, framed, ticked⟩ := loopStep_cases hs
  have reset : (r.dailyReset env.reset).bot.riskManager.peakCapital =
        r.bot.riskManager.peakCapital ∧
      (r.dailyReset env.reset).bot.riskManager.currentCapital =
        r.bot.riskManager.currentCapital := by
    unfold dailyReset
    split <;> exact ⟨rfl, rfl⟩
  cases ticked with
  | idle hf =>
    rw [hf.riskManager, framed.riskManager, reset.1, reset.2, max_eq_left below]
  | traded signal _ _ executed =>
    rw [executed.risk, framed.riskManager]
    -- The risk manager writes the maximum as a comparison.
    show (if (r.dailyReset env.reset).bot.riskManager.peakCapital < _ then _ else _) =
      max r.bot.riskManager.peakCapital _
    rw [reset.1]
    split
    · rename_i higher
      exact (max_eq_right higher.le).symm
    · rename_i lower
      exact (max_eq_left (not_lt.mp lower)).symm

section Runs

variable {sqrt : ℚ → ℚ} {config : BotConfig} {start₀ : StartEnv} {b : ArbBot} {t₀ t₁ t₂ : ℚ}
  {envs : List LoopEnv} {r : BotRun}

/-- **The peak is the largest capital reached**, by a run that starts with its capital for a peak.
    By induction on the run: an iteration raises the peak to the capital that it leaves, if that is
    larger, and adds this capital to those that were reached. -/
theorem peak_isGreatest {r₀ : BotRun}
    (init : r₀.bot.riskManager.peakCapital = r₀.bot.riskManager.currentCapital)
    (run : Run (loopStep sqrt) r₀ envs r) :
    IsGreatest {c | CapitalReached sqrt r₀ envs c} r.bot.riskManager.peakCapital := by
  -- the run grows at its end, and with it the capitals it has passed through
  induction run with
  | nil =>
    constructor
    · exact ⟨[], [], r₀, rfl, .nil r₀, init.symm⟩
    · rintro c ⟨past, rest, s, heq, hrun, rfl⟩
      obtain ⟨rfl, _⟩ := List.append_eq_nil_iff.mp heq.symm
      rw [hrun.nil_inv, init]
  | @snoc s t is env run _ next ih =>
    obtain ⟨⟨past, rest, u, heq, hrun, hpeak⟩, upper⟩ := ih
    have below : s.bot.riskManager.currentCapital ≤ s.bot.riskManager.peakCapital :=
      upper ⟨is, [], s, (List.append_nil is).symm, run, rfl⟩
    rw [peak_loopStep next below]
    constructor
    · rcases max_choice s.bot.riskManager.peakCapital t.bot.riskManager.currentCapital with h | h
      · rw [h]
        exact ⟨past, rest ++ [env], u, by rw [heq, List.append_assoc], hrun, hpeak⟩
      · rw [h]
        exact ⟨is ++ [env], [], t, (List.append_nil _).symm, .snoc run trivial next, rfl⟩
    · -- A state on the way is the last one, or one that has been passed before.
      rintro c ⟨past', rest', s', heq', hrun', rfl⟩
      induction rest' using List.reverseRecOn with
      | nil =>
        rw [List.append_nil] at heq'
        subst heq'
        rw [hrun'.deterministic (.snoc run trivial next)]
        exact le_max_right _ _
      | append_singleton rest' env' =>
        rw [← List.append_assoc] at heq'
        obtain ⟨hpast, _⟩ := List.append_inj' heq' rfl
        exact le_max_of_le_left (upper ⟨past', rest', s', hpast, hrun', rfl⟩)

/-- **The bookkeeping of every run agrees**, and its peak is the largest capital so far. The
    counters agree at the start, where all of them are empty, and every iteration keeps that. -/
theorem bookkeeping_agrees (made : ArbBot.new config start₀ = .ok b)
    (run : Run (loopStep sqrt) (BotRun.start b t₀ t₁ t₂) envs r) :
    Agrees r ∧
      IsGreatest {c | CapitalReached sqrt (BotRun.start b t₀ t₁ t₂) envs c}
        r.bot.riskManager.peakCapital := by
  obtain ⟨gasOracle, inventory, hb⟩ := new_eq_ok made
  obtain ⟨⟨capital, hrisk⟩, _⟩ := new_settings made
  have totals : b.sessionPnl = 0 ∧ b.cumulativePnl = 0 ∧ b.dailyTrades = [] := by
    rw [hb, startCapital]
    split <;> exact ⟨rfl, rfl, rfl⟩
  obtain ⟨hsession, hcumulative, hdaily⟩ := totals
  constructor
  · apply run.invariant (I := Agrees)
    · intro r s env h _ hs
      exact h.step hs
    · constructor
      · show b.sessionPnl = b.riskManager.dailyPnl
        rw [hsession, hrisk]
        rfl
      · show b.riskManager.dailyPnl = b.dailyTrades.sum
        rw [hrisk, hdaily]
        rfl
      · show b.dailyTrades.length = b.riskManager.tradesThisHour
        rw [hrisk, hdaily]
        rfl
      · show b.riskManager.currentCapital = b.riskManager.initialCapital + b.cumulativePnl
        rw [hrisk, hcumulative, add_zero]
        rfl
      · show b.riskManager.consecutiveLosses = (b.dailyTrades.rtakeWhile (· < 0)).length
        rw [hrisk, hdaily]
        rfl
  · apply peak_isGreatest _ run
    show b.riskManager.peakCapital = b.riskManager.currentCapital
    rw [hrisk]
    rfl

end Runs

/-- A trade bought at 2000 and sold at 1990, and one sold at 2020 after the daily reset. -/
def lossThenGain : List LoopEnv :=
  [sampleTrade 86395 "a" (sampleLegs (some (sampleLeg true (95 / 10000)))
      (some { sampleLeg true (95 / 10000) with price := 1990 })),
    sampleTrade 86400 "b" (sampleLegs (some (sampleLeg true (95 / 10000)))
      (some { sampleLeg true (95 / 10000) with price := 2020 }))]

/-- After both only the second is a trade of the day; the first still weighs on the capital. -/
theorem sample_bookkeeping_agrees :
    ∃ b r, ArbBot.new (sampleLimited default) sampleStart = .ok b ∧
      Run (loopStep fun _ => 0) (BotRun.start b 0 0 0) lossThenGain r ∧
      r.bot.dailyTrades.length = 1 ∧ r.executions.length = 2 ∧ Agrees r := by
  have seen : (sampleJournal default lossThenGain).map (fun j =>
      (j.run.bot.dailyTrades.length, j.run.executions.length)) = some (1, 2) := by
    decide +kernel
  obtain ⟨j, hj, counted⟩ := Option.map_eq_some_iff.mp seen
  obtain ⟨b, made, hrun⟩ := sampleJournal_inv hj
  have run : Run (loopStep fun _ => 0) (BotRun.start b 0 0 0) lossThenGain j.run :=
    Journal.bot_run (Run.of_foldlM hrun)
  exact ⟨b, j.run, made, run, congrArg Prod.fst counted, congrArg Prod.snd counted,
    (bookkeeping_agrees made run).1⟩

end BotRun

end ArbEngine
