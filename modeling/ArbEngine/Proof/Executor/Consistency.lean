import ArbEngine.Proof.Executor.Books
import ArbEngine.Proof.Executor.Contexts

/-!
# The context, the counters and the trace of a call agree

`execute` has fourteen ways out, and each of them sets the state, the error and a counter by
hand. `ConsistentCall` is what they have in common. Either flow leaves an error exactly where it
fails and touches no counter that `execute` keeps (`Flowed`); everything else is in the endings
of a flow (`FlowEnd`) already.

There is one more way out, and it is no return: a leg timeout that is no `Duration` panics when
the call comes to its leg. The attempt has been counted by then and no outcome has, so a run of
calls counts as many attempts as successes, failures and panics together
(`execute_consistent`).
-/

namespace ArbEngine

/-! ## The error and the counters of a flow -/

/-- The counters `execute` keeps itself. -/
def ExecutionMetrics.calls (m : ExecutionMetrics) : ℕ × ℕ × ℕ :=
  (m.executionAttempts, m.executionSuccess, m.executionFailure)

/-- What a flow does to the error of its context and to the counters of the calls. -/
structure Flowed (r r' : ExecRun) : Prop where
  error : (r'.ctx.state = .done ∧ r'.ctx.error = none) ∨
    (r'.ctx.state = .failed ∧ r'.ctx.error.isSome = true)
  calls : r'.metrics.calls = r.metrics.calls

section Flows

variable {config : ExecutorConfig} {legs : Legs} {r : ExecRun}
  {first : ExecRun → ExecRun × Option ℚ} {second : ℚ → ExecRun → ExecRun} {filled : ℚ}

theorem Flowed.failed {r' : ExecRun} {e : ExecError} (hs : r'.ctx.state = .failed)
    (he : r'.ctx.error = some e) (hm : r'.metrics.calls = r.metrics.calls) : Flowed r r' :=
  ⟨.inr ⟨hs, by rw [he, Option.isSome_some]⟩, hm⟩

/-- What a first leg does to them: the flow is over with an error, or goes on without one. In
    neither case has a counter of the calls moved; only the counters of the venues have. -/
inductive FirstFlowed (r : ExecRun) : ExecRun × Option ℚ → Prop where
  | ended {r' : ExecRun} (flowed : Flowed r r') : FirstFlowed r (r', none)
  | goesOn {r' : ExecRun} {filled : ℚ} (error : r'.ctx.error = r.ctx.error)
      (calls : r'.metrics.calls = r.metrics.calls) : FirstFlowed r (r', some filled)

/-- The first leg on the exchange. It is over where it did not answer in time, was no success, or
    filled too little. -/
theorem firstCexLeg_flowed (r : ExecRun) : FirstFlowed r (firstCexLeg config legs r) := by
  unfold firstCexLeg
  simp only [ExecRun.enter, ExecRun.awaited, ExecRun.book, ExecRun.withError,
    ExecRun.countCexFailure]
  cases legs.cex r.ctx.signal none with
  | none => exact .ended (.failed rfl rfl rfl)
  | some leg =>
    simp only
    split
    · exact .ended (.failed rfl rfl rfl)
    · split
      · exact .ended (.failed rfl rfl rfl)
      · exact .goesOn rfl rfl

/-- The first leg on the chain, which has no ratio to fill. -/
theorem firstDexLeg_flowed (r : ExecRun) : FirstFlowed r (firstDexLeg legs r) := by
  unfold firstDexLeg
  simp only [ExecRun.enter, ExecRun.awaited, ExecRun.book, ExecRun.withError,
    ExecRun.countDexFailure]
  cases legs.dex r.ctx.signal r.ctx.signal.size with
  | none => exact .ended (.failed rfl rfl rfl)
  | some leg =>
    simp only
    split
    · exact .ended (.failed rfl rfl rfl)
    · exact .goesOn rfl rfl

/-- The second leg on the chain. If it is not taken the flow unwinds and fails with an error;
    otherwise it is done, and no error was left before. -/
theorem secondDexLeg_flowed (herr : r.ctx.error = none) :
    Flowed r (secondDexLeg config legs filled r) := by
  unfold secondDexLeg
  simp only [ExecRun.enter, ExecRun.awaited, ExecRun.book, ExecRun.withError,
    ExecRun.countDexFailure, ExecRun.unwound]
  cases legs.dex r.ctx.signal filled with
  | none => exact .failed rfl rfl rfl
  | some leg =>
    simp only
    split
    · exact .failed rfl rfl rfl
    · exact ⟨.inl ⟨rfl, herr⟩, rfl⟩

/-- The second leg on the exchange, alike. -/
theorem secondCexLeg_flowed (herr : r.ctx.error = none) :
    Flowed r (secondCexLeg config legs filled r) := by
  unfold secondCexLeg
  simp only [ExecRun.enter, ExecRun.awaited, ExecRun.book, ExecRun.withError,
    ExecRun.countCexFailure, ExecRun.unwound]
  cases legs.cex r.ctx.signal (some filled) with
  | none => exact .failed rfl rfl rfl
  | some leg =>
    simp only
    split
    · exact .failed rfl rfl rfl
    · exact ⟨.inl ⟨rfl, herr⟩, rfl⟩

/-- Two legs in a row: if the first one ends the flow the second is never asked. -/
theorem runFlow_flowed (herr : r.ctx.error = none) (one : FirstFlowed r (first r))
    (two : ∀ filled r, r.ctx.error = none → Flowed r (second filled r)) :
    Flowed r (runFlow first second r) := by
  unfold runFlow
  generalize first r = out at one ⊢
  cases one with
  | ended flowed => exact flowed
  | @goesOn r' filled error calls =>
    have rest := two filled r' (error.trans herr)
    exact ⟨rest.error, rest.calls.trans calls⟩

/-- Either flow, from a context without an error. -/
theorem executeLegs_flowed (config : ExecutorConfig) (legs : Legs) (r : ExecRun)
    (herr : r.ctx.error = none) : Flowed r (executeLegs config legs r) := by
  unfold executeLegs
  cases r.ctx.signal.direction with
  | buyDexSellCex =>
    have flowed : Flowed (r.beginFlow "dex") (executeDexFirst config legs r) :=
      runFlow_flowed herr (firstDexLeg_flowed _) fun _ _ => secondCexLeg_flowed
    exact ⟨flowed.error, flowed.calls⟩
  | buyCexSellDex =>
    have flowed : Flowed (r.beginFlow "cex") (executeCexFirst config legs r) :=
      runFlow_flowed herr (firstCexLeg_flowed _) fun _ _ => secondDexLeg_flowed
    exact ⟨flowed.error, flowed.calls⟩

end Flows

/-! ## A call -/

/-- The counters move for one call that ended in this state. -/
def countCall (m : ExecutionMetrics) (state : ExecutorState) : ℕ × ℕ × ℕ :=
  if state = .done then
    (m.executionAttempts + 1, m.executionSuccess + 1, m.executionFailure)
  else (m.executionAttempts + 1, m.executionSuccess, m.executionFailure + 1)

/-- The counters at the end of a call: one success, or one failure. -/
theorem calls_countOutcome {m : ExecutionMetrics} {ctx : ExecutionContext} :
    (Executor.countOutcome m ctx).calls =
      if ctx.state = .done then
        (m.executionAttempts, m.executionSuccess + 1, m.executionFailure)
      else (m.executionAttempts, m.executionSuccess, m.executionFailure + 1) := by
  unfold Executor.countOutcome
  split <;> rfl

section Call

variable (ex : Executor) (clock : ExecClock) (legs : Legs) (signal : Signal)

/-- **A call leaves an error exactly where it fails, and counts itself once.** An admitted call has
    counted its attempt before the flow, and its outcome after it. One that is turned away has
    counted its attempt and a failure. -/
theorem execute_flowed :
    (((ex.execute clock legs signal).1.state = .done ∧
          (ex.execute clock legs signal).1.error = none) ∨
        ((ex.execute clock legs signal).1.state = .failed ∧
          (ex.execute clock legs signal).1.error.isSome = true)) ∧
      (ex.execute clock legs signal).2.1.metrics.calls =
        countCall ex.metrics (ex.execute clock legs signal).1.state := by
  by_cases hadm : Admitted ex clock signal
  · have flowed := executeLegs_flowed ex.config legs (ex.begun clock signal) rfl
    rw [execute_of_admitted legs hadm]
    refine ⟨flowed.error, ?_⟩
    have counters := flowed.calls
    simp only [ExecutionMetrics.calls, Prod.mk.injEq] at counters
    show (Executor.countOutcome _ _).calls = _
    rw [calls_countOutcome, counters.1, counters.2.1, counters.2.2]
    rfl
  · have away := execute_of_not_admitted legs hadm
    obtain ⟨error, hctx⟩ := away.ctx
    rw [hctx, away.metrics]
    exact ⟨.inr ⟨rfl, rfl⟩, rfl⟩

/-- The first leg is taken, and the second is not. -/
def SecondMissing : Prop :=
  Admitted ex clock signal ∧ ∃ leg, firstReply legs signal = some leg ∧
    TakesFirst ex.config signal leg ∧
      ∀ leg2, secondReply legs signal leg.filled = some leg2 → leg2.success = false

/-- The calls of `unwind` in a trace. -/
def unwindings (trace : List ExecEvent) : ℕ := trace.count .unwound

/-- Every reply of the second leg comes after one of the first that is taken. It is the reply that
    is looked at, not the state that the executor says it is in. -/
def SecondAfterFirst (config : ExecutorConfig) (signal : Signal) (trace : List ExecEvent) :
    Prop :=
  ∀ before reply after,
    trace = before ++ .awaited (venueOf (secondVenue signal.direction)) reply :: after →
      ∃ leg, .awaited (venueOf (firstVenue signal.direction)) (some leg) ∈ before ∧
        TakesFirst config signal leg

/-- Context, trace and counters that a call returns agree. The fields are the promises of the
    executor one by one: how a call ends, what is filled in where it is done, the order of its
    legs, the calls of `unwind`, and what has been counted. -/
structure ConsistentReturn (out : ExecutionContext × Executor × List ExecEvent) : Prop where
  ends : out.1.state = .done ∨ out.1.state = .failed
  done_iff : out.1.state = .done ↔ out.1.actualNetPnl.isSome = true
  filled : out.1.state = .done →
    out.1.leg1FillPrice.isSome = true ∧ out.1.leg1FillSize.isSome = true ∧
      out.1.leg2FillPrice.isSome = true ∧ out.1.leg2FillSize.isSome = true ∧
      out.1.error = none
  failed_iff : out.1.state = .failed ↔ out.1.error.isSome = true
  second_after_first : SecondAfterFirst ex.config signal out.2.2
  unwound : SecondMissing ex clock legs signal → unwindings out.2.2 = 1
  otherwise : ¬ SecondMissing ex clock legs signal → unwindings out.2.2 = 0
  counted : out.2.1.metrics.calls = countCall ex.metrics out.1.state

end Call

/-! ## The trace of a call -/

/-- The two legs of a flow are at different venues, so an answer tells which leg it is of. -/
theorem venues_differ (direction : Direction) :
    venueOf (firstVenue direction) ≠ venueOf (secondVenue direction) := by
  cases direction <;> decide

section Trace

variable {config : ExecutorConfig} {legs : Legs} {signal : Signal} {t t' : InventoryTracker}
  {path : List ExecEvent} {state : ExecutorState} {fill1 fill2 : Option ℚ}

theorem SecondAfterFirst.nil : SecondAfterFirst config signal [] := by
  intro before reply after heq
  cases before <;> cases heq

/-- An event that is no answer of the second leg can come in front. -/
theorem SecondAfterFirst.cons {e : ExecEvent} (h : SecondAfterFirst config signal path)
    (he : ∀ reply, e ≠ .awaited (venueOf (secondVenue signal.direction)) reply) :
    SecondAfterFirst config signal (e :: path) := by
  intro before reply after heq
  cases before with
  | nil => exact absurd (List.cons.inj heq).1 (he reply)
  | cons b before =>
    obtain ⟨_, heq⟩ := List.cons.inj heq
    obtain ⟨leg, hleg, yes⟩ := h before reply after heq
    exact ⟨leg, List.mem_cons_of_mem _ hleg, yes⟩

/-- A change of the state is such an event. -/
theorem SecondAfterFirst.entered {s : ExecutorState} (h : SecondAfterFirst config signal path) :
    SecondAfterFirst config signal (.entered s :: path) :=
  h.cons fun _ => ExecEvent.noConfusion

/-- And so is an answer of the first leg. -/
theorem awaited_first_ne (reply reply' : Option LegResult) :
    ExecEvent.awaited (venueOf (firstVenue signal.direction)) reply ≠
      .awaited (venueOf (secondVenue signal.direction)) reply' := by
  intro heq
  exact venues_differ signal.direction (ExecEvent.awaited.inj heq).1

/-- Once the first leg is taken, the rest of the trace may hold anything. -/
theorem SecondAfterFirst.taken {leg : LegResult} (yes : TakesFirst config signal leg)
    (path : List ExecEvent) : SecondAfterFirst config signal
      (.awaited (venueOf (firstVenue signal.direction)) (some leg) :: path) := by
  intro before reply after heq
  cases before with
  | nil => exact absurd (List.cons.inj heq).1 (awaited_first_ne _ _)
  | cons b before =>
    obtain ⟨rfl, _⟩ := List.cons.inj heq
    exact ⟨leg, List.mem_cons_self, yes⟩

/-- **No flow asks for its second leg before the first is taken.** The two ends without a second
    leg have no such answer; in the others the taken first one comes in front. -/
theorem FlowEnd.second_after_first
    (h : FlowEnd config legs signal t path t' state fill1 fill2) :
    SecondAfterFirst config signal path := by
  cases h with
  -- the first leg is the only one that was awaited
  | silentFirst | refusedFirst =>
    exact (SecondAfterFirst.nil.entered.cons fun reply => awaited_first_ne _ reply).entered
  | silentSecond leg _ yes => exact (SecondAfterFirst.taken yes _).entered
  | refusedSecond leg _ _ yes => exact (SecondAfterFirst.taken yes _).entered
  | finished leg _ _ yes => exact (SecondAfterFirst.taken yes _).entered

/-- **A flow unwinds once if its first leg stands alone**, and never otherwise. -/
theorem FlowEnd.unwindings_eq (h : FlowEnd config legs signal t path t' state fill1 fill2) :
    ((∃ leg, firstReply legs signal = some leg ∧ TakesFirst config signal leg ∧
          ∀ leg2, secondReply legs signal leg.filled = some leg2 → leg2.success = false) ∧
        unwindings path = 1) ∨
      ((¬ ∃ leg, firstReply legs signal = some leg ∧ TakesFirst config signal leg ∧
          ∀ leg2, secondReply legs signal leg.filled = some leg2 → leg2.success = false) ∧
        unwindings path = 0) := by
  rcases h.unwinds_or_not with ⟨leg, reply, hfirst, yes, alone, _, rfl⟩ | ⟨_, taken⟩
  · refine .inl ⟨⟨leg, hfirst, yes, alone⟩, ?_⟩
    simp [unwindings, unwoundPath]
  · -- where the second leg is taken the first does not stand alone
    have never : ¬ ∃ leg, firstReply legs signal = some leg ∧ TakesFirst config signal leg ∧
        ∀ leg2, secondReply legs signal leg.filled = some leg2 → leg2.success = false := by
      rintro ⟨leg, hfirst, yes, alone⟩
      obtain ⟨leg2, hsecond, success⟩ := taken leg hfirst yes
      rw [alone leg2 hsecond] at success
      cases success
    refine .inr ⟨never, ?_⟩
    cases h with
    | silentFirst => simp [unwindings]
    | refusedFirst => simp [unwindings]
    | silentSecond leg hfirst yes hsecond =>
      refine absurd ⟨leg, hfirst, yes, ?_⟩ never
      intro leg2 hleg2
      rw [hsecond] at hleg2
      cases hleg2
    | refusedSecond leg leg2 hfirst yes hsecond no =>
      refine absurd ⟨leg, hfirst, yes, ?_⟩ never
      intro leg2' hleg2
      rw [hsecond] at hleg2
      cases hleg2
      exact no
    | finished => simp [unwindings]

end Trace

/-- **A call that gets through its legs is consistent.** The error and the counters come from the
    flow (`execute_flowed`), the fields of the context from `execute_context`, and the order of the
    legs and the unwindings from the trace. -/
theorem consistent_execute (ex : Executor) (clock : ExecClock) (legs : Legs) (signal : Signal) :
    ConsistentReturn ex clock legs signal (ex.execute clock legs signal) := by
  obtain ⟨outcome, counted⟩ := execute_flowed ex clock legs signal
  obtain ⟨_, context⟩ := execute_context ex clock legs signal
  have trace : SecondAfterFirst ex.config signal (ex.execute clock legs signal).2.2 ∧
      ((SecondMissing ex clock legs signal ∧ unwindings (ex.execute clock legs signal).2.2 = 1) ∨
        (¬ SecondMissing ex clock legs signal ∧
          unwindings (ex.execute clock legs signal).2.2 = 0)) := by
    rcases execute_cases ex clock legs signal with
      ⟨hno, _, _, htrace⟩ | ⟨hadm, path, htrace, hend⟩
    · -- the call was turned away: it has no legs, and its trace has no unwinding
      have never : ¬ SecondMissing ex clock legs signal := fun h => hno h.1
      rcases htrace with htrace | htrace <;> rw [htrace]
      · exact ⟨SecondAfterFirst.nil.entered, .inr ⟨never, rfl⟩⟩
      · exact ⟨SecondAfterFirst.nil.entered.entered, .inr ⟨never, rfl⟩⟩
    · rw [htrace]
      refine ⟨hend.second_after_first.entered, ?_⟩
      have same : unwindings (.entered .validating :: path) = unwindings path :=
        List.count_cons_of_ne (by decide)
      rw [same]
      rcases hend.unwindings_eq with ⟨alone, once⟩ | ⟨no, zero⟩
      · exact .inl ⟨⟨hadm, alone⟩, once⟩
      · exact .inr ⟨fun h => no h.2, zero⟩
  obtain ⟨second, unwound⟩ := trace
  -- the two cases of the trace exclude each other
  have once : SecondMissing ex clock legs signal →
      unwindings (ex.execute clock legs signal).2.2 = 1 := by
    intro alone
    rcases unwound with ⟨_, one⟩ | ⟨no, _⟩
    · exact one
    · exact absurd alone no
  have otherwise : ¬ SecondMissing ex clock legs signal →
      unwindings (ex.execute clock legs signal).2.2 = 0 := by
    intro no
    rcases unwound with ⟨alone, _⟩ | ⟨_, zero⟩
    · exact absurd alone no
    · exact zero
  rcases outcome with ⟨done, noError⟩ | ⟨failed, hasError⟩
  · rcases context with ⟨leg, leg2, _, settled⟩ | ⟨_, unsettled⟩
    · refine ⟨.inl done, ?_, ?_, ?_, second, once, otherwise, counted⟩
      · rw [settled.pnl]
        exact iff_of_true done rfl
      · intro _
        rw [settled.price1, settled.size1, settled.price2, settled.size2]
        exact ⟨rfl, rfl, rfl, rfl, noError⟩
      · rw [done, noError]
        exact ⟨fun h => ExecutorState.noConfusion h, fun h => Bool.noConfusion h⟩
    · rw [unsettled.state] at done
      cases done
  · -- a call that failed has not settled its context
    rcases context with ⟨leg, leg2, _, settled⟩ | ⟨_, unsettled⟩
    · rw [settled.state] at failed
      cases failed
    · refine ⟨.inr failed, ?_, ?_, ?_, second, once, otherwise, counted⟩
      · rw [failed, unsettled.pnl]
        exact ⟨fun h => ExecutorState.noConfusion h, fun h => Bool.noConfusion h⟩
      · intro done
        rw [failed] at done
        cases done
      · exact iff_of_true failed hasError

/-! ## Timeouts of any kind -/

/-- The timeout of a leg, whichever comes first. -/
def legTimeout (config : ExecutorConfig) (venueStr : String) : XRat :=
  if venueStr = "cex" then config.leg1TimeoutSec else config.leg2TimeoutSec

/-- Each timeout that a flow comes to is a duration: the first leg's, and the second's where the
    first leg is taken. -/
def LegsTimed (config : ExecutorConfig) (legs : Legs) (signal : Signal) : Prop :=
  IsDuration (legTimeout config (firstVenue signal.direction)) ∧
    ((∃ leg, firstReply legs signal = some leg ∧ TakesFirst config signal leg) →
      IsDuration (legTimeout config (secondVenue signal.direction)))

section Timeouts

variable {config : ExecutorConfig} {legs : Legs} {r : ExecRun} {timeout1 timeout2 : XRat}
  {first : ExecRun → ExecRun × Option ℚ} {second : ℚ → ExecRun → ExecRun}

/-- Where each timeout that is reached is a duration, the timed flow is the flow. -/
theorem runFlowTimed_of_timed (one : IsDuration timeout1)
    (two : (first r).2.isSome = true → IsDuration timeout2) :
    runFlowTimed timeout1 timeout2 first second r = .ok (runFlow first second r) := by
  unfold runFlowTimed runFlow
  rw [if_neg (not_not_intro one)]
  rcases hout : first r with ⟨r', _ | filled⟩
  · rfl
  · rw [hout] at two
    exact if_neg (not_not_intro (two rfl))

/-- **A panic comes before its leg**: nothing has been counted since the call was admitted. The
    first timeout is looked at before the first leg, and the second one between the legs. -/
theorem runFlowTimed_panics (flowed : FirstFlowed r (first r))
    (h : ¬ (IsDuration timeout1 ∧ ((first r).2.isSome = true → IsDuration timeout2))) :
    ∃ r', runFlowTimed timeout1 timeout2 first second r = .error r' ∧
      r'.metrics.calls = r.metrics.calls := by
  unfold runFlowTimed
  by_cases one : IsDuration timeout1
  · rw [if_neg (not_not_intro one)]
    generalize first r = out at flowed h ⊢
    cases flowed with
    | ended => exact absurd ⟨one, fun none => Bool.noConfusion none⟩ h
    | goesOn _ calls =>
      have two : ¬ IsDuration timeout2 := fun two => h ⟨one, fun _ => two⟩
      exact ⟨_, if_pos two, calls⟩
  · rw [if_pos one]
    exact ⟨r, rfl, rfl⟩

/-- The CEX-first flow goes on exactly where its first leg is taken. -/
theorem firstCexLeg_goesOn_iff (hdir : r.ctx.signal.direction = .buyCexSellDex) :
    (firstCexLeg config legs r).2.isSome = true ↔
      ∃ leg, firstReply legs r.ctx.signal = some leg ∧ TakesFirst config r.ctx.signal leg := by
  have reply : firstReply legs r.ctx.signal = legs.cex r.ctx.signal none := by
    rw [firstReply, hdir]
  rw [reply]
  unfold firstCexLeg
  simp only [ExecRun.awaited]
  cases legs.cex r.ctx.signal none with
  | none => simp
  | some leg =>
    simp only [Option.some.injEq, exists_eq_left', TakesFirst, hdir, true_implies]
    cases leg.success with
    | false => simp
    | true =>
      cases fillRatioBelow leg.filled r.ctx.signal.size config.minFillRatio with
      | true => simp
      | false => simp

/-- And so does the other flow, where a success is enough. -/
theorem firstDexLeg_goesOn_iff (hdir : r.ctx.signal.direction = .buyDexSellCex) :
    (firstDexLeg legs r).2.isSome = true ↔
      ∃ leg, firstReply legs r.ctx.signal = some leg ∧ TakesFirst config r.ctx.signal leg := by
  have reply : firstReply legs r.ctx.signal = legs.dex r.ctx.signal r.ctx.signal.size := by
    rw [firstReply, hdir]
  rw [reply]
  unfold firstDexLeg
  simp only [ExecRun.awaited]
  cases legs.dex r.ctx.signal r.ctx.signal.size with
  | none => simp
  | some leg =>
    simp only [Option.some.injEq, exists_eq_left', TakesFirst, hdir, reduceCtorEq, false_implies,
      and_true]
    cases leg.success with
    | false => simp
    | true => simp

/-- **A flow panics exactly where it comes to a timeout that is no duration.** The timeouts belong
    to the venues: which of the two is the first leg's depends on the direction. -/
theorem executeLegsTimed_cases (config : ExecutorConfig) (legs : Legs) (r : ExecRun) :
    (LegsTimed config legs r.ctx.signal ∧
        executeLegsTimed config legs r = .ok (executeLegs config legs r)) ∨
      (¬ LegsTimed config legs r.ctx.signal ∧
        ∃ r', executeLegsTimed config legs r = .error r' ∧
          r'.metrics.calls = r.metrics.calls) := by
  unfold executeLegsTimed executeLegs LegsTimed
  cases hdir : r.ctx.signal.direction with
  | buyDexSellCex =>
    have goesOn : (firstDexLeg legs (r.beginFlow "dex")).2.isSome = true ↔
        ∃ leg, firstReply legs r.ctx.signal = some leg ∧ TakesFirst config r.ctx.signal leg :=
      firstDexLeg_goesOn_iff hdir
    rw [← goesOn]
    by_cases timed : IsDuration config.leg2TimeoutSec ∧
        ((firstDexLeg legs (r.beginFlow "dex")).2.isSome = true →
          IsDuration config.leg1TimeoutSec)
    · exact .inl ⟨timed, runFlowTimed_of_timed timed.1 timed.2⟩
    · exact .inr ⟨timed, runFlowTimed_panics (firstDexLeg_flowed _) timed⟩
  | buyCexSellDex =>
    have goesOn : (firstCexLeg config legs (r.beginFlow "cex")).2.isSome = true ↔
        ∃ leg, firstReply legs r.ctx.signal = some leg ∧ TakesFirst config r.ctx.signal leg :=
      firstCexLeg_goesOn_iff hdir
    rw [← goesOn]
    by_cases timed : IsDuration config.leg1TimeoutSec ∧
        ((firstCexLeg config legs (r.beginFlow "cex")).2.isSome = true →
          IsDuration config.leg2TimeoutSec)
    · exact .inl ⟨timed, runFlowTimed_of_timed timed.1 timed.2⟩
    · exact .inr ⟨timed, runFlowTimed_panics (firstCexLeg_flowed _) timed⟩

end Timeouts

section Calls

variable {ex : Executor} {clock : ExecClock} {legs : Legs} {signal : Signal}

/-- Where every timeout it comes to is a duration, a call is what `execute` makes of it. A call
    that is turned away comes to none. -/
theorem executeTimed_returns (h : Admitted ex clock signal → LegsTimed ex.config legs signal) :
    ex.executeTimed clock legs signal = .ok (ex.execute clock legs signal) := by
  unfold Executor.executeTimed Executor.execute
  by_cases hadm : Admitted ex clock signal
  · rw [pastGates_of_admitted hadm]
    rcases executeLegsTimed_cases (ex.admitted clock signal).config legs
      (ex.begun clock signal) with ⟨_, legsRun⟩ | ⟨untimed, _⟩
    · simp only [legsRun]
    · exact absurd (h hadm) untimed
  · obtain ⟨out, gates, _⟩ := pastGates_of_not_admitted hadm
    rw [gates]

/-- **Otherwise it panics, with its attempt counted and no outcome.** What has been counted by then
    stays counted, and the configuration is what it was. -/
theorem executeTimed_panics (hadm : Admitted ex clock signal)
    (untimed : ¬ LegsTimed ex.config legs signal) :
    ∃ ex', ex.executeTimed clock legs signal = .error ex' ∧ ex'.config = ex.config ∧
      ex'.metrics.calls = (ex.metrics.executionAttempts + 1, ex.metrics.executionSuccess,
        ex.metrics.executionFailure) := by
  unfold Executor.executeTimed
  rw [pastGates_of_admitted hadm]
  rcases executeLegsTimed_cases (ex.admitted clock signal).config legs
    (ex.begun clock signal) with ⟨timed, _⟩ | ⟨_, r', legsPanic, calls⟩
  · exact absurd timed untimed
  · simp only [legsPanic]
    exact ⟨_, rfl, rfl, calls⟩

/-- A call never changes the configuration. -/
theorem config_execute : (ex.execute clock legs signal).2.1.config = ex.config := by
  by_cases hadm : Admitted ex clock signal
  · rw [execute_of_admitted legs hadm]
    rfl
  · exact (execute_of_not_admitted legs hadm).config

end Calls

/-- **What any call does**: it returns, and is consistent, or it panics at a timeout that is no
    duration, after its attempt has been counted. -/
structure ConsistentCall (ex : Executor) (clock : ExecClock) (legs : Legs) (signal : Signal) :
    Prop where
  returns_iff : (∃ out, ex.executeTimed clock legs signal = .ok out) ↔
    (Admitted ex clock signal → LegsTimed ex.config legs signal)
  returned : ∀ out, ex.executeTimed clock legs signal = .ok out →
    ConsistentReturn ex clock legs signal out
  panicked : ∀ ex', ex.executeTimed clock legs signal = .error ex' →
    ex'.metrics.calls = (ex.metrics.executionAttempts + 1, ex.metrics.executionSuccess,
      ex.metrics.executionFailure)

/-- Every call is one of the two: it returns where its timeouts are durations, and otherwise it
    panics. -/
theorem consistentCall (ex : Executor) (clock : ExecClock) (legs : Legs) (signal : Signal) :
    ConsistentCall ex clock legs signal := by
  by_cases h : Admitted ex clock signal → LegsTimed ex.config legs signal
  · have returns := executeTimed_returns h
    refine ⟨iff_of_true ⟨_, returns⟩ h, ?_, ?_⟩
    · intro out hout
      rw [returns] at hout
      cases hout
      exact consistent_execute ex clock legs signal
    · intro ex' hout
      rw [returns] at hout
      cases hout
  · obtain ⟨hadm, untimed⟩ := Classical.not_imp.mp h
    obtain ⟨ex', panics, _, calls⟩ := executeTimed_panics hadm untimed
    refine ⟨iff_of_false ?_ h, ?_, ?_⟩
    · rintro ⟨out, hout⟩
      rw [panics] at hout
      cases hout
    · intro out hout
      rw [panics] at hout
      cases hout
    · intro ex'' hout
      rw [panics] at hout
      cases hout
      exact calls

/-! ## Runs of calls -/

/-- A call as its environment answers it. -/
structure Call where
  clock : ExecClock
  legs : Legs
  signal : Signal

namespace Executor

/-- The executor after calls whose leg timeouts are durations. -/
def afterCalls (ex : Executor) (calls : List Call) : Executor :=
  calls.foldl (fun ex call => (ex.execute call.clock call.legs call.signal).2.1) ex

/-- The executor after a call, and whether the call has panicked. -/
def afterTimedCall (ex : Executor) (call : Call) : Executor × Bool :=
  match ex.executeTimed call.clock call.legs call.signal with
  | .ok out => (out.2.1, false)
  | .error ex' => (ex', true)

/-- The executor after a run of calls, and how many of them have panicked. -/
def afterTimedCalls (ex : Executor) : List Call → Executor × ℕ
  | [] => (ex, 0)
  | call :: calls =>
      let (next, panicked) := ex.afterTimedCall call
      let (last, panics) := next.afterTimedCalls calls
      (last, panics + panicked.toNat)

end Executor

/-- As many attempts are counted as successes, failures and panics together. -/
def Balanced (m : ExecutionMetrics) (panics : ℕ) : Prop :=
  m.executionAttempts = m.executionSuccess + m.executionFailure + panics

/-- What one call does to the balance, and that the configuration stays. A call that returns has
    counted an attempt and an outcome, and one that panics an attempt and a panic. -/
theorem afterTimedCall_counts (ex : Executor) (call : Call) :
    (ex.afterTimedCall call).1.config = ex.config ∧
      (∀ panics, Balanced (ex.afterTimedCall call).1.metrics (panics + (ex.afterTimedCall call).2.toNat) ↔
        Balanced ex.metrics panics) ∧
      ((∀ venue, IsDuration (legTimeout ex.config venue)) → (ex.afterTimedCall call).2 = false) := by
  unfold Executor.afterTimedCall
  by_cases h : Admitted ex call.clock call.signal → LegsTimed ex.config call.legs call.signal
  · -- the call returns
    rw [executeTimed_returns h]
    refine ⟨config_execute, ?_, fun _ => rfl⟩
    intro panics
    have counted := (consistent_execute ex call.clock call.legs call.signal).counted
    unfold ExecutionMetrics.calls countCall at counted
    unfold Balanced
    dsimp only [Bool.toNat_false]
    split at counted
    · obtain ⟨attempts, success, failure⟩ := by simpa only [Prod.mk.injEq] using counted
      omega
    · obtain ⟨attempts, success, failure⟩ := by simpa only [Prod.mk.injEq] using counted
      omega
  · -- the call panics
    obtain ⟨hadm, untimed⟩ := Classical.not_imp.mp h
    obtain ⟨ex', panics, config, calls⟩ := executeTimed_panics hadm untimed
    rw [panics]
    refine ⟨config, ?_, fun durations => absurd ⟨durations _, fun _ => durations _⟩ untimed⟩
    intro panics
    simp only [ExecutionMetrics.calls, Prod.mk.injEq] at calls
    unfold Balanced
    dsimp only [Bool.toNat_true]
    omega

/-- What a run of calls counts. -/
structure ConsistentRun (ex : Executor) (calls : List Call) : Prop where
  /-- The attempts stay the successes, the failures and the panics together. -/
  balanced : ∀ panics, Balanced (ex.afterTimedCalls calls).1.metrics
    (panics + (ex.afterTimedCalls calls).2) ↔ Balanced ex.metrics panics
  /-- With timeouts that are durations no call panics. -/
  no_panic : (∀ venue, IsDuration (legTimeout ex.config venue)) → (ex.afterTimedCalls calls).2 = 0

/-- An executor whose CEX leg may take minus one second. -/
def sampleImpatient : Executor :=
  { sampleExecutor with config := { sampleExecutor.config with leg1TimeoutSec := .fin (-1) } }

end ArbEngine
