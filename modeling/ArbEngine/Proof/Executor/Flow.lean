import ArbEngine.Executor.Legs

/-!
# The five ways a flow ends

The two flows differ in which venue goes first, in the error texts and in one check, but
what they do to the books has a single shape. `FlowEnd` lists it: silence or refusal at the
first leg, silence or refusal at the second, or the end. Every constructor carries the whole
trace and the tracker the run leaves behind, guards included, so the theorems about
executions never unfold a flow again; they split on `FlowEnd`.

`executeLegs_end` is the one place where the flows are unfolded, and `execute_of_admitted` and
`execute_of_not_admitted` say what the rest of `execute` does.
-/

namespace ArbEngine

/-! ## The venues and replies of a direction -/

/-- The venue that goes first. On either direction it is the one where the signal buys. -/
def firstVenue : Direction → String
  | .buyCexSellDex => "cex"
  | .buyDexSellCex => "dex"

/-- The venue that goes second, where the signal sells. -/
def secondVenue : Direction → String
  | .buyCexSellDex => "dex"
  | .buyDexSellCex => "cex"

/-- What the first leg answers. -/
def firstReply (legs : Legs) (signal : Signal) : Option LegResult :=
  match signal.direction with
  | .buyCexSellDex => legs.cex signal none
  | .buyDexSellCex => legs.dex signal signal.size

/-- What the second leg answers when the first has filled `filled`. -/
def secondReply (legs : Legs) (signal : Signal) (filled : ℚ) : Option LegResult :=
  match signal.direction with
  | .buyCexSellDex => legs.dex signal filled
  | .buyDexSellCex => legs.cex signal (some filled)

/-- The first leg is taken: it succeeded and, in the CEX-first flow, filled enough. -/
def TakesFirst (config : ExecutorConfig) (signal : Signal) (leg : LegResult) : Prop :=
  leg.success = true ∧
    (signal.direction = .buyCexSellDex →
      fillRatioBelow leg.filled signal.size config.minFillRatio = false)

instance (config : ExecutorConfig) (signal : Signal) (leg : LegResult) :
    Decidable (TakesFirst config signal leg) := by
  unfold TakesFirst
  infer_instance

theorem not_takesFirst_of_failed {config : ExecutorConfig} {signal : Signal} {leg : LegResult}
    (h : leg.success = false) : ¬ TakesFirst config signal leg := by
  rintro ⟨yes, -⟩
  rw [h] at yes
  cases yes

/-- A fill of the exchange may be too small. -/
theorem not_takesFirst_of_short {config : ExecutorConfig} {signal : Signal} {leg : LegResult}
    (hdir : signal.direction = .buyCexSellDex)
    (h : fillRatioBelow leg.filled signal.size config.minFillRatio = true) :
    ¬ TakesFirst config signal leg := by
  rintro ⟨-, enough⟩
  rw [enough hdir] at h
  cases h

/-- A fill of the DEX is not looked at. -/
theorem takesFirst_of_dexFirst {config : ExecutorConfig} {signal : Signal} {leg : LegResult}
    (hdir : signal.direction = .buyDexSellCex) (h : leg.success = true) :
    TakesFirst config signal leg := by
  refine ⟨h, fun hcex => ?_⟩
  rw [hdir] at hcex
  cases hcex

/-! ## Endings -/

/-- The trace, the tracker, the state and the two fill sizes a flow can end with. -/
inductive FlowEnd (config : ExecutorConfig) (legs : Legs) (signal : Signal)
    (t : InventoryTracker) :
    List ExecEvent → InventoryTracker → ExecutorState → Option ℚ → Option ℚ → Prop where
  | silentFirst (h : firstReply legs signal = none) :
      FlowEnd config legs signal t
        [.entered .leg1Pending, .awaited (venueOf (firstVenue signal.direction)) none,
          .entered .failed] t .failed none none
  | refusedFirst (leg : LegResult) (h : firstReply legs signal = some leg)
      (no : ¬ TakesFirst config signal leg) :
      FlowEnd config legs signal t
        [.entered .leg1Pending, .awaited (venueOf (firstVenue signal.direction)) (some leg),
          .entered .failed] t .failed none none
  | silentSecond (leg : LegResult) (h : firstReply legs signal = some leg)
      (yes : TakesFirst config signal leg) (h2 : secondReply legs signal leg.filled = none) :
      FlowEnd config legs signal t
        [.entered .leg1Pending, .awaited (venueOf (firstVenue signal.direction)) (some leg),
          .booked (venueOf (firstVenue signal.direction)) leg.filled leg.price,
          .entered .leg1Filled, .entered .leg2Pending,
          .awaited (venueOf (secondVenue signal.direction)) none,
          .entered .unwinding, .unwound, .entered .failed]
        (updateInventory t (firstVenue signal.direction) signal leg.filled leg.price)
        .failed (some leg.filled) none
  | refusedSecond (leg leg2 : LegResult) (h : firstReply legs signal = some leg)
      (yes : TakesFirst config signal leg) (h2 : secondReply legs signal leg.filled = some leg2)
      (no : leg2.success = false) :
      FlowEnd config legs signal t
        [.entered .leg1Pending, .awaited (venueOf (firstVenue signal.direction)) (some leg),
          .booked (venueOf (firstVenue signal.direction)) leg.filled leg.price,
          .entered .leg1Filled, .entered .leg2Pending,
          .awaited (venueOf (secondVenue signal.direction)) (some leg2),
          .entered .unwinding, .unwound, .entered .failed]
        (updateInventory t (firstVenue signal.direction) signal leg.filled leg.price)
        .failed (some leg.filled) none
  | finished (leg leg2 : LegResult) (h : firstReply legs signal = some leg)
      (yes : TakesFirst config signal leg) (h2 : secondReply legs signal leg.filled = some leg2)
      (yes2 : leg2.success = true) :
      FlowEnd config legs signal t
        [.entered .leg1Pending, .awaited (venueOf (firstVenue signal.direction)) (some leg),
          .booked (venueOf (firstVenue signal.direction)) leg.filled leg.price,
          .entered .leg1Filled, .entered .leg2Pending,
          .awaited (venueOf (secondVenue signal.direction)) (some leg2),
          .booked (venueOf (secondVenue signal.direction)) leg2.filled leg2.price,
          .entered .done]
        (updateInventory
          (updateInventory t (firstVenue signal.direction) signal leg.filled leg.price)
          (secondVenue signal.direction) signal leg2.filled leg2.price)
        .done (some leg.filled) (some leg2.filled)

/-- **A flow is done exactly where both its legs are taken**; otherwise it has failed. `TakesFirst`
    is what the executor asks of the first leg, and of the second it asks for success only. -/
theorem FlowEnd.done_or_failed {config : ExecutorConfig} {legs : Legs} {signal : Signal}
    {t t' : InventoryTracker} {path : List ExecEvent} {state : ExecutorState}
    {fill1 fill2 : Option ℚ} (h : FlowEnd config legs signal t path t' state fill1 fill2) :
    (∃ leg leg2, firstReply legs signal = some leg ∧ TakesFirst config signal leg ∧
        secondReply legs signal leg.filled = some leg2 ∧ leg2.success = true ∧
        state = .done ∧ fill1 = some leg.filled ∧ fill2 = some leg2.filled) ∨
      (state = .failed ∧ ∀ leg, firstReply legs signal = some leg → TakesFirst config signal leg →
        ∀ leg2, secondReply legs signal leg.filled = some leg2 → leg2.success = false) := by
  cases h with
  | silentFirst h =>
    refine .inr ⟨rfl, ?_⟩
    intro leg hleg
    rw [h] at hleg
    cases hleg
  | refusedFirst leg h no =>
    refine .inr ⟨rfl, ?_⟩
    intro leg' hleg yes
    rw [h] at hleg
    cases hleg
    exact absurd yes no
  | silentSecond leg h yes h2 =>
    refine .inr ⟨rfl, ?_⟩
    intro leg' hleg _ leg2 hleg2
    rw [h] at hleg
    cases hleg
    rw [h2] at hleg2
    cases hleg2
  | refusedSecond leg leg2 h yes h2 no =>
    refine .inr ⟨rfl, ?_⟩
    intro leg' hleg _ leg2' hleg2
    rw [h] at hleg
    cases hleg
    rw [h2] at hleg2
    cases hleg2
    exact no
  | finished leg leg2 h yes h2 yes2 => exact .inl ⟨leg, leg2, h, yes, h2, yes2, rfl, rfl, rfl⟩

/-- A flow that is done has booked both its legs. -/
theorem FlowEnd.booked_both {config : ExecutorConfig} {legs : Legs} {signal : Signal}
    {t t' : InventoryTracker} {path : List ExecEvent} {state : ExecutorState}
    {fill1 fill2 : Option ℚ} (h : FlowEnd config legs signal t path t' state fill1 fill2)
    (done : state = .done) :
    ∃ leg leg2, firstReply legs signal = some leg ∧
      secondReply legs signal leg.filled = some leg2 ∧ fill1 = some leg.filled ∧
      fill2 = some leg2.filled ∧
      t' = updateInventory
        (updateInventory t (firstVenue signal.direction) signal leg.filled leg.price)
        (secondVenue signal.direction) signal leg2.filled leg2.price := by
  cases h with
  | silentFirst => cases done
  | refusedFirst => cases done
  | silentSecond => cases done
  | refusedSecond => cases done
  | finished leg leg2 h _ h2 _ => exact ⟨leg, leg2, h, h2, rfl, rfl, rfl⟩

section Flows

variable {config : ExecutorConfig} {legs : Legs} {r : ExecRun}

/-- The run of a flow extends the trace by a path with one of the five endings. -/
def EndsAs (config : ExecutorConfig) (legs : Legs) (r r' : ExecRun) : Prop :=
  ∃ path, r'.trace = r.trace ++ path ∧
    FlowEnd config legs r.ctx.signal r.inventory path r'.inventory r'.ctx.state
      r'.ctx.leg1FillSize r'.ctx.leg2FillSize

theorem EndsAs.of {r' : ExecRun} {path : List ExecEvent} {t' : InventoryTracker}
    {state : ExecutorState} {fill1 fill2 : Option ℚ}
    (h : FlowEnd config legs r.ctx.signal r.inventory path t' state fill1 fill2)
    (htrace : r'.trace = r.trace ++ path) (ht : r'.inventory = t') (hs : r'.ctx.state = state)
    (h1 : r'.ctx.leg1FillSize = fill1) (h2 : r'.ctx.leg2FillSize = fill2) :
    EndsAs config legs r r' := by
  subst ht hs h1 h2
  exact ⟨path, htrace, h⟩

/-- A flow that begins on the exchange ends in one of the five ways. All of `execute_cex_first` is
    looked at here and nowhere else. -/
theorem executeCexFirst_end (hdir : r.ctx.signal.direction = .buyCexSellDex)
    (h1 : r.ctx.leg1FillSize = none) (h2 : r.ctx.leg2FillSize = none) :
    EndsAs config legs r (executeCexFirst config legs r) := by
  have hv1 : "cex" = firstVenue r.ctx.signal.direction := by rw [hdir, firstVenue]
  have hv2 : "dex" = secondVenue r.ctx.signal.direction := by rw [hdir, secondVenue]
  have hfst : legs.cex r.ctx.signal none = firstReply legs r.ctx.signal := by
    rw [firstReply, hdir]
  have hsnd : ∀ filled, legs.dex r.ctx.signal filled = secondReply legs r.ctx.signal filled := by
    intro filled
    rw [secondReply, hdir]
  unfold executeCexFirst runFlow firstCexLeg secondDexLeg
  simp only [ExecRun.beginFlow, ExecRun.enter, ExecRun.awaited, ExecRun.book, ExecRun.withError,
    ExecRun.countCexFailure, ExecRun.countDexFailure, ExecRun.unwound, unwind, hv1, hv2, hfst]
  cases hleg : firstReply legs r.ctx.signal with
  | none => exact .of (.silentFirst hleg) (by simp) rfl rfl h1 h2
  | some leg =>
    cases hsucc : leg.success with
    | false =>
      have hno : ¬ TakesFirst config r.ctx.signal leg := not_takesFirst_of_failed hsucc
      simp only [hsucc, Bool.not_false, if_true]
      exact .of (.refusedFirst leg hleg hno) (by simp) rfl rfl h1 h2
    | true =>
      -- too little was filled: the leg is refused although the order was a success
      cases hfill : fillRatioBelow leg.filled r.ctx.signal.size config.minFillRatio with
      | true =>
        have hno : ¬ TakesFirst config r.ctx.signal leg := not_takesFirst_of_short hdir hfill
        simp only [hsucc, hfill, Bool.not_true, Bool.false_eq_true, if_false, if_true]
        exact .of (.refusedFirst leg hleg hno) (by simp) rfl rfl h1 h2
      | false =>
        have hyes : TakesFirst config r.ctx.signal leg := ⟨hsucc, fun _ => hfill⟩
        simp only [hsucc, hfill, Bool.not_true, Bool.false_eq_true, if_false, hsnd]
        cases hleg2 : secondReply legs r.ctx.signal leg.filled with
        | none => exact .of (.silentSecond leg hleg hyes hleg2) (by simp) rfl rfl rfl h2
        | some leg2 =>
          cases hsucc2 : leg2.success with
          | false =>
            simp only [hsucc2, Bool.not_false, if_true]
            exact .of (.refusedSecond leg leg2 hleg hyes hleg2 hsucc2) (by simp) rfl rfl rfl h2
          | true =>
            simp only [hsucc2, Bool.not_true, Bool.false_eq_true, if_false]
            exact .of (.finished leg leg2 hleg hyes hleg2 hsucc2) (by simp) rfl rfl rfl rfl

/-- And so does a flow that begins on the chain, without the way over the fill ratio. -/
theorem executeDexFirst_end (hdir : r.ctx.signal.direction = .buyDexSellCex)
    (h1 : r.ctx.leg1FillSize = none) (h2 : r.ctx.leg2FillSize = none) :
    EndsAs config legs r (executeDexFirst config legs r) := by
  have hv1 : "dex" = firstVenue r.ctx.signal.direction := by rw [hdir, firstVenue]
  have hv2 : "cex" = secondVenue r.ctx.signal.direction := by rw [hdir, secondVenue]
  have hfst : legs.dex r.ctx.signal r.ctx.signal.size = firstReply legs r.ctx.signal := by
    rw [firstReply, hdir]
  have hsnd : ∀ filled, legs.cex r.ctx.signal (some filled) = secondReply legs r.ctx.signal filled := by
    intro filled
    rw [secondReply, hdir]
  unfold executeDexFirst runFlow firstDexLeg secondCexLeg
  simp only [ExecRun.beginFlow, ExecRun.enter, ExecRun.awaited, ExecRun.book, ExecRun.withError,
    ExecRun.countCexFailure, ExecRun.countDexFailure, ExecRun.unwound, unwind, hv1, hv2, hfst]
  cases hleg : firstReply legs r.ctx.signal with
  | none => exact .of (.silentFirst hleg) (by simp) rfl rfl h1 h2
  | some leg =>
    cases hsucc : leg.success with
    | false =>
      have hno : ¬ TakesFirst config r.ctx.signal leg := not_takesFirst_of_failed hsucc
      simp only [hsucc, Bool.not_false, if_true]
      exact .of (.refusedFirst leg hleg hno) (by simp) rfl rfl h1 h2
    | true =>
      -- a success is taken, however little was filled
      have hyes : TakesFirst config r.ctx.signal leg := takesFirst_of_dexFirst hdir hsucc
      simp only [hsucc, Bool.not_true, Bool.false_eq_true, if_false, hsnd]
      cases hleg2 : secondReply legs r.ctx.signal leg.filled with
      | none => exact .of (.silentSecond leg hleg hyes hleg2) (by simp) rfl rfl rfl h2
      | some leg2 =>
        cases hsucc2 : leg2.success with
        | false =>
          simp only [hsucc2, Bool.not_false, if_true]
          exact .of (.refusedSecond leg leg2 hleg hyes hleg2 hsucc2) (by simp) rfl rfl rfl h2
        | true =>
          simp only [hsucc2, Bool.not_true, Bool.false_eq_true, if_false]
          exact .of (.finished leg leg2 hleg hyes hleg2 hsucc2) (by simp) rfl rfl rfl rfl

/-- **Either flow ends in one of the five ways.** The direction of the signal decides which of the
    two is run. -/
theorem executeLegs_end (config : ExecutorConfig) (legs : Legs) (r : ExecRun)
    (h1 : r.ctx.leg1FillSize = none) (h2 : r.ctx.leg2FillSize = none) :
    EndsAs config legs r (executeLegs config legs r) := by
  unfold executeLegs
  cases hdir : r.ctx.signal.direction with
  | buyDexSellCex => exact executeDexFirst_end hdir h1 h2
  | buyCexSellDex => exact executeCexFirst_end hdir h1 h2

end Flows

/-! ## A call -/

section Call

variable {ex : Executor} {clock : ExecClock} {legs : Legs} {signal : Signal}

/-- The call gets past the breaker, the duplicate check and the validity check. -/
def Admitted (ex : Executor) (clock : ExecClock) (signal : Signal) : Prop :=
  (ex.circuitBreaker.isOpen clock.breaker).1 = false ∧
    (ex.replayProtection.isDuplicate signal clock.replay).1 = false ∧
    signal.isValid clock.validity = true

instance : Decidable (Admitted ex clock signal) := by
  unfold Admitted
  infer_instance

/-- The executor a call runs its legs with: the attempt is counted, the breaker may have been
    reset and the expired marks are gone. -/
def Executor.admitted (ex : Executor) (clock : ExecClock) (signal : Signal) : Executor :=
  { ex with
    metrics := { ex.metrics with executionAttempts := ex.metrics.executionAttempts + 1 }
    circuitBreaker := (ex.circuitBreaker.isOpen clock.breaker).2
    replayProtection := (ex.replayProtection.isDuplicate signal clock.replay).2 }

/-- The run of a call before its legs. -/
def Executor.begun (ex : Executor) (clock : ExecClock) (signal : Signal) : ExecRun where
  ctx := { ExecutionContext.new signal clock.started with state := .validating }
  inventory := ex.inventory
  metrics := { ex.metrics with executionAttempts := ex.metrics.executionAttempts + 1 }
  trace := [.entered .validating]

/-- An admitted call gets past all gates: its attempt is counted, and its state is that of the
    validation. -/
theorem pastGates_of_admitted (h : Admitted ex clock signal) :
    ex.pastGates clock signal = .ok (ex.admitted clock signal, ex.begun clock signal) := by
  obtain ⟨hopen, hdup, hvalid⟩ := h
  simp [Executor.pastGates, hopen, hdup, hvalid, Executor.admitted, Executor.begun]

/-- What a call leaves that is turned away: an error, one more failure, and the books as they
    were. -/
structure TurnedAway (ex : Executor) (clock : ExecClock) (signal : Signal)
    (out : ExecutionContext × Executor × List ExecEvent) : Prop where
  ctx : ∃ error, out.1 =
    { ExecutionContext.new signal clock.started with state := .failed, error := some error }
  inventory : out.2.1.inventory = ex.inventory
  config : out.2.1.config = ex.config
  metrics : out.2.1.metrics = { ex.metrics with
    executionAttempts := ex.metrics.executionAttempts + 1
    executionFailure := ex.metrics.executionFailure + 1 }
  trace : out.2.2 = [.entered .failed] ∨ out.2.2 = [.entered .validating, .entered .failed]

/-- **A call that is not admitted is turned away before any leg.** -/
theorem pastGates_of_not_admitted (h : ¬ Admitted ex clock signal) :
    ∃ out, ex.pastGates clock signal = .error out ∧ TurnedAway ex clock signal out := by
  unfold Executor.pastGates
  cases hopen : (ex.circuitBreaker.isOpen clock.breaker).1 with
  | true =>
    simp only [hopen, if_true]
    exact ⟨_, rfl, ⟨_, rfl⟩, rfl, rfl, rfl, .inl rfl⟩
  | false =>
    simp only [hopen, Bool.false_eq_true, if_false]
    cases hdup : (ex.replayProtection.isDuplicate signal clock.replay).1 with
    | true =>
      simp only [if_true]
      exact ⟨_, rfl, ⟨_, rfl⟩, rfl, rfl, rfl, .inl rfl⟩
    | false =>
      simp only [Bool.false_eq_true, if_false]
      cases hvalid : signal.isValid clock.validity with
      | true => exact absurd ⟨hopen, hdup, hvalid⟩ h
      | false =>
        simp only [Bool.not_false, if_true]
        exact ⟨_, rfl, ⟨_, rfl⟩, rfl, rfl, rfl, .inr rfl⟩

/-- A call that is not admitted ends at a gate. -/
theorem execute_of_not_admitted (legs : Legs) (h : ¬ Admitted ex clock signal) :
    TurnedAway ex clock signal (ex.execute clock legs signal) := by
  obtain ⟨out, gates, away⟩ := pastGates_of_not_admitted h
  unfold Executor.execute
  rw [gates]
  exact away

/-- An admitted call runs its legs and finishes. -/
theorem execute_of_admitted (legs : Legs) (h : Admitted ex clock signal) :
    ex.execute clock legs signal = (ex.admitted clock signal).finish clock signal
      (executeLegs ex.config legs (ex.begun clock signal)) := by
  unfold Executor.execute
  rw [pastGates_of_admitted h]
  rfl

/-- **A call is turned away with the books as they were, or runs a flow.** With it a theorem about
    executions has two cases: a trace of the validation only, and one of the five ends behind it.
    -/
theorem execute_cases (ex : Executor) (clock : ExecClock) (legs : Legs) (signal : Signal) :
    (¬ Admitted ex clock signal ∧
        (ex.execute clock legs signal).1.state = .failed ∧
        (ex.execute clock legs signal).2.1.inventory = ex.inventory ∧
        ((ex.execute clock legs signal).2.2 = [.entered .failed] ∨
          (ex.execute clock legs signal).2.2 = [.entered .validating, .entered .failed])) ∨
      (Admitted ex clock signal ∧
        ∃ path, (ex.execute clock legs signal).2.2 = .entered .validating :: path ∧
          FlowEnd ex.config legs signal ex.inventory path
            (ex.execute clock legs signal).2.1.inventory
            (ex.execute clock legs signal).1.state (ex.execute clock legs signal).1.leg1FillSize
            (ex.execute clock legs signal).1.leg2FillSize) := by
  by_cases hadm : Admitted ex clock signal
  · obtain ⟨path, htrace, hend⟩ := executeLegs_end ex.config legs (ex.begun clock signal) rfl rfl
    rw [execute_of_admitted legs hadm]
    exact .inr ⟨hadm, path, htrace, hend⟩
  · have away := execute_of_not_admitted legs hadm
    obtain ⟨error, hctx⟩ := away.ctx
    exact .inl ⟨hadm, by rw [hctx], away.inventory, away.trace⟩

end Call

/-! ## A sample call -/

/-- One ETH, bought on the venue of `direction` at 2000 and sold at 2020. -/
def sampleSignal (direction : Direction) : Signal where
  signalId := "ETHUSDT_1a2b3c4d"
  pair := "ETH/USDT"
  direction := direction
  cexPrice := 2000
  dexPrice := 2020
  spreadBps := 100
  size := 1
  expectedGrossPnl := 20
  expectedFees := 5
  expectedNetPnl := 15
  score := 80
  timestamp := 0
  expiry := 60
  inventoryOk := true
  withinLimits := true

/-- A fresh executor with the default configuration and empty books. -/
def sampleExecutor : Executor :=
  Executor.new (InventoryTracker.new none) none
    { executionAttempts := 0, executionSuccess := 0, executionFailure := 0, legCexFailures := 0,
      legDexFailures := 0, netPnl := [] }

/-- Every reading is one second after the signal was made. -/
def sampleClock : ExecClock where
  started := 1
  breaker := 1
  replay := 1
  validity := 1
  mark := 1
  record := 1
  reopen := 1
  finished := 1

/-- A leg that filled `filled` at 2000. -/
def sampleLeg (success : Bool) (filled : ℚ) : LegResult where
  success := success
  price := 2000
  filled := filled
  orderId := some "1"
  txHash := none
  error := none

/-- The two legs answer these results, whatever they are asked. -/
def sampleLegs (cex dex : Option LegResult) : Legs where
  cex := fun _ _ => cex
  dex := fun _ _ => dex

/-- The pair of the sample signal. -/
theorem splitPair_sample (direction : Direction) :
    splitPair (sampleSignal direction).pair = ["ETH", "USDT"] := by
  show splitPair "ETH/USDT" = _
  decide

end ArbEngine
