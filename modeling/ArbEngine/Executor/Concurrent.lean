import ArbEngine.Executor.Engine
import ArbEngine.Lib.Run

/-!
# Concurrent calls of one executor

`execute` holds a mutex only inside its sections: the breaker check, the duplicate check, the
mark and the record each lock and unlock, and both legs are awaited in between. `execStep` is
one such section of one call. A label names the call, and the clock reading of the section
where it takes one; readings never go back. Which call moves next is the label's choice, so a
run is any interleaving of any number of calls.

The sections are the functions the sequential `Executor.execute` is made of. The log says
which calls reached their legs, were marked, or were turned away, in order; no step reads it.
-/

namespace ArbEngine

/-- How far a call has got. Between two phases the call holds no lock, and any other call may move.
    -/
inductive CallPhase where
  | idle
  | called (signal : Signal)
  | pastBreaker (signal : Signal)
  | pastReplay (signal : Signal)
  | inLegs (signal : Signal)
  | legsDone (signal : Signal) (state : ExecutorState)
  | marked (signal : Signal) (state : ExecutorState)
  | returned
deriving DecidableEq, Repr

/-- What can be seen of a call from outside: that its legs were reached, that it was marked as
    executed, or the error it came back with. -/
inductive CallEvent where
  | reachedLegs (call : ℕ) (signalId : String) (time : ℚ)
  | marked (call : ℕ) (signalId : String) (time : ℚ)
  | refused (call : ℕ) (signalId : String) (error : ExecError) (time : ℚ)
deriving DecidableEq, Repr

/-- The next section of a call. `finishLegs` has the state the legs end in as its label: what the
    venues answer is not up to the executor. -/
inductive ExecAction where
  | call (call : ℕ) (signal : Signal)
  | checkBreaker (call : ℕ) (time : ℚ)
  | checkReplay (call : ℕ) (time : ℚ)
  | validate (call : ℕ) (time : ℚ)
  | finishLegs (call : ℕ) (state : ExecutorState)
  | mark (call : ℕ) (time : ℚ)
  | record (call : ℕ) (time reopen : ℚ)
deriving DecidableEq, Repr

/-- One executor and the calls in progress on it. `now` is the last reading of the clock, of
    whichever call; it is there so that readings do not go back. -/
structure SharedExecutor where
  circuitBreaker : CircuitBreaker
  replayProtection : ReplayProtection
  now : ℚ
  phase : ℕ → CallPhase
  log : List CallEvent

namespace SharedExecutor

def new (cb : CircuitBreaker) (rp : ReplayProtection) (now : ℚ) : SharedExecutor where
  circuitBreaker := cb
  replayProtection := rp
  now := now
  phase := fun _ => .idle
  log := []

def setPhase (s : SharedExecutor) (call : ℕ) (p : CallPhase) : SharedExecutor :=
  { s with phase := fun c => if c = call then p else s.phase c }

def logged (s : SharedExecutor) (e : CallEvent) : SharedExecutor := { s with log := s.log ++ [e] }

/-- A call is turned away with this error. -/
def refuse (s : SharedExecutor) (call : ℕ) (signal : Signal) (error : ExecError) (time : ℚ) :
    SharedExecutor :=
  (s.setPhase call .returned).logged (.refused call signal.signalId error time)

/-- One section of one call, or nothing where the call is not that far. The branches are those of
    `execute`: the breaker, the duplicate check, `is_valid`, the legs, the mark and the record.
    Nothing is marked for a call that is turned away. -/
def execStep (s : SharedExecutor) : ExecAction → Option SharedExecutor
  | .call call signal =>
      match s.phase call with
      | .idle => some (s.setPhase call (.called signal))
      | _ => none
  | .checkBreaker call time =>
      match s.phase call with
      | .called signal =>
          if s.now ≤ time then
            let (isOpen, cb) := s.circuitBreaker.isOpen time
            let s := { s with circuitBreaker := cb, now := time }
            if isOpen then some (s.refuse call signal .circuitBreakerOpen time)
            else some (s.setPhase call (.pastBreaker signal))
          else none
      | _ => none
  | .checkReplay call time =>
      match s.phase call with
      | .pastBreaker signal =>
          if s.now ≤ time then
            let (isDuplicate, rp) := s.replayProtection.isDuplicate signal time
            let s := { s with replayProtection := rp, now := time }
            if isDuplicate then some (s.refuse call signal .duplicateSignal time)
            else some (s.setPhase call (.pastReplay signal))
          else none
      | _ => none
  | .validate call time =>
      match s.phase call with
      | .pastReplay signal =>
          if s.now ≤ time then
            let s := { s with now := time }
            if signal.isValid time then
              some ((s.setPhase call (.inLegs signal)).logged
                (.reachedLegs call signal.signalId time))
            else some (s.refuse call signal .signalInvalid time)
          else none
      | _ => none
  | .finishLegs call state =>
      match s.phase call with
      | .inLegs signal => some (s.setPhase call (.legsDone signal state))
      | _ => none
  | .mark call time =>
      match s.phase call with
      | .legsDone signal state =>
          if s.now ≤ time then
            let s :=
              { s with replayProtection := s.replayProtection.markExecuted signal time, now := time }
            some ((s.setPhase call (.marked signal state)).logged
              (.marked call signal.signalId time))
          else none
      | _ => none
  | .record call time reopen =>
      match s.phase call with
      | .marked _ state =>
          if s.now ≤ time ∧ time ≤ reopen then
            let s :=
              { s with
                circuitBreaker := Executor.recordOutcome s.circuitBreaker state time reopen
                now := reopen }
            some (s.setPhase call .returned)
          else none
      | _ => none

end SharedExecutor

end ArbEngine
