import Mathlib.Tactic.Linarith
import ArbEngine.Executor.Concurrent
import ArbEngine.Proof.Executor.Flow

/-!
# At most one execution of a signal

The duplicate check and the mark are two sections, and both legs run between them. A second
call with the same signal that is checked in that gap passes, and then nothing stops it.

`Proper` says of a log that no call reached its legs in an open window and that every call
turned away in one was told so. The window of a signal opens when a call with it reaches its
legs and closes sixty seconds after that call is marked. `orderly_runs_proper` shows that the
gap is the only way out: in every run in which no duplicate check falls into it — and in which
the breaker does not answer first — the log is proper in every state reached.
-/

namespace ArbEngine
namespace SharedExecutor

/-! ## What a step does -/

/-- Every section that can be the next one, with what it leaves behind. -/
inductive ExecSection (s : SharedExecutor) : ExecAction → SharedExecutor → Prop where
  | call {call : ℕ} {signal : Signal} (hp : s.phase call = .idle) :
      ExecSection s (.call call signal) (s.setPhase call (.called signal))
  | breakerOpen {call : ℕ} {signal : Signal} {time : ℚ} (hp : s.phase call = .called signal)
      (hle : s.now ≤ time) (hopen : (s.circuitBreaker.isOpen time).1 = true) :
      ExecSection s (.checkBreaker call time)
        ({ s with circuitBreaker := (s.circuitBreaker.isOpen time).2, now := time }.refuse call
          signal .circuitBreakerOpen time)
  | breakerClosed {call : ℕ} {signal : Signal} {time : ℚ} (hp : s.phase call = .called signal)
      (hle : s.now ≤ time) (hopen : (s.circuitBreaker.isOpen time).1 = false) :
      ExecSection s (.checkBreaker call time)
        ({ s with circuitBreaker := (s.circuitBreaker.isOpen time).2, now := time }.setPhase call
          (.pastBreaker signal))
  | duplicate {call : ℕ} {signal : Signal} {time : ℚ} (hp : s.phase call = .pastBreaker signal)
      (hle : s.now ≤ time) (hdup : (s.replayProtection.isDuplicate signal time).1 = true) :
      ExecSection s (.checkReplay call time)
        ({ s with replayProtection := (s.replayProtection.isDuplicate signal time).2,
                  now := time }.refuse call signal .duplicateSignal time)
  | fresh {call : ℕ} {signal : Signal} {time : ℚ} (hp : s.phase call = .pastBreaker signal)
      (hle : s.now ≤ time) (hdup : (s.replayProtection.isDuplicate signal time).1 = false) :
      ExecSection s (.checkReplay call time)
        ({ s with replayProtection := (s.replayProtection.isDuplicate signal time).2,
                  now := time }.setPhase call (.pastReplay signal))
  | reach {call : ℕ} {signal : Signal} {time : ℚ} (hp : s.phase call = .pastReplay signal)
      (hle : s.now ≤ time) (hvalid : signal.isValid time = true) :
      ExecSection s (.validate call time)
        (({ s with now := time }.setPhase call (.inLegs signal)).logged
          (.reachedLegs call signal.signalId time))
  | invalid {call : ℕ} {signal : Signal} {time : ℚ} (hp : s.phase call = .pastReplay signal)
      (hle : s.now ≤ time) (hvalid : signal.isValid time = false) :
      ExecSection s (.validate call time)
        ({ s with now := time }.refuse call signal .signalInvalid time)
  | finishLegs {call : ℕ} {signal : Signal} {state : ExecutorState}
      (hp : s.phase call = .inLegs signal) :
      ExecSection s (.finishLegs call state) (s.setPhase call (.legsDone signal state))
  | mark {call : ℕ} {signal : Signal} {state : ExecutorState} {time : ℚ}
      (hp : s.phase call = .legsDone signal state) (hle : s.now ≤ time) :
      ExecSection s (.mark call time)
        (({ s with replayProtection := s.replayProtection.markExecuted signal time,
                   now := time }.setPhase call (.marked signal state)).logged
          (.marked call signal.signalId time))
  | record {call : ℕ} {signal : Signal} {state : ExecutorState} {time reopen : ℚ}
      (hp : s.phase call = .marked signal state) (hle : s.now ≤ time) (hreopen : time ≤ reopen) :
      ExecSection s (.record call time reopen)
        ({ s with circuitBreaker := Executor.recordOutcome s.circuitBreaker state time reopen,
                  now := reopen }.setPhase call .returned)

/-- Every step is one of the sections. This is where `execStep` is taken apart; the proofs below go
    by the sections and do not look at it again. -/
theorem execStep_section {s t : SharedExecutor} {i : ExecAction} (h : s.execStep i = some t) :
    ExecSection s i t := by
  cases i with
  | call call signal =>
    simp only [execStep] at h
    split at h
    · rename_i hp
      cases h
      exact .call hp
    · cases h
  | checkBreaker call time =>
    simp only [execStep] at h
    split at h
    · rename_i signal hp
      split at h
      · rename_i hle
        split at h
        · rename_i hopen
          cases h
          exact .breakerOpen hp hle hopen
        · rename_i hopen
          cases h
          exact .breakerClosed hp hle (Bool.not_eq_true _ ▸ hopen)
      · cases h
    · cases h
  | checkReplay call time =>
    simp only [execStep] at h
    split at h
    · rename_i signal hp
      split at h
      · rename_i hle
        split at h
        · rename_i hdup
          cases h
          exact .duplicate hp hle hdup
        · rename_i hdup
          cases h
          exact .fresh hp hle (Bool.not_eq_true _ ▸ hdup)
      · cases h
    · cases h
  | validate call time =>
    simp only [execStep] at h
    split at h
    · rename_i signal hp
      split at h
      · rename_i hle
        split at h
        · rename_i hvalid
          cases h
          exact .reach hp hle hvalid
        · rename_i hvalid
          cases h
          exact .invalid hp hle (Bool.not_eq_true _ ▸ hvalid)
      · cases h
    · cases h
  | finishLegs call state =>
    simp only [execStep] at h
    split at h
    · rename_i signal hp
      cases h
      exact .finishLegs hp
    · cases h
  | mark call time =>
    simp only [execStep] at h
    split at h
    · rename_i signal state hp
      split at h
      · rename_i hle
        cases h
        exact .mark hp hle
      · cases h
    · cases h
  | record call time reopen =>
    simp only [execStep] at h
    split at h
    · rename_i signal state hp
      split at h
      · rename_i hle
        cases h
        exact .record hp hle.1 hle.2
      · cases h
    · cases h

/-- The other way round: a section that can be next is a step. With `execStep_section` the relation
    and the function are the same thing, and a run can be put together from sections. -/
theorem ExecSection.step {s t : SharedExecutor} {i : ExecAction} (h : ExecSection s i t) :
    s.execStep i = some t := by
  cases h with
  | call hp => simp only [execStep, hp]
  | breakerOpen hp hle hopen => simp only [execStep, hp, if_pos hle, hopen, if_true]
  | breakerClosed hp hle hopen =>
    simp only [execStep, hp, if_pos hle, hopen, Bool.false_eq_true, if_false]
  | duplicate hp hle hdup => simp only [execStep, hp, if_pos hle, hdup, if_true]
  | fresh hp hle hdup =>
    simp only [execStep, hp, if_pos hle, hdup, Bool.false_eq_true, if_false]
  | reach hp hle hvalid => simp only [execStep, hp, if_pos hle, hvalid, if_true]
  | invalid hp hle hvalid =>
    simp only [execStep, hp, if_pos hle, hvalid, Bool.false_eq_true, if_false]
  | finishLegs hp => simp only [execStep, hp]
  | mark hp hle => simp only [execStep, hp, if_pos hle]
  | record hp hle hreopen => simp only [execStep, hp, if_pos (And.intro hle hreopen)]

end SharedExecutor

/-! ## Windows and proper logs -/

/-- The call has passed the duplicate check for this id and has not been marked. While it is in one
    of these three phases the table says nothing about it, and another call that is checked
    meanwhile passes as well. -/
def CallPhase.Unmarked (id : String) : CallPhase → Prop
  | .pastReplay signal => signal.signalId = id
  | .inLegs signal => signal.signalId = id
  | .legsDone signal _ => signal.signalId = id
  | _ => False

/-- The call has reached its legs with this id and has not been marked. -/
def CallPhase.Placed (id : String) : CallPhase → Prop
  | .inLegs signal => signal.signalId = id
  | .legsDone signal _ => signal.signalId = id
  | _ => False

theorem CallPhase.Placed.unmarked {id : String} {p : CallPhase} (h : p.Placed id) :
    p.Unmarked id := by
  cases p with
  | inLegs signal => exact h
  | legsDone signal state => exact h
  | _ => exact h.elim

/-- Some call with this id has reached its legs and its sixty seconds are not over. A call that has
    not been marked yet keeps its window open without end: there is no mark for the sixty seconds
    to start from. -/
def WindowOpen (log : List CallEvent) (id : String) (time : ℚ) : Prop :=
  ∃ c t, .reachedLegs c id t ∈ log ∧ ∀ m, .marked c id m ∈ log → time < m + 60

/-- What may come after a log: no legs in an open window, and no other answer in one than
    `Duplicate signal`. The second half is what makes the open breaker count: it answers before the
    duplicate check, and a caller that is told of the breaker may well come again. -/
def EventOk (before : List CallEvent) : CallEvent → Prop
  | .reachedLegs _ id time => ¬ WindowOpen before id time
  | .refused _ id error time => WindowOpen before id time → error = .duplicateSignal
  | .marked _ _ _ => True

/-- At every place of the log, what comes next is in order after what came before. -/
def Proper (log : List CallEvent) : Prop :=
  ∀ before e after, log = before ++ e :: after → EventOk before e

theorem Proper.nil : Proper [] := by
  intro before e after h
  exact absurd h.symm (List.append_ne_nil_of_right_ne_nil before (List.cons_ne_nil e after))

theorem Proper.snoc {log : List CallEvent} {e : CallEvent} (h : Proper log) (ok : EventOk log e) :
    Proper (log ++ [e]) := by
  intro before e' after heq
  cases after using List.reverseRecOn with
  | nil =>
    obtain ⟨rfl, he⟩ := List.append_inj' heq rfl
    cases he
    exact ok
  | append_singleton after last =>
    rw [← List.cons_append, ← List.append_assoc] at heq
    obtain ⟨hlog, _⟩ := List.append_inj' heq rfl
    exact h before e' after hlog

/-! ## The gap -/

namespace SharedExecutor

/-- The two things that go wrong, ruled out in the state before the step: a duplicate check while
    another call with the id is between its check and its mark, and a call that the open breaker
    turns away while the window of its signal is open. Both are conditions on a section that is
    about to run, and say nothing of its result. -/
def Orderly (s : SharedExecutor) : ExecAction → Prop
  | .checkReplay call _ =>
      ∀ signal, s.phase call = .pastBreaker signal →
        ∀ d, ¬ (s.phase d).Unmarked signal.signalId
  | .checkBreaker call time =>
      ∀ signal, s.phase call = .called signal → (s.circuitBreaker.isOpen time).1 = true →
        ¬ WindowOpen s.log signal.signalId time
  | _ => True

/-! ## The invariant -/

/-- One unmarked call an id, every call that reached its legs either unmarked or in the log as
    marked, and every mark of the last sixty seconds in the table. The last part needs `expired`:
    once a call is unmarked, all marks of its id are old, so that a later mark of the same id
    replaces nothing that still counts. -/
structure Exclusive (s : SharedExecutor) : Prop where
  ttl : s.replayProtection.ttlSeconds = 60
  alone : ∀ c d id, (s.phase c).Unmarked id → (s.phase d).Unmarked id → c = d
  reached : ∀ c id t, .reachedLegs c id t ∈ s.log →
    (s.phase c).Placed id ∨ ∃ m, .marked c id m ∈ s.log
  past : ∀ c id m, .marked c id m ∈ s.log → m ≤ s.now
  remembered : ∀ c id m, .marked c id m ∈ s.log → s.now < m + 60 →
    ∃ m', s.replayProtection.executed id = some m' ∧ m ≤ m'
  expired : ∀ c id, (s.phase c).Unmarked id → ∀ d m, .marked d id m ∈ s.log → m + 60 ≤ s.now
  proper : Proper s.log

variable {s t : SharedExecutor} {call : ℕ} {signal : Signal} {time : ℚ}

theorem exclusive_new (cb : CircuitBreaker) (now : ℚ) :
    (new cb (ReplayProtection.new 60) now).Exclusive where
  ttl := rfl
  alone := by
    intro c d id hc _
    exact hc.elim
  reached := by
    intro c id t h
    cases h
  past := by
    intro c id m h
    cases h
  remembered := by
    intro c id m h
    cases h
  expired := by
    intro c id hc
    exact hc.elim
  proper := Proper.nil

/-- A call between its check and its legs sees every window of its signal closed: a call that holds
    one open is unmarked itself, and there is only one, or it is marked, and the mark was still in
    the table when this call was checked. -/
theorem Exclusive.windowClosed (h : s.Exclusive) (hp : s.phase call = .pastReplay signal)
    (hle : s.now ≤ time) : ¬ WindowOpen s.log signal.signalId time := by
  intro hopen
  obtain ⟨c, t, hreached, hmarks⟩ := hopen
  have hcall : (s.phase call).Unmarked signal.signalId := by
    rw [hp]
    rfl
  rcases h.reached c _ t hreached with hplaced | ⟨m, hm⟩
  · have hc : c = call := h.alone c call _ hplaced.unmarked hcall
    rw [hc, hp] at hplaced
    exact hplaced
  · have hover : m + 60 ≤ s.now := h.expired call _ hcall c m hm
    exact absurd (hmarks m hm) (not_lt.mpr (le_trans hover hle))

/-- What holds of a call's phase after one phase was set. -/
theorem ite_phase_iff (P : CallPhase → Prop) {f : ℕ → CallPhase} {p : CallPhase} {c : ℕ} :
    P (if c = call then p else f c) ↔ c = call ∧ P p ∨ c ≠ call ∧ P (f c) := by
  by_cases h : c = call
  · simp [h]
  · simp [h]

/-- A step that starts no unmarked stretch, ends none and logs no mark. Most sections are of this
    kind, and the invariant is proved for all of them here. -/
theorem Exclusive.quiet (h : s.Exclusive) (hnow : s.now ≤ t.now) {p : CallPhase}
    (hphase : t.phase = fun c => if c = call then p else s.phase c)
    (hstarts : ∀ id, p.Unmarked id → (s.phase call).Unmarked id)
    (hends : ∀ id, (s.phase call).Placed id → p.Placed id)
    (hreached : ∀ c id x, .reachedLegs c id x ∈ t.log → .reachedLegs c id x ∈ s.log)
    (hmarked : ∀ c id m, .marked c id m ∈ t.log ↔ .marked c id m ∈ s.log)
    (httl : t.replayProtection.ttlSeconds = 60)
    (hkeeps : ∀ id m, s.replayProtection.executed id = some m → t.now < m + 60 →
      t.replayProtection.executed id = some m)
    (hproper : Proper t.log) : t.Exclusive := by
  -- a call that is unmarked now has been so before, and one that has its place keeps it
  have hunmarked : ∀ c id, (t.phase c).Unmarked id → (s.phase c).Unmarked id := by
    intro c id hc
    rw [hphase] at hc
    rcases (ite_phase_iff (CallPhase.Unmarked _)).mp hc with ⟨rfl, hp⟩ | ⟨_, hother⟩
    · exact hstarts id hp
    · exact hother
  have hplaced : ∀ c id, (s.phase c).Placed id → (t.phase c).Placed id := by
    intro c id hc
    rw [hphase]
    apply (ite_phase_iff (CallPhase.Placed _)).mpr
    by_cases heq : c = call
    · exact .inl ⟨heq, hends id (heq ▸ hc)⟩
    · exact .inr ⟨heq, hc⟩
  refine ⟨httl, ?_, ?_, ?_, ?_, ?_, hproper⟩
  · intro c d id hc hd
    exact h.alone c d id (hunmarked c id hc) (hunmarked d id hd)
  · intro c id x hx
    rcases h.reached c id x (hreached c id x hx) with hc | ⟨m, hm⟩
    · exact .inl (hplaced c id hc)
    · exact .inr ⟨m, (hmarked c id m).mpr hm⟩
  · intro c id m hm
    exact le_trans (h.past c id m ((hmarked c id m).mp hm)) hnow
  · intro c id m hm hlt
    obtain ⟨m', hm', hle⟩ :=
      h.remembered c id m ((hmarked c id m).mp hm) (lt_of_le_of_lt hnow hlt)
    exact ⟨m', hkeeps id m' hm' (by linarith), hle⟩
  · intro c id hc d m hm
    exact le_trans (h.expired c id (hunmarked c id hc) d m ((hmarked d id m).mp hm)) hnow

/-- A call that has not reached its legs is turned away. -/
theorem Exclusive.refuse {cb : CircuitBreaker} {rp : ReplayProtection} {error : ExecError}
    (h : s.Exclusive) (hle : s.now ≤ time) (hplaced : ∀ id, ¬ (s.phase call).Placed id)
    (httl : rp.ttlSeconds = 60)
    (hkeeps : ∀ id m, s.replayProtection.executed id = some m → time < m + 60 →
      rp.executed id = some m)
    (hok : EventOk s.log (.refused call signal.signalId error time)) :
    ({ s with circuitBreaker := cb, replayProtection := rp, now := time }.refuse call signal error
      time).Exclusive := by
  refine h.quiet hle rfl (fun id hc => hc.elim) ?_ ?_ ?_ httl hkeeps (h.proper.snoc hok)
  · intro id hc
    exact absurd hc (hplaced id)
  · intro c id x hx
    simpa [SharedExecutor.refuse, logged, setPhase] using hx
  · intro c id m
    simp [SharedExecutor.refuse, logged, setPhase]

/-- The table after `is_duplicate` still has every mark of the last sixty seconds. -/
theorem isDuplicate_keeps (h : s.Exclusive) (signal : Signal) {id : String} {m : ℚ}
    (hm : s.replayProtection.executed id = some m) (hlt : time < m + 60) :
    (s.replayProtection.isDuplicate signal time).2.executed id = some m := by
  show (s.replayProtection.executed id).filter _ = some m
  rw [hm, Option.filter_some, h.ttl, if_pos]
  exact decide_eq_true (by linarith)

/-- The check of a signal nobody is between the check and the mark of. The table has every mark of
    the last sixty seconds, and none of this signal was found: all of its windows are over. -/
theorem Exclusive.fresh (h : s.Exclusive) (hle : s.now ≤ time)
    (hp : s.phase call = .pastBreaker signal)
    (hdup : (s.replayProtection.isDuplicate signal time).1 = false)
    (hgap : ∀ d, ¬ (s.phase d).Unmarked signal.signalId) :
    ({ s with replayProtection := (s.replayProtection.isDuplicate signal time).2,
              now := time }.setPhase call (.pastReplay signal)).Exclusive := by
  -- If a mark still counted it would be in the table, and the check would have found it.
  have hold : ∀ c m, .marked c signal.signalId m ∈ s.log → m + 60 ≤ time := by
    intro c m hm
    by_contra hlt
    have hlt' : time < m + 60 := not_le.mp hlt
    obtain ⟨m', hm', hmm⟩ := h.remembered c _ m hm (lt_of_le_of_lt hle hlt')
    have hkept := isDuplicate_keeps h signal hm' (by linarith : time < m' + 60)
    have hno : ((s.replayProtection.isDuplicate signal time).2.executed signal.signalId).isSome =
        false := hdup
    rw [hkept] at hno
    cases hno
  have hplaced : ∀ c id, (s.phase c).Placed id →
      (if c = call then CallPhase.pastReplay signal else s.phase c).Placed id := by
    intro c id hc
    apply (ite_phase_iff (CallPhase.Placed _)).mpr
    refine .inr ⟨?_, hc⟩
    intro heq
    rw [heq, hp] at hc
    exact hc
  refine ⟨h.ttl, ?_, ?_, ?_, ?_, ?_, h.proper⟩
  · intro c d id hc hd
    rcases (ite_phase_iff (CallPhase.Unmarked _)).mp hc with ⟨rfl, rfl⟩ | ⟨_, hc⟩
    · rcases (ite_phase_iff (CallPhase.Unmarked _)).mp hd with ⟨rfl, _⟩ | ⟨_, hd⟩
      · rfl
      · exact absurd hd (hgap d)
    · rcases (ite_phase_iff (CallPhase.Unmarked _)).mp hd with ⟨_, rfl⟩ | ⟨_, hd⟩
      · exact absurd hc (hgap c)
      · exact h.alone c d id hc hd
  · intro c id x hx
    rcases h.reached c id x hx with hc | hm
    · exact .inl (hplaced c id hc)
    · exact .inr hm
  · intro c id m hm
    exact le_trans (h.past c id m hm) hle
  · intro c id m hm hlt
    obtain ⟨m', hm', hmm⟩ := h.remembered c id m hm (lt_of_le_of_lt hle hlt)
    have hlt' : time < m + 60 := hlt
    exact ⟨m', isDuplicate_keeps h signal hm' (by linarith), hmm⟩
  · intro c id hc d m hm
    rcases (ite_phase_iff (CallPhase.Unmarked _)).mp hc with ⟨_, rfl⟩ | ⟨_, hc⟩
    · exact hold d m hm
    · exact le_trans (h.expired c id hc d m hm) hle

/-- A checked call reaches its legs. -/
theorem Exclusive.reach (h : s.Exclusive) (hle : s.now ≤ time)
    (hp : s.phase call = .pastReplay signal) :
    (({ s with now := time }.setPhase call (.inLegs signal)).logged
      (.reachedLegs call signal.signalId time)).Exclusive := by
  -- reaching the legs starts no unmarked stretch: the check did that
  have hunmarked : ∀ c id, (if c = call then CallPhase.inLegs signal else s.phase c).Unmarked id →
      (s.phase c).Unmarked id := by
    intro c id hc
    rcases (ite_phase_iff (CallPhase.Unmarked _)).mp hc with ⟨rfl, hcall⟩ | ⟨_, hother⟩
    · rw [hp]
      exact hcall
    · exact hother
  have hmark : ∀ c id m, .marked c id m ∈ s.log ++ [.reachedLegs call signal.signalId time] →
      .marked c id m ∈ s.log := by
    intro c id m hm
    simpa using hm
  refine ⟨h.ttl, ?_, ?_, ?_, ?_, ?_, h.proper.snoc (h.windowClosed hp hle)⟩
  · intro c d id hc hd
    exact h.alone c d id (hunmarked c id hc) (hunmarked d id hd)
  · -- the call itself is the new entry; all others were there before
    intro c id x hx
    rcases List.mem_append.mp hx with hx | hx
    · rcases h.reached c id x hx with hc | ⟨m, hm⟩
      · refine .inl ((ite_phase_iff (CallPhase.Placed _)).mpr (.inr ⟨?_, hc⟩))
        intro heq
        rw [heq, hp] at hc
        exact hc
      · exact .inr ⟨m, List.mem_append_left _ hm⟩
    · simp only [List.mem_singleton, CallEvent.reachedLegs.injEq] at hx
      obtain ⟨rfl, rfl, _⟩ := hx
      exact .inl ((ite_phase_iff (CallPhase.Placed _)).mpr (.inl ⟨rfl, rfl⟩))
  · intro c id m hm
    exact le_trans (h.past c id m (hmark c id m hm)) hle
  · intro c id m hm hlt
    exact h.remembered c id m (hmark c id m hm) (lt_of_le_of_lt hle hlt)
  · intro c id hc d m hm
    exact le_trans (h.expired c id (hunmarked c id hc) d m (hmark d id m hm)) hle

/-- The mark ends the unmarked stretch of the only call with its id. -/
theorem Exclusive.mark (h : s.Exclusive) (hle : s.now ≤ time) {state : ExecutorState}
    (hp : s.phase call = .legsDone signal state) :
    (({ s with replayProtection := s.replayProtection.markExecuted signal time,
               now := time }.setPhase call (.marked signal state)).logged
      (.marked call signal.signalId time)).Exclusive := by
  -- the call is in its unmarked stretch, and by `alone` the only one with its id
  have hcall : (s.phase call).Unmarked signal.signalId := by
    rw [hp]
    rfl
  have hunmarked : ∀ c id, (if c = call then CallPhase.marked signal state else s.phase c).Unmarked
      id → c ≠ call ∧ (s.phase c).Unmarked id := by
    intro c id hc
    rcases (ite_phase_iff (CallPhase.Unmarked _)).mp hc with ⟨_, hc⟩ | hc
    · exact hc.elim
    · exact hc
  have hmark : ∀ c id m, .marked c id m ∈ s.log ++ [.marked call signal.signalId time] →
      .marked c id m ∈ s.log ∨ (id = signal.signalId ∧ m = time) := by
    intro c id m hm
    rcases List.mem_append.mp hm with hm | hm
    · exact .inl hm
    · simp only [List.mem_singleton, CallEvent.marked.injEq] at hm
      exact .inr hm.2
  refine ⟨h.ttl, ?_, ?_, ?_, ?_, ?_, h.proper.snoc trivial⟩
  · intro c d id hc hd
    exact h.alone c d id (hunmarked c id hc).2 (hunmarked d id hd).2
  · intro c id x hx
    have hx' : .reachedLegs c id x ∈ s.log := by
      rcases List.mem_append.mp hx with hx | hx
      · exact hx
      · simp at hx
    rcases h.reached c id x hx' with hc | ⟨m, hm⟩
    · by_cases heq : c = call
      · rw [heq, hp] at hc
        rw [heq, ← show signal.signalId = id from hc]
        exact .inr ⟨time, List.mem_append_right _ (List.mem_singleton_self _)⟩
      · exact .inl ((ite_phase_iff (CallPhase.Placed _)).mpr (.inr ⟨heq, hc⟩))
    · exact .inr ⟨m, List.mem_append_left _ hm⟩
  · intro c id m hm
    rcases hmark c id m hm with hm | ⟨_, rfl⟩
    · exact le_trans (h.past c id m hm) hle
    · exact le_refl m
  · intro c id m hm hlt
    -- the mark replaces an earlier one of the same id, and is no earlier than it
    show ∃ m', (if id = signal.signalId then some time else _) = some m' ∧ m ≤ m'
    rcases hmark c id m hm with hm | ⟨rfl, rfl⟩
    · by_cases heq : id = signal.signalId
      · exact ⟨time, if_pos heq, le_trans (h.past c id m hm) hle⟩
      · rw [if_neg heq]
        exact h.remembered c id m hm (lt_of_le_of_lt hle hlt)
    · exact ⟨m, if_pos rfl, le_refl m⟩
  · intro c id hc d m hm
    obtain ⟨hne, hc⟩ := hunmarked c id hc
    rcases hmark d id m hm with hm | ⟨rfl, _⟩
    · exact le_trans (h.expired c id hc d m hm) hle
    · exact absurd (h.alone c call _ hc hcall) hne

/-- **One orderly step keeps the invariant.** Most sections are quiet; the check starts an unmarked
    stretch, the mark ends one, and reaching the legs is what the invariant is for. -/
theorem execStep_exclusive {i : ExecAction} (h : s.Exclusive) (hi : s.Orderly i)
    (hstep : s.execStep i = some t) : t.Exclusive := by
  cases execStep_section hstep with
  | call hp =>
    refine h.quiet (le_refl _) rfl (fun id hc => hc.elim) ?_ (fun _ _ _ hx => hx)
      (fun _ _ _ => Iff.rfl) h.ttl (fun _ _ hm _ => hm) h.proper
    intro id hc
    rw [hp] at hc
    exact hc.elim
  -- an orderly step turns nobody away here while the window of the signal is open
  | @breakerOpen call signal time hp hle hopen =>
    refine h.refuse hle ?_ h.ttl (fun _ _ hm _ => hm) ?_
    · intro id hc
      rw [hp] at hc
      exact hc
    · intro hwindow
      exact absurd hwindow (hi signal hp hopen)
  | breakerClosed hp hle hopen =>
    refine h.quiet hle rfl (fun id hc => hc.elim) ?_ (fun _ _ _ hx => hx)
      (fun _ _ _ => Iff.rfl) h.ttl (fun _ _ hm _ => hm) h.proper
    intro id hc
    rw [hp] at hc
    exact hc.elim
  | @duplicate call signal time hp hle hdup =>
    refine h.refuse hle ?_ h.ttl (fun _ _ hm hlt => isDuplicate_keeps h signal hm hlt) ?_
    · intro id hc
      rw [hp] at hc
      exact hc
    · intro _
      rfl
  | @fresh call signal time hp hle hdup => exact h.fresh hle hp hdup (hi signal hp)
  | reach hp hle _ => exact h.reach hle hp
  -- the check has passed, so no mark of its id is young enough to refuse it for
  | invalid hp hle _ =>
    refine h.refuse hle ?_ h.ttl (fun _ _ hm _ => hm) ?_
    · intro id hc
      rw [hp] at hc
      exact hc
    · intro hwindow
      exact absurd hwindow (h.windowClosed hp hle)
  | finishLegs hp =>
    refine h.quiet (le_refl _) rfl ?_ ?_ (fun _ _ _ hx => hx) (fun _ _ _ => Iff.rfl) h.ttl
      (fun _ _ hm _ => hm) h.proper
    · intro id hc
      rw [hp]
      exact hc
    · intro id hc
      rw [hp] at hc
      exact hc
  | mark hp hle => exact h.mark hle hp
  | record hp hle hreopen =>
    refine h.quiet (le_trans hle hreopen) rfl (fun id hc => hc.elim) ?_ (fun _ _ _ hx => hx)
      (fun _ _ _ => Iff.rfl) h.ttl (fun _ _ hm _ => hm) h.proper
    intro id hc
    rw [hp] at hc
    exact hc.elim

/-- **Every run that stays out of the gap executes a signal at most once.** Any number of calls,
    with any signals and in any order of their sections; the guard is asked of every step of the
    run, before it is taken. -/
theorem orderly_runs_proper {cb : CircuitBreaker} {now : ℚ} {is : List ExecAction}
    {t : SharedExecutor}
    (run : GuardedRun execStep Orderly (new cb (ReplayProtection.new 60) now) is t) :
    Proper t.log :=
  (run.invariant (fun h hi hstep => execStep_exclusive h hi hstep) (exclusive_new cb now)).proper

def sampleShared : SharedExecutor := new (CircuitBreaker.new none) (ReplayProtection.new 60) 0

/-- Two calls with one signal, the second checked after the first is marked. -/
theorem sample_orderly_calls_proper :
    ∃ t, GuardedRun execStep Orderly sampleShared
      [.call 0 (sampleSignal .buyDexSellCex), .call 1 (sampleSignal .buyDexSellCex),
        .checkBreaker 0 0, .checkBreaker 1 0, .checkReplay 0 0, .validate 0 0,
        .finishLegs 0 .done, .mark 0 1, .checkReplay 1 2] t ∧ Proper t.log ∧
      t.log = [.reachedLegs 0 "ETHUSDT_1a2b3c4d" 0, .marked 0 "ETHUSDT_1a2b3c4d" 1,
        .refused 1 "ETHUSDT_1a2b3c4d" .duplicateSignal 2] := by
  have run : ∃ t, GuardedRun execStep Orderly sampleShared
      [.call 0 (sampleSignal .buyDexSellCex), .call 1 (sampleSignal .buyDexSellCex),
        .checkBreaker 0 0, .checkBreaker 1 0, .checkReplay 0 0, .validate 0 0,
        .finishLegs 0 .done, .mark 0 1, .checkReplay 1 2] t ∧
      t.log = [.reachedLegs 0 "ETHUSDT_1a2b3c4d" 0, .marked 0 "ETHUSDT_1a2b3c4d" 1,
        .refused 1 "ETHUSDT_1a2b3c4d" .duplicateSignal 2] := by
    refine ⟨_, .cons trivial rfl <| .cons trivial rfl <| .cons ?_ rfl <| .cons ?_ rfl <|
      .cons ?_ rfl <| .cons trivial rfl <| .cons trivial rfl <| .cons trivial rfl <|
      .cons ?_ (Option.some_get (by decide +kernel)).symm <| .nil _, by decide +kernel⟩
    · -- the breaker is closed for both, and no call is unmarked when the first is checked
      intro signal _ hopen
      cases hopen
    · intro signal _ hopen
      cases hopen
    · intro signal _ d h
      match d with
      | 0 => exact h
      | 1 => exact h
      | d + 2 => exact h
    · intro signal _ d h
      match d with
      | 0 => exact h
      | 1 => exact h
      | d + 2 => exact h
  obtain ⟨t, hrun, hlog⟩ := run
  exact ⟨t, hrun, orderly_runs_proper hrun, hlog⟩

/-- Two calls with one signal, both checked before either is marked: both trade. -/
theorem sample_gap_not_proper :
    ∃ t, Run execStep sampleShared
      [.call 0 (sampleSignal .buyDexSellCex), .call 1 (sampleSignal .buyDexSellCex),
        .checkBreaker 0 0, .checkBreaker 1 0, .checkReplay 0 0, .checkReplay 1 0,
        .validate 0 0, .validate 1 1] t ∧ ¬ Proper t.log := by
  refine ⟨_, Run.of_foldlM rfl, ?_⟩
  intro h
  refine h [.reachedLegs 0 "ETHUSDT_1a2b3c4d" 0] (.reachedLegs 1 "ETHUSDT_1a2b3c4d" 1) [] rfl ?_
  refine ⟨0, 0, List.mem_singleton_self _, ?_⟩
  intro m hm
  simp at hm

/-! ## One call at a time -/

/-- The readings of a call are taken in order, none before `now`. -/
structure ClockInOrder (now : ℚ) (clock : ExecClock) : Prop where
  breaker : now ≤ clock.breaker
  replay : clock.breaker ≤ clock.replay
  validity : clock.replay ≤ clock.validity
  mark : clock.validity ≤ clock.mark
  record : clock.mark ≤ clock.record
  reopen : clock.record ≤ clock.reopen

/-- **A call of `execute` that nobody interleaves with is a run of its sections**, with the same
    breaker, the same table and the same answer in the end. This is what ties the sections to the
    function that the rest of the development is about: they are that function, cut where it lets
    go of a lock. -/
theorem execute_is_run {ex : Executor} {clock : ExecClock} {legs : Legs} {signal : Signal}
    (hcb : s.circuitBreaker = ex.circuitBreaker) (hrp : s.replayProtection = ex.replayProtection)
    (hidle : s.phase call = .idle) (hclock : ClockInOrder s.now clock) :
    ∃ is t, Run execStep s is t ∧ t.phase call = .returned ∧
      t.circuitBreaker = (ex.execute clock legs signal).2.1.circuitBreaker ∧
      t.replayProtection = (ex.execute clock legs signal).2.1.replayProtection := by
  -- the phase of this call is what it was set to last
  have hself : ∀ (u : SharedExecutor) p, (u.setPhase call p).phase call = p := by
    intro u p
    exact if_pos rfl
  have hself' : ∀ (u : SharedExecutor) p e, ((u.setPhase call p).logged e).phase call = p := by
    intro u p e
    exact if_pos rfl
  have hcalled : Run execStep s _ (s.setPhase call (.called signal)) :=
    .single trivial (ExecSection.step (.call hidle))
  simp only [Executor.execute, Executor.pastGates, Executor.finish, ← hcb, ← hrp]
  -- gate by gate: a run that ends at the gate, or goes on behind it
  cases hopen : (s.circuitBreaker.isOpen clock.breaker).1 with
  | true =>
    have h := hcalled.append
      (.single trivial (ExecSection.step (.breakerOpen (hself _ _) hclock.breaker hopen)))
    exact ⟨_, _, h, hself' _ _ _, rfl, rfl⟩
  | false =>
    have hbreaker := hcalled.append
      (.single trivial (ExecSection.step (.breakerClosed (hself _ _) hclock.breaker hopen)))
    cases hdup : (s.replayProtection.isDuplicate signal clock.replay).1 with
    | true =>
      have h := hbreaker.append
        (.single trivial (ExecSection.step (.duplicate (hself _ _) hclock.replay hdup)))
      exact ⟨_, _, h, hself' _ _ _, rfl, rfl⟩
    | false =>
      have hreplay := hbreaker.append
        (.single trivial (ExecSection.step (.fresh (hself _ _) hclock.replay hdup)))
      cases hvalid : signal.isValid clock.validity with
      | false =>
        have h := hreplay.append
          (.single trivial (ExecSection.step (.invalid (hself _ _) hclock.validity hvalid)))
        exact ⟨_, _, h, hself' _ _ _, rfl, rfl⟩
      | true =>
        have hreach := hreplay.append
          (.single trivial (ExecSection.step (.reach (hself _ _) hclock.validity hvalid)))
        -- what the legs end in is an argument, so the rest of the run is given for any end
        have hlegs := fun state : ExecutorState => hreach.append
          (.single trivial (ExecSection.step
            (.finishLegs (hself' _ _ _) : ExecSection _ (.finishLegs call state) _)))
        have hmark := fun state => (hlegs state).append
          (.single trivial (ExecSection.step (.mark (hself _ _) hclock.mark)))
        have h := fun state => (hmark state).append
          (.single trivial (ExecSection.step (.record (hself' _ _ _) hclock.record hclock.reopen)))
        exact ⟨_, _, h _, hself _ _, rfl, rfl⟩

end SharedExecutor
end ArbEngine
