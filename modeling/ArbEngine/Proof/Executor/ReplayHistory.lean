import ArbEngine.Proof.Executor.Consistency

/-!
# The replay protection as a history of marks

The table forgets marks whenever it is asked about any signal, and a mark overwrites the one
before it, so what it holds depends on every call there has been. What it answers does not:
among the marks that are still live it agrees with the history (`executed_filter`). Calls of
`execute` that follow each other are a history like any other, which keeps two of them with one
signal apart (`checksApart_mark`).

The history is not in the code. It is the list of all marks with their times, and the table is what
is left of it after some of the dead marks have been forgotten and others overwritten; a query
looks at one signal's latest mark only, and this one is never lost while it lives.
-/

namespace ArbEngine

/-! ## Histories -/

/-- A call on the replay protection, with its reading of the clock. -/
inductive ReplayOp where
  | isDuplicate (signal : Signal) (time : ℚ)
  | markExecuted (signal : Signal) (time : ℚ)

namespace ReplayOp

def time : ReplayOp → ℚ
  | .isDuplicate _ time => time
  | .markExecuted _ time => time

/-- The time of a mark of the id. -/
def marks (id : String) : ReplayOp → Option ℚ
  | .isDuplicate _ _ => none
  | .markExecuted signal time => if signal.signalId = id then some time else none

/-- The time of the most recent mark of the id. -/
def lastMark (id : String) (ops : List ReplayOp) : Option ℚ := (ops.filterMap (marks id)).getLast?

/-- The readings of the clock never decrease. -/
def InOrder (ops : List ReplayOp) : Prop := ops.Pairwise fun op op' => op.time ≤ op'.time

end ReplayOp

open ReplayOp

namespace ReplayProtection

variable {rp : ReplayProtection} {ttl now : ℚ} {ops : List ReplayOp} {op : ReplayOp} {id : String}

def perform (rp : ReplayProtection) : ReplayOp → ReplayProtection
  | .isDuplicate signal time => (rp.isDuplicate signal time).2
  | .markExecuted signal time => rp.markExecuted signal time

def performAll (rp : ReplayProtection) (ops : List ReplayOp) : ReplayProtection :=
  ops.foldl perform rp

@[simp] theorem perform_ttlSeconds : (rp.perform op).ttlSeconds = rp.ttlSeconds := by
  cases op with
  | isDuplicate signal time => rfl
  | markExecuted signal time => rfl

@[simp] theorem performAll_nil : rp.performAll [] = rp := rfl

theorem performAll_concat : rp.performAll (ops ++ [op]) = (rp.performAll ops).perform op :=
  List.foldl_concat _ _ _ _

theorem performAll_append {ops' : List ReplayOp} :
    rp.performAll (ops ++ ops') = (rp.performAll ops).performAll ops' :=
  List.foldl_append

@[simp] theorem performAll_ttlSeconds : (rp.performAll ops).ttlSeconds = rp.ttlSeconds := by
  induction ops using List.reverseRecOn with
  | nil => rfl
  | append_singleton ops op ih => rw [performAll_concat, perform_ttlSeconds, ih]

end ReplayProtection

namespace ReplayOp

variable {ops : List ReplayOp} {op : ReplayOp} {id : String} {now : ℚ}

theorem lastMark_concat :
    lastMark id (ops ++ [op]) = (marks id op).or (lastMark id ops) := by
  unfold lastMark
  rw [List.filterMap_append, List.getLast?_append]
  cases h : marks id op with
  | none => simp [h]
  | some time => simp [h]

theorem time_of_marks {m : ℚ} (h : marks id op = some m) : m = op.time := by
  cases op with
  | isDuplicate signal time => cases h
  | markExecuted signal time =>
    by_cases same : signal.signalId = id
    · rw [marks, if_pos same] at h
      exact (Option.some.inj h).symm
    · rw [marks, if_neg same] at h
      cases h

/-- In a history in order, no mark is later than the most recent one. -/
theorem le_lastMark {signal : Signal} {time : ℚ}
    (sorted : InOrder ops)
    (h : .markExecuted signal time ∈ ops) :
    ∃ m, lastMark signal.signalId ops = some m ∧ time ≤ m := by
  induction ops using List.reverseRecOn with
  | nil => cases h
  | append_singleton ops op ih =>
    rw [lastMark_concat]
    obtain ⟨before, -, last⟩ := List.pairwise_append.mp sorted
    rcases List.mem_append.mp h with old | new
    · cases hm : marks signal.signalId op with
      | none => exact ih before old
      | some m =>
        refine ⟨m, rfl, ?_⟩
        rw [time_of_marks hm]
        exact last _ old op (List.mem_singleton_self op)
    · obtain rfl := List.mem_singleton.mp new
      refine ⟨time, ?_, le_rfl⟩
      rw [marks, if_pos rfl]
      rfl

end ReplayOp

namespace ReplayProtection

variable {rp : ReplayProtection} {ttl now : ℚ} {ops : List ReplayOp} {op : ReplayOp} {id : String}

/-- A filter that lets less through makes up for one that came before it. -/
theorem filter_filter_of_imp {o : Option ℚ} {p q : ℚ → Bool} (h : ∀ x, q x = true → p x = true) :
    (o.filter p).filter q = o.filter q := by
  cases o with
  | none => rfl
  | some x =>
    cases hq : q x with
    | true => simp [Option.filter_some, h x hq, hq]
    | false =>
      cases hp : p x with
      | true => simp [Option.filter_some, hp, hq]
      | false => simp [Option.filter_some, hp, hq]

/-- **Among the live marks the table agrees with the history.** -/
theorem executed_filter (late : ∀ op ∈ ops, op.time ≤ now) :
    (((new ttl).performAll ops).executed id).filter (now - ttl < ·) =
      (lastMark id ops).filter (now - ttl < ·) := by
  induction ops using List.reverseRecOn with
  | nil => rfl
  | append_singleton ops op ih =>
    have before := ih fun op' h => late op' (List.mem_append_left _ h)
    have last : op.time ≤ now := late op (List.mem_append_right _ (List.mem_singleton_self op))
    rw [performAll_concat, lastMark_concat]
    cases op with
    | isDuplicate signal time =>
      show ((((new ttl).performAll ops).executed id).filter _).filter _ = _
      rw [performAll_ttlSeconds, filter_filter_of_imp, before]
      · rfl
      · intro x live
        have passed : time ≤ now := last
        exact decide_eq_true (by
          have := of_decide_eq_true live
          show time - ttl < x
          linarith)
    | markExecuted signal time =>
      show (if id = signal.signalId then some time else _).filter _ = _
      by_cases same : signal.signalId = id
      · rw [if_pos same.symm, marks, if_pos same]
        rfl
      · rw [if_neg (Ne.symm same), marks, if_neg same]
        exact before

/-- **A signal is a duplicate exactly if its most recent mark is live.** -/
theorem isDuplicate_iff (signal : Signal) (late : ∀ op ∈ ops, op.time ≤ now) :
    (((new ttl).performAll ops).isDuplicate signal now).1 = true ↔
      ∃ m, lastMark signal.signalId ops = some m ∧ now - ttl < m := by
  show ((((new ttl).performAll ops).executed signal.signalId).filter _).isSome = true ↔ _
  rw [performAll_ttlSeconds]
  show ((((new ttl).performAll ops).executed signal.signalId).filter (now - ttl < ·)).isSome =
    true ↔ _
  rw [executed_filter late, Option.isSome_iff_exists]
  simp only [Option.filter_eq_some_iff, decide_eq_true_eq]

/-- A query forgets no live mark, whatever it is about. -/
theorem isDuplicate_keeps_live (signal : Signal) (late : ∀ op ∈ ops, op.time ≤ now) {m : ℚ}
    (hm : lastMark id ops = some m) (live : now - ttl < m) :
    (((new ttl).performAll ops).isDuplicate signal now).2.executed id = some m := by
  show (((new ttl).performAll ops).executed id).filter _ = some m
  rw [performAll_ttlSeconds]
  show (((new ttl).performAll ops).executed id).filter (now - ttl < ·) = some m
  rw [executed_filter late, hm, Option.filter_some, if_pos (decide_eq_true live)]

end ReplayProtection

/-! ## Calls of `execute` one after the other -/

/-- The readings of a call, in the order in which they are taken. -/
def ExecClock.readings (clock : ExecClock) : List ℚ :=
  [clock.started, clock.breaker, clock.replay, clock.validity, clock.mark, clock.record,
    clock.reopen, clock.finished]

/-- The call awaits the answer of a leg. -/
def ReachesLeg (ex : Executor) (call : Call) : Prop :=
  ∃ venue reply, .awaited venue reply ∈ (ex.execute call.clock call.legs call.signal).2.2

/-- What a call does with the replay protection. -/
def Call.replayOps (ex : Executor) (call : Call) : List ReplayOp :=
  if (ex.circuitBreaker.isOpen call.clock.breaker).1 then []
  else
    .isDuplicate call.signal call.clock.replay ::
      if Admitted ex call.clock call.signal then [.markExecuted call.signal call.clock.mark] else []

/-- What calls that follow each other do with it. -/
def replayHistory (ex : Executor) : List Call → List ReplayOp
  | [] => []
  | call :: calls =>
      call.replayOps ex ++
        replayHistory (ex.execute call.clock call.legs call.signal).2.1 calls

section Calls

variable {ex : Executor} {call : Call} {calls calls' : List Call} {ttl : ℚ}

theorem replayHistory_append :
    replayHistory ex (calls ++ calls') =
      replayHistory ex calls ++ replayHistory (ex.afterCalls calls) calls' := by
  induction calls generalizing ex with
  | nil => rfl
  | cons call calls ih =>
    rw [List.cons_append, replayHistory, ih, replayHistory, List.append_assoc]
    rfl

/-- However a flow ends, it has awaited its first leg. -/
theorem FlowEnd.awaits {config : ExecutorConfig} {legs : Legs} {signal : Signal}
    {t t' : InventoryTracker} {path : List ExecEvent} {state : ExecutorState}
    {fill1 fill2 : Option ℚ} (h : FlowEnd config legs signal t path t' state fill1 fill2) :
    ∃ venue reply, .awaited venue reply ∈ path := by
  cases h with
  | silentFirst _ => exact ⟨_, _, List.mem_cons_of_mem _ List.mem_cons_self⟩
  | refusedFirst _ _ _ => exact ⟨_, _, List.mem_cons_of_mem _ List.mem_cons_self⟩
  | silentSecond _ _ _ _ => exact ⟨_, _, List.mem_cons_of_mem _ List.mem_cons_self⟩
  | refusedSecond _ _ _ _ _ _ => exact ⟨_, _, List.mem_cons_of_mem _ List.mem_cons_self⟩
  | finished _ _ _ _ _ _ => exact ⟨_, _, List.mem_cons_of_mem _ List.mem_cons_self⟩

/-- A call reaches a leg exactly if it is admitted. -/
theorem reachesLeg_iff : ReachesLeg ex call ↔ Admitted ex call.clock call.signal := by
  unfold ReachesLeg
  rcases execute_cases ex call.clock call.legs call.signal with ⟨no, -, -, path⟩ | ⟨yes, path⟩
  · refine iff_of_false ?_ no
    rintro ⟨venue, reply, h⟩
    rcases path with refused | refused
    · simp [refused] at h
    · simp [refused] at h
  · obtain ⟨path, trace, ending⟩ := path
    obtain ⟨venue, reply, h⟩ := ending.awaits
    exact iff_of_true ⟨venue, reply, trace ▸ List.mem_cons_of_mem _ h⟩ yes

/-- **A call leaves its operations on the replay protection, and nothing else.** -/
theorem execute_replayProtection :
    (ex.execute call.clock call.legs call.signal).2.1.replayProtection =
      ex.replayProtection.performAll (call.replayOps ex) := by
  unfold Call.replayOps
  cases hopen : (ex.circuitBreaker.isOpen call.clock.breaker).1 with
  | true =>
    rw [if_pos rfl]
    simp [Executor.execute, Executor.pastGates, Executor.refused, hopen]
  | false =>
    rw [if_neg Bool.false_ne_true]
    by_cases hadm : Admitted ex call.clock call.signal
    · rw [if_pos hadm, execute_of_admitted call.legs hadm]
      rfl
    · -- Behind a closed breaker either of the two gates has asked the replay protection.
      rw [if_neg hadm]
      have gate : (ex.replayProtection.isDuplicate call.signal call.clock.replay).1 = true ∨
          call.signal.isValid call.clock.validity = false := by
        by_contra! passed
        exact hadm ⟨hopen, by simpa using passed.1, by simpa using passed.2⟩
      cases hdup : (ex.replayProtection.isDuplicate call.signal call.clock.replay).1 with
      | true =>
        simp [Executor.execute, Executor.pastGates, Executor.refused, hopen, hdup,
          ReplayProtection.performAll, ReplayProtection.perform]
      | false =>
        have hvalid := gate.resolve_left (by simp [hdup])
        simp [Executor.execute, Executor.pastGates, Executor.refused, hopen, hdup, hvalid,
          ReplayProtection.performAll, ReplayProtection.perform]

theorem afterCalls_replayProtection :
    (ex.afterCalls calls).replayProtection =
      ex.replayProtection.performAll (replayHistory ex calls) := by
  induction calls generalizing ex with
  | nil => rfl
  | cons call calls ih =>
    rw [replayHistory, ReplayProtection.performAll_append, ← execute_replayProtection]
    exact ih

/-- The history of calls is in the order of their readings. -/
theorem replayHistory_sublist :
    ((replayHistory ex calls).map ReplayOp.time).Sublist
      (calls.flatMap fun call => call.clock.readings) := by
  induction calls generalizing ex with
  | nil => exact List.Sublist.refl _
  | cons call calls ih =>
    rw [replayHistory, List.map_append, List.flatMap_cons]
    refine List.Sublist.append ?_ ih
    unfold Call.replayOps ExecClock.readings
    split
    · exact List.nil_sublist _
    · refine .cons _ (.cons _ (.cons_cons _ ?_))
      split
      · exact .cons _ (.cons_cons _ (List.nil_sublist _))
      · exact List.nil_sublist _

end Calls

/-- Two calls with one signal that both reach a leg are apart: the duplicate check of the second is
    made no earlier than `ttl` after what `completed` says of the first. -/
def ChecksApart (ttl : ℚ) (completed : Call → ℚ) : Prop :=
  ∀ (ex : Executor) (before : List Call) (fst : Call) (between : List Call) (snd : Call),
    ex.replayProtection = .new ttl →
    ((before ++ fst :: (between ++ [snd])).flatMap fun call => call.clock.readings).Pairwise
      (· ≤ ·) →
    fst.signal.signalId = snd.signal.signalId →
    ReachesLeg (ex.afterCalls before) fst →
    ReachesLeg (ex.afterCalls (before ++ fst :: between)) snd →
    completed fst + ttl ≤ snd.clock.replay

/-- **Calls of `execute` that follow each other are apart from the mark of the first.** -/
theorem checksApart_mark (ttl : ℚ) : ChecksApart ttl fun call => call.clock.mark := by
  intro ex before fst between snd fresh sorted same reached reached'
  obtain ⟨-, unmarked, -⟩ := reachesLeg_iff.mp reached'
  have history : (ex.afterCalls (before ++ fst :: between)).replayProtection =
      (ReplayProtection.new ttl).performAll (replayHistory ex (before ++ fst :: between)) := by
    rw [afterCalls_replayProtection, fresh]
  have ordered : InOrder (replayHistory ex (before ++ fst :: (between ++ [snd]))) :=
    List.pairwise_map.mp (sorted.sublist replayHistory_sublist)
  -- The check of the second call comes after everything in the history before it.
  have last : .isDuplicate snd.signal snd.clock.replay ∈
      snd.replayOps (ex.afterCalls (before ++ fst :: between)) := by
    rw [Call.replayOps, (reachesLeg_iff.mp reached').1, if_neg Bool.false_ne_true]
    exact List.mem_cons_self
  have marked : .markExecuted fst.signal fst.clock.mark ∈
      replayHistory ex (before ++ fst :: between) := by
    rw [replayHistory_append]
    refine List.mem_append_right _ (List.mem_append_left _ ?_)
    rw [Call.replayOps, (reachesLeg_iff.mp reached).1, if_neg Bool.false_ne_true,
      if_pos (reachesLeg_iff.mp reached)]
    exact List.mem_cons_of_mem _ List.mem_cons_self
  rw [show before ++ fst :: (between ++ [snd]) = (before ++ fst :: between) ++ [snd] by simp,
    replayHistory_append] at ordered
  obtain ⟨earlier, -, late⟩ := List.pairwise_append.mp ordered
  have past : ∀ op ∈ replayHistory ex (before ++ fst :: between), op.time ≤ snd.clock.replay :=
    fun op hop => late op hop _ (List.mem_append_left _ last)
  obtain ⟨m, hm, hle⟩ := ReplayOp.le_lastMark earlier marked
  rw [same] at hm
  by_contra near
  have live : snd.clock.replay - ttl < m := by
    have := not_le.mp near
    linarith
  rw [history, (ReplayProtection.isDuplicate_iff snd.signal past).mpr ⟨m, hm, live⟩] at unmarked
  cases unmarked

/-- **The replay protection refines its history**, whatever calls it has had in the order of their
    times: a signal is a duplicate exactly if its most recent mark is live, a query forgets no
    live mark, and so calls of `execute` that follow each other are apart from their marks. -/
theorem replay_refines_history {ttl now : ℚ} {ops : List ReplayOp} (signal : Signal)
    (ordered : InOrder (ops ++ [.isDuplicate signal now])) :
    ((((ReplayProtection.new ttl).performAll ops).isDuplicate signal now).1 = true ↔
        ∃ m, lastMark signal.signalId ops = some m ∧ now - ttl < m) ∧
      (∀ id m, lastMark id ops = some m → now - ttl < m →
        (((ReplayProtection.new ttl).performAll ops).isDuplicate signal now).2.executed id =
          some m) ∧
      ChecksApart ttl fun call => call.clock.mark := by
  have late : ∀ op ∈ ops, op.time ≤ now :=
    fun op hop => (List.pairwise_append.mp ordered).2.2 op hop _ (List.mem_singleton_self _)
  exact ⟨ReplayProtection.isDuplicate_iff signal late,
    fun id m hm live => ReplayProtection.isDuplicate_keeps_live signal late hm live,
    checksApart_mark ttl⟩

/-- The second mark of the signal keeps it a duplicate after the first has been forgotten. -/
theorem sample_replay_history :
    (((ReplayProtection.new 60).performAll
        [.markExecuted (sampleSignal .buyDexSellCex) 0,
          .isDuplicate (sampleSignal .buyCexSellDex) 30,
          .markExecuted (sampleSignal .buyDexSellCex) 50,
          .isDuplicate { sampleSignal .buyDexSellCex with signalId := "other" } 100]).isDuplicate
      (sampleSignal .buyDexSellCex) 105).1 = true := by
  refine (replay_refines_history _ ?_).1.mpr ⟨50, by decide +kernel, by norm_num⟩
  simp only [InOrder, List.cons_append, List.nil_append, List.pairwise_cons, ReplayOp.time]
  norm_num

/-- The readings of a call that is marked at `mark` and comes back at `finished`. -/
def sampleCall (start mark finished : ℚ) : Call where
  clock :=
    { started := start, breaker := start, replay := start, validity := start, mark := mark,
      record := mark, reopen := mark, finished := finished }
  legs := sampleLegs none none
  signal := { sampleSignal .buyDexSellCex with expiry := 100 }

/-- **The mark is made before the call comes back**: measured from there, a second call reaches its
    legs too early. -/
theorem not_checksApart_finished : ¬ ChecksApart 60 fun call => call.clock.finished := by
  intro apart
  have early := apart sampleExecutor [] (sampleCall 0 1 3) [] (sampleCall 62 62 62) rfl
    (by decide +kernel) rfl (reachesLeg_iff.mpr (by decide +kernel))
    (reachesLeg_iff.mpr (by decide +kernel))
  norm_num [sampleCall] at early


end ArbEngine
