import ArbEngine.Executor.Submission
import ArbEngine.Proof.Executor.Flow

/-!
# What the parties of a submission do

`netStep` is a function with many branches: a leg starts, asks, waits, reads an answer or gives
up; a venue takes an instruction, holds an order back, mines or settles it; a message is delivered
or lost. `netStep_moves` says all of them once, as the parts of the state that move, and what was
the case before (`NetMove`). The invariants are proved by cases on it and never look at the
step function.

What an answer makes of a leg (`Onward`) and what a request makes of its party (`served_cases`)
are said once in the same way.
-/

namespace ArbEngine
namespace Net

/-! ## What a step does -/

/-- Every step, by what it moves. A constructor has the part of the state that the step found and
    the state it leaves behind, so a proof by cases has no branch of `netStep` to take apart. Steps
    that differ only in why they happen are one move: a leg stops because its deadline is over,
    because it gave up, or because it was cancelled, and each of them just sets an ended phase. -/
inductive NetMove (v : Venues) (s : Net) : Net → Prop
  | start {leg : ℕ} {p : LegProcess} (hnone : s.leg leg = none) (hphase : p.phase = .preparing) :
      NetMove v s (s.setLeg leg p)
  | stop {leg : ℕ} {p : LegProcess} {phase : LegPhase} (hp : s.leg leg = some p)
      (hlive : p.phase.isEnded = false) (hphase : phase.isEnded = true) :
      NetMove v s (s.setLeg leg { p with phase := phase })
  | fail {leg : ℕ} {p : LegProcess} {request : Request} {msg : String}
      (hp : s.leg leg = some p) (hphase : p.phase = .awaiting request) :
      NetMove v s (s.setLeg leg { p with phase := p.onError v request msg })
  | submit {leg targetBlock : ℕ} {p : LegProcess} (hp : s.leg leg = some p)
      (hphase : p.phase = .preparing) :
      NetMove v s (s.send leg { p with targetBlock := targetBlock } (firstRequest leg p.route))
  | wake {leg : ℕ} {p : LegProcess} {request : Request} (hp : s.leg leg = some p)
      (hphase : p.phase = .due request) : NetMove v s (s.send leg p request)
  | receive {leg : ℕ} {p : LegProcess} {request : Request} {reply : Reply}
      (hp : s.leg leg = some p) (hphase : p.phase = .awaiting request)
      (hwire : s.wire request = .inbound reply) :
      NetMove v s ((s.setLeg leg
        { p with phase := p.onReply v request reply
                 unanswered := reply.settle request p.unanswered }).setWire request .closed)
  | serve {request : Request} {reply : Reply} {x : Standing} (hwire : s.wire request = .outbound)
      (hx : served v (s.standing request.leg) request reply = some x) :
      NetMove v s ((s.setStanding request.leg x).setWire request (.inbound reply))
  | hold {leg : ℕ} (hwire : s.wire (.order leg) = .outbound)
      (hunknown : s.standing leg = .unknown) :
      NetMove v s ((s.setStanding leg (.taken (.order leg))).setWire (.order leg) .held)
  | lose {request : Request} (hwire : s.wire request ≠ .unsent) :
      NetMove v s (s.setWire request .closed)
  | mine {leg : ℕ} {request : Request} {status : Bool} (htaken : s.standing leg = .taken request) :
      NetMove v s (s.setStanding leg (.included status))
  | settle {leg : ℕ} {request : Request} {order : OrderResult}
      (htaken : s.standing leg = .taken request) :
      NetMove v s (s.setStanding leg (.settled order))
  | report {leg : ℕ} {request : Request} {order : OrderResult}
      (htaken : s.standing leg = .taken request) (hwire : s.wire (.order leg) = .held) :
      NetMove v s ((s.setStanding leg (.settled order)).setWire (.order leg)
        (.inbound (.orderReport order)))

/-- The step function does nothing but these moves. This is the only proof that opens `netStep`:
    every action is taken apart once, and each branch that answers is one constructor. -/
theorem netStep_moves {v : Venues} {s t : Net} {a : NetAction} (h : netStep v s a = some t) :
    NetMove v s t := by
  cases a with
  | start leg route signal size =>
    simp only [netStep] at h
    split at h
    · rename_i hnone
      cases h
      exact .start hnone rfl
    · cases h
  | giveUp leg price error =>
    simp only [netStep] at h
    split at h
    · rename_i p hp
      split at h
      · rename_i hphase
        cases h
        refine .stop hp ?_ rfl
        rw [hphase]
        rfl
      · cases h
    · cases h
  | submit leg targetBlock =>
    simp only [netStep] at h
    split at h
    · rename_i p hp
      split at h
      · rename_i hphase
        cases h
        exact .submit hp hphase
      · cases h
    · cases h
  | wake leg =>
    simp only [netStep] at h
    split at h
    · rename_i p hp
      split at h
      · rename_i request hphase
        cases h
        exact .wake hp hphase
      · cases h
    · cases h
  | receiptDeadline leg =>
    simp only [netStep] at h
    split at h
    · rename_i p hp
      split at h
      · rename_i hphase
        split at h
        · cases h
        · cases h
          refine .stop hp ?_ rfl
          rw [hphase]
          rfl
      · cases h
    · cases h
  | receive leg =>
    simp only [netStep] at h
    split at h
    · rename_i p hp
      split at h
      · rename_i request hphase
        split at h
        · rename_i reply hwire
          cases h
          exact .receive hp hphase hwire
        · cases h
      · cases h
    · cases h
  | transportError leg msg =>
    simp only [netStep] at h
    split at h
    · rename_i p hp
      split at h
      · rename_i request hphase
        cases h
        exact .fail hp hphase
      · cases h
    · cases h
  | timeout leg =>
    simp only [netStep] at h
    split at h
    · rename_i p hp
      -- A timeout cancels a leg that prepares, waits or is due, and finds no other one live.
      have hstop : p.phase.isEnded = false → some (s.setLeg leg
          { p with phase := .cancelled }) = some t → NetMove v s t := by
        intro hlive ht
        cases ht
        exact .stop hp hlive rfl
      split at h
      · rename_i hphase
        exact hstop (by rw [hphase]; rfl) h
      · rename_i hphase
        exact hstop (by rw [hphase]; rfl) h
      · rename_i hphase
        exact hstop (by rw [hphase]; rfl) h
      · cases h
    · cases h
  | serve request reply =>
    simp only [netStep] at h
    split at h
    · rename_i hwire
      obtain ⟨x, hx, rfl⟩ := Option.map_eq_some_iff.mp h
      exact .serve hwire hx
    · cases h
  | hold leg =>
    simp only [netStep] at h
    split at h
    · rename_i hcond
      cases h
      exact .hold hcond.2.1 hcond.2.2
    · cases h
  | lose request =>
    simp only [netStep] at h
    -- What can be lost is on its way, held back, or an answer: it was sent in any case.
    have hlose : s.wire request ≠ .unsent → some (s.setWire request .closed) = some t →
        NetMove v s t := by
      intro hwire ht
      cases ht
      exact .lose hwire
    split at h
    · rename_i hwire
      exact hlose (by rw [hwire]; exact Wire.noConfusion) h
    · rename_i hwire
      exact hlose (by rw [hwire]; exact Wire.noConfusion) h
    · rename_i hwire
      exact hlose (by rw [hwire]; exact Wire.noConfusion) h
    · cases h
  | mine leg status =>
    simp only [netStep] at h
    split at h
    · rename_i htaken
      cases h
      exact .mine htaken
    · rename_i htaken
      cases h
      exact .mine htaken
    · cases h
  | settle leg order =>
    simp only [netStep] at h
    split at h
    · rename_i htaken
      split at h
      · rename_i hwire
        cases h
        exact .report htaken hwire
      · cases h
        exact .settle htaken
    · cases h

/-! ## What a leg does next -/

/-- Where an answer to a request can take its leg. It stays, when an answer comes that it did not
    wait for; it tries the next attempt of the same transaction, which is the only way in which an
    instruction is sent twice; it asks for the receipt; or it has ended. Nothing takes it to a new
    submission of another kind, so an instruction is never replaced. -/
inductive Onward (request : Request) : LegPhase → Prop
  | stay : Onward request (.awaiting request)
  | retry {leg attempt : ℕ} (h : request = .sendRawTransaction leg attempt) :
      Onward request (.due (.sendRawTransaction leg (attempt + 1)))
  | query (poll attempt : ℕ) :
      Onward request (.due (.getTransactionReceipt request.leg poll attempt))
  | ended {phase : LegPhase} (h : phase.isEnded = true) : Onward request phase

/-- After a poll of a bundle comes the next one, for a later block, or the leg has ended. -/
theorem nextBundlePoll_onward {p : LegProcess} {leg poll attempt : ℕ} :
    Onward (.getTransactionReceipt leg poll attempt) (nextBundlePoll p leg poll) := by
  unfold nextBundlePoll
  split
  · exact .query (poll + 1) 0
  · exact .ended rfl

/-- An error is retried while there are attempts left, and otherwise ends the leg. An error of a
    receipt query is swallowed for a bundle, whose next poll then comes instead. -/
theorem onError_onward (v : Venues) (p : LegProcess) (request : Request) (msg : String) :
    Onward request (p.onError v request msg) := by
  cases request with
  | order leg => exact .ended rfl
  | sendRawTransaction leg attempt =>
    simp only [LegProcess.onError]
    split
    · exact .retry rfl
    · exact .ended rfl
  | sendBundle leg => exact .ended rfl
  | getTransactionReceipt leg poll attempt =>
    simp only [LegProcess.onError]
    split
    · exact nextBundlePoll_onward
    · split
      · exact .query poll (attempt + 1)
      · exact .ended rfl

/-- An answer takes the leg onward as well. Refusals are errors to it, a receipt ends it, and an
    order is over with its first answer. -/
theorem onReply_onward (v : Venues) {p : LegProcess} {request : Request} (reply : Reply)
    (hphase : p.phase = .awaiting request) : Onward request (p.onReply v request reply) := by
  have horder : ∀ order, Onward request (LegProcess.onOrder order) := by
    intro order
    unfold LegProcess.onOrder
    split <;> exact .ended rfl
  cases reply with
  | taken => exact .query 0 0
  | refused msg => exact onError_onward v p request msg
  | known msg => exact onError_onward v p request msg
  | receipt status =>
    simp only [LegProcess.onReply, LegProcess.onReceipt]
    split
    · exact .ended rfl
    · split <;> exact .ended rfl
  | noReceipt =>
    simp only [LegProcess.onReply]
    split
    · simp only [LegProcess.onNoReceipt]
      split
      · exact nextBundlePoll_onward
      · exact .query _ 0
    · rw [hphase]
      exact .stay
  | orderAck order => exact horder order
  | orderReport order => exact horder order

/-- What an answer of a party does to what it knows of the instruction. A party that already has
    the instruction leaves it as it is; otherwise it may take it, and then its answer is neither a
    refusal nor final. So a final answer is always about an instruction that is done. -/
theorem served_cases {v : Venues} {st x : Standing} {request : Request} {reply : Reply}
    (h : served v st request reply = some x) :
    (x = st ∧ (reply.isFinal = true → x.isFinal = true)) ∨
      (st = .unknown ∧ x = .taken request ∧ request.submits = true ∧ reply.isFinal = false ∧
        ∀ msg, reply ≠ .refused msg) := by
  -- an answer that changes nothing; it is not final unless the instruction is done
  have hsame : ∀ {P : Prop} [Decidable P], (if P then some st else none) = some x →
      reply.isFinal = false →
      (x = st ∧ (reply.isFinal = true → x.isFinal = true)) := by
    intro P _ h hreply
    split at h
    · cases h
      exact ⟨rfl, fun hfinal => absurd (hreply.symm.trans hfinal) Bool.false_ne_true⟩
    · cases h
  -- an answer that takes the instruction if it is new
  have htaken : ∀ {r : Request}, r.submits = true →
      (if st = .unknown then some (Standing.taken r) else some st) = some x →
      (x = st ∧ (Reply.taken.isFinal = true → x.isFinal = true)) ∨
        (st = .unknown ∧ x = .taken r ∧ r.submits = true ∧ Reply.taken.isFinal = false ∧
          ∀ msg, Reply.taken ≠ .refused msg) := by
    intro r submits h
    split at h
    · rename_i hcond
      cases h
      exact .inr ⟨hcond, rfl, submits, rfl, fun msg => Reply.noConfusion⟩
    · cases h
      exact .inl ⟨rfl, Bool.noConfusion⟩
  unfold served at h
  split at h
  · split at h
    · rename_i hcond
      cases h
      exact .inr ⟨hcond.2, rfl, rfl, rfl, fun msg => Reply.noConfusion⟩
    · cases h
  · exact .inl (hsame h rfl)
  · exact htaken rfl h
  · exact .inl (hsame h rfl)
  · split at h
    · cases h
    · cases h
      exact .inl ⟨rfl, Bool.noConfusion⟩
  · exact htaken rfl h
  · exact .inl (hsame h rfl)
  · split at h
    · rename_i hcond
      cases h
      exact .inl ⟨rfl, fun _ => by rw [hcond]; rfl⟩
    · cases h
  · cases h
    exact .inl ⟨rfl, Bool.noConfusion⟩
  · cases h

end Net
end ArbEngine
