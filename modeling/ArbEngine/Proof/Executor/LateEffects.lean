import ArbEngine.Proof.Executor.NetRuns

/-!
# What a failed leg can still do

A leg that gives up does not take its instruction back: there is no cancellation and no
replacement. So the question is what a leg knows about its instruction when it fails. Whatever can
still execute it is on the list of requests without a settling answer (`Accounted`), and that list
does not change once the leg has ended. A leg that failed with nothing on it has no later effect,
whatever the messages in flight and the parties do (`answered_failure_has_no_late_effect`); one
that gave up on an unanswered request can have one.
-/

namespace ArbEngine
namespace Net

variable {s t : Net} {leg : ℕ} {p : LegProcess} {request : Request} {w : Wire} {x : Standing}

/-! ## After a failure -/

/-- The leg returned `success = false` or was cancelled. -/
def Failed (s : Net) (leg : ℕ) : Prop := ∃ p, s.leg leg = some p ∧ p.Failed

/-- Every request that carried the instruction of the leg got a settling answer. A timeout gives
    none, and neither does a lost reply: the leg comes back in both cases, with the request still
    listed. -/
def Answered (s : Net) (leg : ℕ) : Prop := ∃ p, s.leg leg = some p ∧ p.unanswered = []

/-- The transaction of the leg is in a block, or its order has filled something. A reverted
    transaction counts too: it has used the nonce and paid for its gas, and nothing else will come
    of it. -/
def Executed (s : Net) (leg : ℕ) : Prop :=
  (∃ status, s.standing leg = .included status) ∨
    ∃ order, s.standing leg = .settled order ∧ order.amountFilled.raw ≠ 0

/-- Between two states the instruction of the leg was executed. -/
def LateEffect (s t : Net) (leg : ℕ) : Prop := ¬ Executed s leg ∧ Executed t leg

/-- A leg that has come back, with nothing unanswered, and what has become of its instruction. All
    three are kept by every later step: nobody sends for a leg that has ended, and nobody can
    execute what no message and no party has. -/
structure AtRest (leg : ℕ) (x : Standing) (s : Net) : Prop where
  accounted : s.Accounted
  finished : ∃ p, s.leg leg = some p ∧ p.phase.isEnded = true ∧ p.unanswered = []
  standing : s.standing leg = x

theorem isEnded_of_failed (h : p.Failed) : p.phase.isEnded = true := by
  rcases h with hphase | ⟨result, hphase, _⟩
  · rw [hphase]
    rfl
  · rw [hphase]
    rfl

theorem AtRest.not_unanswered (h : AtRest leg x s) (hrequest : request.leg = leg) :
    ¬ Unanswered s request := by
  intro hun
  obtain ⟨p, hp, _, hnil⟩ := h.finished
  have hmem := hun.mem hrequest hp
  rw [hnil] at hmem
  cases hmem

/-- What is taken is not of a leg at rest. -/
theorem AtRest.ne_of_taken (h : AtRest leg x s) {l : ℕ} (htaken : s.standing l = .taken request) :
    leg ≠ l := by
  intro heq
  obtain ⟨hqleg, _, hun, _⟩ := h.accounted.taken l request htaken
  exact h.not_unanswered (hqleg.trans heq.symm) hun

/-- An instruction nobody has, with a request on its way, is not of a leg at rest. -/
theorem AtRest.ne_of_outbound (h : AtRest leg x s) (hsub : request.submits = true)
    (hout : s.wire request = .outbound) (hunknown : s.standing request.leg = .unknown) :
    leg ≠ request.leg := by
  intro heq
  rcases h.accounted.outbound request hsub hout with hun | hfinal
  · exact h.not_unanswered heq.symm hun
  · rw [hunknown] at hfinal
    cases hfinal

/-- A leg that is still going is another leg. -/
theorem AtRest.ne_of_live (h : AtRest leg x s) {l : ℕ} (hl : s.leg l = some p)
    (hlive : p.phase.isEnded = false) : leg ≠ l := by
  intro heq
  obtain ⟨p', hp', hended, _⟩ := h.finished
  rw [← heq, hp'] at hl
  cases hl
  rw [hlive] at hended
  cases hended

theorem netStep_leg_atRest {v : Venues} {a : NetAction} (h : AtRest leg x s)
    (hstep : netStep v s a = some t) : t.leg leg = s.leg leg := by
  cases netStep_moves hstep with
  | @start l p' hl _ =>
    refine setLeg_of_ne s p' ?_
    intro heq
    obtain ⟨p, hp, _⟩ := h.finished
    rw [← heq, hp] at hl
    cases hl
  | stop hl hlive _ => exact setLeg_of_ne s _ (h.ne_of_live hl hlive)
  | fail hl hphase => exact setLeg_of_ne s _ (h.ne_of_live hl (by rw [hphase]; rfl))
  | submit hl hphase => exact setLeg_of_ne s _ (h.ne_of_live hl (by rw [hphase]; rfl))
  | wake hl hphase => exact setLeg_of_ne s _ (h.ne_of_live hl (by rw [hphase]; rfl))
  | receive hl hphase _ => exact setLeg_of_ne s _ (h.ne_of_live hl (by rw [hphase]; rfl))
  | _ => rfl

theorem netStep_standing_atRest {v : Venues} {a : NetAction} (h : AtRest leg x s)
    (hstep : netStep v s a = some t) : t.standing leg = s.standing leg := by
  cases netStep_moves hstep with
  | @serve request reply y hwire hy =>
    rcases served_cases hy with ⟨rfl, _⟩ | ⟨hunknown, _, hsub, _⟩
    · rw [setStanding_same]
      rfl
    · exact setStanding_of_ne s y (h.ne_of_outbound hsub hwire hunknown)
  | @hold l hwire hunknown => exact setStanding_of_ne s _ (h.ne_of_outbound rfl hwire hunknown)
  | mine htaken => exact setStanding_of_ne s _ (h.ne_of_taken htaken)
  | settle htaken => exact setStanding_of_ne s _ (h.ne_of_taken htaken)
  | report htaken _ => exact setStanding_of_ne s _ (h.ne_of_taken htaken)
  | _ => rfl

/-- A leg that has come back moves no more, and what it left at rest stays at rest: a step that
    touches a leg or a standing touches another one (`ne_of_live`, `ne_of_taken`,
    `ne_of_outbound`). -/
theorem netStep_atRest {v : Venues} {a : NetAction} (h : AtRest leg x s)
    (hstep : netStep v s a = some t) : AtRest leg x t := by
  obtain ⟨p, hp, hended, hnil⟩ := h.finished
  refine ⟨netStep_accounted h.accounted hstep, ⟨p, ?_, hended, hnil⟩, ?_⟩
  · rw [netStep_leg_atRest h hstep, hp]
  · rw [netStep_standing_atRest h hstep, h.standing]

/-- **A leg that failed with every submission answered has no later effect.** The first run is any
    run, with any number of other legs and any losses; the second is any continuation of it. What
    makes the difference to a leg that merely failed is the account: it was true when the leg came
    back, and says that nothing was left in flight. -/
theorem answered_failure_has_no_late_effect {v : Venues} {is js : List NetAction} {u : Net}
    (run : Run (netStep v) init is t) (hfailed : Failed t leg) (hanswered : Answered t leg)
    (later : Run (netStep v) t js u) : ¬ LateEffect t u leg := by
  obtain ⟨p, hp, hfail⟩ := hfailed
  obtain ⟨p', hp', hnil⟩ := hanswered
  rw [hp, Option.some.injEq] at hp'
  -- The standing is fixed at what it is now, so the later run is one induction.
  have hrest : AtRest leg (t.standing leg) t :=
    ⟨run_accounted run, ⟨p, hp, isEnded_of_failed hfail, hp' ▸ hnil⟩, rfl⟩
  have hstanding : u.standing leg = t.standing leg :=
    (later.invariant (fun h _ hstep => netStep_atRest h hstep) hrest).standing
  intro hlate
  obtain ⟨hnot, hexecuted⟩ := hlate
  unfold Executed at hnot hexecuted
  rw [hstanding] at hexecuted
  exact hnot hexecuted

/-- A failed leg fails the call, be it the first leg or, after one that was taken, the second. So
    `Failed` above is about the legs of calls that end in `FAILED`, which is the state the journal
    shows. -/
theorem execute_failed_of_failed_leg {ex : Executor} {clock : ExecClock} {legs : Legs}
    {signal : Signal} (hp : p.Failed)
    (hreply : firstReply legs signal = p.answer ∨
      ∃ leg1, firstReply legs signal = some leg1 ∧
        secondReply legs signal leg1.filled = p.answer) :
    (ex.execute clock legs signal).1.state = .failed := by
  -- whatever a failed leg answers is no success
  have hanswer : ∀ result, p.answer = some result → result.success = false := by
    intro result hresult
    unfold LegProcess.answer at hresult
    rcases hp with hphase | ⟨result', hphase, hfailed⟩
    · rw [hphase] at hresult
      cases hresult
    · rw [hphase, Option.some.injEq] at hresult
      rw [← hresult]
      exact hfailed
  rcases execute_cases ex clock legs signal with ⟨_, hstate, _⟩ | ⟨_, path, _, hend⟩
  · exact hstate
  · rcases hend.done_or_failed with
      ⟨leg1, leg2, h, yes, h2, yes2, _⟩ | ⟨hfailed, _⟩
    · rcases hreply with hfirst | ⟨leg1', hfirst, hsecond⟩
      · rw [h] at hfirst
        have hsucc := yes.1
        rw [hanswer leg1 hfirst.symm] at hsucc
        cases hsucc
      · rw [h] at hfirst
        cases hfirst
        rw [h2] at hsecond
        rw [hanswer leg2 hsecond.symm] at yes2
        cases yes2
    · exact hfailed

def sampleVenues : Venues where
  exchangeType := .binance
  txHash := fun _ => "0xaa"
  debug := fun _ => "RpcError"

def sampleOrder : OrderResult where
  id := "7"
  amountFilled := { raw := 100000000, decimals := 8, symbol := none }
  avgFillPrice := 2000
  status := "filled"

/-- A reverted swap: the receipt says so, and a later leg changes nothing about it. -/
theorem sample_reverted_swap_no_late_effect :
    ∃ t u, Run (netStep sampleVenues) init
        [.start 0 .mempool (sampleSignal .buyDexSellCex) 1, .submit 0 0,
          .serve (.sendRawTransaction 0 0) .taken, .receive 0, .wake 0, .mine 0 false,
          .serve (.getTransactionReceipt 0 0 0) (.receipt false), .receive 0] t ∧
      Run (netStep sampleVenues) t [.start 1 .cex (sampleSignal .buyDexSellCex) 1] u ∧
      ¬ LateEffect t u 0 := by
  have run : ∃ t, Run (netStep sampleVenues) init
        [.start 0 .mempool (sampleSignal .buyDexSellCex) 1, .submit 0 0,
          .serve (.sendRawTransaction 0 0) .taken, .receive 0, .wake 0, .mine 0 false,
          .serve (.getTransactionReceipt 0 0 0) (.receipt false), .receive 0] t ∧
      Failed t 0 ∧ Answered t 0 ∧ t.leg 1 = none :=
    ⟨_, Run.of_foldlM rfl, ⟨_, rfl, .inr ⟨_, rfl, rfl⟩⟩, ⟨_, rfl, rfl⟩, rfl⟩
  obtain ⟨t, hrun, hfailed, hanswered, hnone⟩ := run
  have later : Run (netStep sampleVenues) t [.start 1 .cex (sampleSignal .buyDexSellCex) 1] _ :=
    .single trivial (by simp only [netStep, hnone]; rfl)
  exact ⟨t, _, hrun, later, answered_failure_has_no_late_effect hrun hfailed hanswered later⟩

/-- Two instructions that their legs gave up on. A lost reply, an `already known` for the retry,
    and the swap is mined after the leg gave up; a timeout with an order on its way, and the order
    fills. -/
theorem sample_abandoned_instructions_late_effect :
    ∃ t u, Run (netStep sampleVenues) init
        [.start 0 .mempool (sampleSignal .buyDexSellCex) 1, .submit 0 0,
          .serve (.sendRawTransaction 0 0) .taken, .transportError 0 "503", .wake 0,
          .serve (.sendRawTransaction 0 1) (.known "already known"), .receive 0,
          .start 1 .cex (sampleSignal .buyCexSellDex) 1, .submit 1 0, .timeout 1] t ∧
      Failed t 0 ∧ Failed t 1 ∧
      Run (netStep sampleVenues) t [.mine 0 true, .hold 1, .settle 1 sampleOrder] u ∧
      LateEffect t u 0 ∧ LateEffect t u 1 := by
  have run : ∃ t, Run (netStep sampleVenues) init
        [.start 0 .mempool (sampleSignal .buyDexSellCex) 1, .submit 0 0,
          .serve (.sendRawTransaction 0 0) .taken, .transportError 0 "503", .wake 0,
          .serve (.sendRawTransaction 0 1) (.known "already known"), .receive 0,
          .start 1 .cex (sampleSignal .buyCexSellDex) 1, .submit 1 0, .timeout 1] t ∧
      Failed t 0 ∧ Failed t 1 ∧ t.standing 0 = .taken (.sendRawTransaction 0 0) ∧
      t.standing 1 = .unknown ∧ t.wire (.order 1) = .outbound :=
    ⟨_, Run.of_foldlM rfl, ⟨_, rfl, .inr ⟨_, rfl, rfl⟩⟩, ⟨_, rfl, .inl rfl⟩, rfl, rfl, rfl⟩
  obtain ⟨t, hrun, hfailed, hcancelled, htaken, hunknown, hout⟩ := run
  have hmine : netStep sampleVenues t (.mine 0 true) =
      some (t.setStanding 0 (.included true)) := by
    simp only [netStep, htaken]
  have hunknown' : (t.setStanding 0 (.included true)).standing 1 = .unknown := hunknown
  have hout' : (t.setStanding 0 (.included true)).wire (.order 1) = .outbound := hout
  have hhold : netStep sampleVenues (t.setStanding 0 (.included true)) (.hold 1) =
      some (((t.setStanding 0 (.included true)).setStanding 1 (.taken (.order 1))).setWire
        (.order 1) .held) :=
    if_pos ⟨rfl, hout', hunknown'⟩
  -- a block takes up the swap, and the exchange holds the order and fills it
  have later := GuardedRun.cons (G := fun _ _ => True) trivial hmine
    (.cons trivial hhold (.single (i := .settle 1 sampleOrder) trivial rfl))
  refine ⟨t, _, hrun, hfailed, hcancelled, later, ⟨?_, .inl ⟨true, rfl⟩⟩, ?_,
    .inr ⟨sampleOrder, rfl, by decide⟩⟩
  · intro h
    rcases h with ⟨status, hst⟩ | ⟨order, hst, _⟩
    · rw [htaken] at hst
      cases hst
    · rw [htaken] at hst
      cases hst
  · intro h
    rcases h with ⟨status, hst⟩ | ⟨order, hst, _⟩
    · rw [hunknown] at hst
      cases hst
    · rw [hunknown] at hst
      cases hst

end Net
end ArbEngine
