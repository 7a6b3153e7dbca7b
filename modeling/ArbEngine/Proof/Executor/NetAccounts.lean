import ArbEngine.Proof.Executor.NetMoves

/-!
# What can still be executed is on a list

A leg keeps the requests it has had no settling answer to. `Accounted` is the invariant over the
messages in flight: whatever can still bring the instruction of a leg to its execution, be it a
request on the wire or an instruction that its party has taken, is on that list.

A step moves a leg, a message or a party, and most of the invariant is about what it leaves alone.
So there is one lemma for each kind of move, which asks only for what changes: `Accounted.setLeg`,
`Accounted.onward` for a leg that had an answer, `Accounted.world` for everything that is no leg,
and `Accounted.setWire` for one message.

The list has no request too few in any state that can be reached, and only a final answer takes one
off it. From that a leg whose list is empty when it fails has no effect later: nothing in flight
can have one.
-/

namespace ArbEngine
namespace Net

/-! ## The invariant -/

/-- Nothing of this leg has been sent or taken. It is what a leg that has not been started looks
    like from the wire. -/
def Untouched (s : Net) (leg : ℕ) : Prop :=
  (∀ request, request.leg = leg → s.wire request = .unsent) ∧ s.standing leg = .unknown

/-- The request is one its leg has had no settling answer to. -/
def Unanswered (s : Net) (request : Request) : Prop :=
  ∃ p, s.leg request.leg = some p ∧ request ∈ p.unanswered

/-- The attempts after this one have not been sent. A leg sends them one after another, and this is
    what lets it send the next. -/
def LaterUnsent (s : Net) : Request → Prop
  | .sendRawTransaction leg attempt =>
      ∀ a, attempt < a → s.wire (.sendRawTransaction leg a) = .unsent
  | _ => True

/-- A request a leg is about to send: a receipt query, or an attempt not sent before. -/
def Sendable (s : Net) : Request → Prop
  | .sendRawTransaction leg attempt =>
      ∀ a, attempt ≤ a → s.wire (.sendRawTransaction leg a) = .unsent
  | .getTransactionReceipt _ _ _ => True
  | _ => False

/-- The message has reached its party, which has not refused it. -/
def Delivered (w : Wire) : Prop :=
  w ≠ .unsent ∧ w ≠ .outbound ∧ ∀ msg, w ≠ .inbound (.refused msg)

/-- Whatever can still execute an instruction is on the list of its leg. The first four fields say
    where a leg is between two steps, and the last three say what a message in flight, an
    instruction taken and an answer on its way are good for: the request is listed, or its
    instruction has been executed. -/
structure Accounted (s : Net) : Prop where
  absent : ∀ leg, s.leg leg = none → Untouched s leg
  preparing : ∀ leg p, s.leg leg = some p → p.phase = .preparing → Untouched s leg
  awaiting : ∀ leg p request, s.leg leg = some p → p.phase = .awaiting request →
    request.leg = leg ∧ LaterUnsent s request
  due : ∀ leg p request, s.leg leg = some p → p.phase = .due request →
    request.leg = leg ∧ Sendable s request
  outbound : ∀ request, request.submits = true → s.wire request = .outbound →
    Unanswered s request ∨ (s.standing request.leg).isFinal = true
  taken : ∀ leg request, s.standing leg = .taken request →
    request.leg = leg ∧ request.submits = true ∧ Unanswered s request ∧
      Delivered (s.wire request)
  answered : ∀ request reply, s.wire request = .inbound reply → reply.isFinal = true →
    (s.standing request.leg).isFinal = true

/-- Nothing is in flight at the start. -/
theorem accounted_init : init.Accounted where
  absent := by
    intro leg _
    exact ⟨fun _ _ => rfl, rfl⟩
  preparing := by
    intro leg p h
    cases h
  awaiting := by
    intro leg p request h
    cases h
  due := by
    intro leg p request h
    cases h
  outbound := by
    intro request _ h
    cases h
  taken := by
    intro leg request h
    cases h
  answered := by
    intro request reply h
    cases h

/-! ## What a move keeps -/

variable {s t : Net} {leg : ℕ} {p : LegProcess} {request : Request} {w : Wire} {x : Standing}

/-- A leg that is untouched stays so as long as only sent messages move. -/
theorem Untouched.congr (h : Untouched s leg)
    (hwire : ∀ q, q.leg = leg → s.wire q = .unsent → t.wire q = .unsent)
    (hstanding : t.standing leg = s.standing leg) : Untouched t leg := by
  refine ⟨?_, hstanding.trans h.2⟩
  intro q hq
  exact hwire q hq (h.1 q hq)

/-- The same for the attempts that come later; the attempt itself may be sent. -/
theorem LaterUnsent.congr (h : LaterUnsent s request)
    (hwire : ∀ q, q ≠ request → q.leg = request.leg → s.wire q = .unsent → t.wire q = .unsent) :
    LaterUnsent t request := by
  cases request with
  | sendRawTransaction leg attempt =>
    intro a ha
    refine hwire _ ?_ rfl (h a ha)
    intro heq
    cases heq
    exact lt_irrefl _ ha
  | _ => trivial

/-- The same for a request that is due. -/
theorem Sendable.congr (h : Sendable s request)
    (hwire : ∀ q, q.leg = request.leg → s.wire q = .unsent → t.wire q = .unsent) :
    Sendable t request := by
  cases request with
  | sendRawTransaction leg attempt =>
    intro a ha
    exact hwire _ rfl (h a ha)
  | getTransactionReceipt leg poll attempt => trivial
  | order leg => exact h
  | sendBundle leg => exact h

/-- A submission that can be sent has not been sent before. A receipt query has no such claim to
    make: it does nothing on the chain. -/
theorem Sendable.unsent (h : Sendable s request) (hsubmits : request.submits = true) :
    s.wire request = .unsent := by
  cases request with
  | sendRawTransaction leg attempt => exact h attempt (le_refl attempt)
  | getTransactionReceipt leg poll attempt => cases hsubmits
  | order leg => exact h.elim
  | sendBundle leg => exact h.elim

/-- What is awaited once it is sent. -/
theorem Sendable.laterUnsent (h : Sendable s request) : LaterUnsent s request := by
  cases request with
  | sendRawTransaction leg attempt =>
    intro a ha
    exact h a (le_of_lt ha)
  | _ => trivial

/-- What an answer makes due can be sent. -/
theorem Onward.sendable {next : Request} (h : Onward request (.due next))
    (hlater : LaterUnsent s request) : next.leg = request.leg ∧ Sendable s next := by
  cases h with
  | retry heq =>
    subst heq
    exact ⟨rfl, fun a ha => hlater a ha⟩
  | query poll attempt => exact ⟨rfl, trivial⟩
  | ended h => cases h

/-- The list the request is on is that of its own leg. -/
theorem Unanswered.mem (h : Unanswered s request) (hrequest : request.leg = leg)
    (hp : s.leg leg = some p) : request ∈ p.unanswered := by
  obtain ⟨p', hp', hmem⟩ := h
  rw [hrequest, hp] at hp'
  cases hp'
  exact hmem

/-- A leg after a leg was set: the one that was set, or one from before. -/
theorem setLeg_eq_some {l : ℕ} {p' : LegProcess} (h : (s.setLeg leg p).leg l = some p') :
    (l = leg ∧ p' = p) ∨ s.leg l = some p' := by
  by_cases heq : l = leg
  · subst heq
    rw [setLeg_self] at h
    exact .inl ⟨rfl, (Option.some.inj h).symm⟩
  · rw [setLeg_of_ne _ _ heq] at h
    exact .inr h

/-- The same of a message. -/
theorem setWire_eq {q : Request} {w' : Wire} (h : (s.setWire request w).wire q = w') :
    (q = request ∧ w' = w) ∨ (q ≠ request ∧ s.wire q = w') := by
  by_cases heq : q = request
  · subst heq
    rw [setWire_self] at h
    exact .inl ⟨rfl, h.symm⟩
  · rw [setWire_of_ne _ _ heq] at h
    exact .inr ⟨heq, h⟩

/-- The same of an instruction. -/
theorem setStanding_eq {l : ℕ} {y : Standing} (h : (s.setStanding leg x).standing l = y) :
    (l = leg ∧ y = x) ∨ s.standing l = y := by
  by_cases heq : l = leg
  · subst heq
    rw [setStanding_self] at h
    exact .inl ⟨rfl, h.symm⟩
  · rw [setStanding_of_ne _ _ heq] at h
    exact .inr h

theorem setStanding_same : s.setStanding leg (s.standing leg) = s := by
  have hsame : (fun l => if l = leg then s.standing leg else s.standing l) = s.standing := by
    funext l
    split
    · rename_i heq
      rw [heq]
    · rfl
  unfold setStanding
  rw [hsame]

/-- A message that has been sent is none of the unsent ones. -/
theorem unsent_setWire (hsent : s.wire request ≠ .unsent) {q : Request}
    (hq : s.wire q = .unsent) : (s.setWire request w).wire q = .unsent := by
  rw [setWire_of_ne]
  · exact hq
  · intro heq
    rw [heq] at hq
    exact hsent hq

/-- What is done stays done. -/
theorem isFinal_setStanding (hkeeps : (s.standing leg).isFinal = true → x.isFinal = true) {l : ℕ}
    (hl : (s.standing l).isFinal = true) :
    ((s.setStanding leg x).standing l).isFinal = true := by
  by_cases heq : l = leg
  · subst heq
    rw [setStanding_self]
    exact hkeeps hl
  · rw [setStanding_of_ne _ _ heq]
    exact hl

/-- The request can do nothing more: its instruction is done, or its refusal is on the way. -/
def Spent (s : Net) (request : Request) : Prop :=
  (s.standing request.leg).isFinal = true ∨ ∃ msg, s.wire request = .inbound (.refused msg)

/-- A leg moves on; nothing else does. -/
theorem Accounted.setLeg (h : s.Accounted)
    (hkeeps : ∀ q, q.leg = leg → Unanswered s q → q ∈ p.unanswered ∨ Spent s q)
    (hpreparing : p.phase = .preparing → Untouched s leg)
    (hawaiting : ∀ q, p.phase = .awaiting q → q.leg = leg ∧ LaterUnsent s q)
    (hdue : ∀ q, p.phase = .due q → q.leg = leg ∧ Sendable s q) :
    (s.setLeg leg p).Accounted := by
  -- Only requests of this leg can have left a list, and each that did can do nothing more.
  have hunanswered : ∀ q, Unanswered s q → Unanswered (s.setLeg leg p) q ∨ Spent s q := by
    intro q hq
    by_cases heq : q.leg = leg
    · rcases hkeeps q heq hq with hmem | hspent
      · exact .inl ⟨p, by rw [heq, setLeg_self], hmem⟩
      · exact .inr hspent
    · obtain ⟨p₀, hp₀, hmem⟩ := hq
      exact .inl ⟨p₀, (setLeg_of_ne _ _ heq).trans hp₀, hmem⟩
  refine ⟨?_, ?_, ?_, ?_, ?_, ?_, h.answered⟩
  · intro l hl
    by_cases heq : l = leg
    · rw [heq, setLeg_self] at hl
      cases hl
    · rw [setLeg_of_ne _ _ heq] at hl
      exact h.absent l hl
  · intro l p' hl hphase
    rcases setLeg_eq_some hl with ⟨rfl, rfl⟩ | hl
    · exact hpreparing hphase
    · exact h.preparing l p' hl hphase
  · intro l p' q hl hphase
    rcases setLeg_eq_some hl with ⟨rfl, rfl⟩ | hl
    · exact hawaiting q hphase
    · exact h.awaiting l p' q hl hphase
  · intro l p' q hl hphase
    rcases setLeg_eq_some hl with ⟨rfl, rfl⟩ | hl
    · exact hdue q hphase
    · exact h.due l p' q hl hphase
  · intro q hq hout
    rcases h.outbound q hq hout with hun | hfinal
    · rcases hunanswered q hun with hun | hfinal | ⟨msg, hrefused⟩
      · exact .inl hun
      · exact .inr hfinal
      · rw [show s.wire q = .outbound from hout] at hrefused
        cases hrefused
    · exact .inr hfinal
  · intro l q hl
    obtain ⟨hqleg, hsub, hun, hwire⟩ := h.taken l q hl
    refine ⟨hqleg, hsub, ?_, hwire⟩
    rcases hunanswered q hun with hun | hfinal | ⟨msg, hrefused⟩
    · exact hun
    · rw [hqleg, show s.standing l = .taken q from hl] at hfinal
      cases hfinal
    · exact absurd hrefused (hwire.2.2 msg)

/-- A leg that awaited an answer moves on to where an answer can take it. -/
theorem Accounted.onward {p₀ : LegProcess} (h : s.Accounted) (hp : s.leg leg = some p₀)
    (hphase : p₀.phase = .awaiting request) (honward : Onward request p.phase)
    (hkeeps : ∀ q, q.leg = leg → Unanswered s q → q ∈ p.unanswered ∨ Spent s q) :
    (s.setLeg leg p).Accounted := by
  obtain ⟨hrequest, hlater⟩ := h.awaiting leg p₀ request hp hphase
  refine h.setLeg hkeeps ?_ ?_ ?_
  · intro hprep
    rw [hprep] at honward
    cases honward with
    | ended hended => cases hended
  · intro q hq
    rw [hq] at honward
    cases honward with
    | stay => exact ⟨hrequest, hlater⟩
    | ended hended => cases hended
  · intro q hq
    rw [hq] at honward
    obtain ⟨hqleg, hsendable⟩ := honward.sendable hlater
    exact ⟨hqleg.trans hrequest, hsendable⟩

/-- Something else than a leg moves. -/
theorem Accounted.world (h : s.Accounted) (hleg : t.leg = s.leg)
    (hwire : ∀ q, s.wire q = .unsent → t.wire q = .unsent)
    (hunknown : ∀ l, Untouched s l → t.standing l = .unknown)
    (houtbound : ∀ q, q.submits = true → t.wire q = .outbound →
      Unanswered s q ∨ (t.standing q.leg).isFinal = true)
    (htaken : ∀ l q, t.standing l = .taken q →
      q.leg = l ∧ q.submits = true ∧ Unanswered s q ∧ Delivered (t.wire q))
    (hanswered : ∀ q reply, t.wire q = .inbound reply → reply.isFinal = true →
      (t.standing q.leg).isFinal = true) : t.Accounted := by
  -- The fields about the legs hold because an untouched leg stays untouched; the three about the
  -- messages are what is asked for.
  have huntouched : ∀ l, Untouched s l → Untouched t l := by
    intro l hl
    exact hl.congr (fun q _ hq => hwire q hq) ((hunknown l hl).trans hl.2.symm)
  have hun : ∀ q, Unanswered s q → Unanswered t q := by
    intro q hq
    unfold Unanswered
    rw [hleg]
    exact hq
  refine ⟨?_, ?_, ?_, ?_, ?_, ?_, hanswered⟩
  · intro l hl
    rw [hleg] at hl
    exact huntouched l (h.absent l hl)
  · intro l p hl hphase
    rw [hleg] at hl
    exact huntouched l (h.preparing l p hl hphase)
  · intro l p q hl hphase
    rw [hleg] at hl
    obtain ⟨hqleg, hlater⟩ := h.awaiting l p q hl hphase
    exact ⟨hqleg, hlater.congr (fun q' _ _ hq' => hwire q' hq')⟩
  · intro l p q hl hphase
    rw [hleg] at hl
    obtain ⟨hqleg, hsendable⟩ := h.due l p q hl hphase
    exact ⟨hqleg, hsendable.congr (fun q' _ hq' => hwire q' hq')⟩
  · intro q hq hout
    rcases houtbound q hq hout with hqun | hfinal
    · exact .inl (hun q hqun)
    · exact .inr hfinal
  · intro l q hl
    obtain ⟨hqleg, hsub, hqun, hq⟩ := htaken l q hl
    exact ⟨hqleg, hsub, hun q hqun, hq⟩

/-- A message that was sent moves, and is not sent again. -/
theorem Accounted.setWire (h : s.Accounted) (hsent : s.wire request ≠ .unsent)
    (hout : w ≠ .outbound)
    (htaken : s.standing request.leg = .taken request → Delivered w)
    (hanswered : ∀ reply, w = .inbound reply → reply.isFinal = true →
      (s.standing request.leg).isFinal = true) :
    (s.setWire request w).Accounted := by
  refine h.world rfl (fun _ => unsent_setWire hsent) (fun _ hl => hl.2) ?_ ?_ ?_
  · intro q hq hq'
    rcases setWire_eq hq' with ⟨_, hw⟩ | ⟨_, hq'⟩
    · exact absurd hw.symm hout
    · exact h.outbound q hq hq'
  · intro l q hl
    obtain ⟨hqleg, hsub, hun, hwire⟩ := h.taken l q hl
    refine ⟨hqleg, hsub, hun, ?_⟩
    by_cases heq : q = request
    · subst heq
      rw [setWire_self]
      exact htaken (hqleg ▸ hl)
    · rw [setWire_of_ne _ _ heq]
      exact hwire
  · intro q reply hq hreply
    rcases setWire_eq hq with ⟨rfl, hw⟩ | ⟨_, hq⟩
    · exact hanswered reply hw.symm hreply
    · exact h.answered q reply hq hreply

end Net
end ArbEngine
