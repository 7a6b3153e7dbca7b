import ArbEngine.Proof.Executor.NetAccounts

/-!
# Every run keeps its accounts

Each move of `NetMove` keeps the invariant `Accounted`, and so every run does
(`run_accounted`). The two moves that matter are the ones that could lose track of an instruction:
a request goes out only after it was put on the list of its leg (`Accounted.send`), and it comes
off the list only with an answer after which its party can no longer execute it
(`Accounted.receive`).
-/

namespace ArbEngine
namespace Net

variable {s t : Net} {leg : ℕ} {p : LegProcess} {request : Request} {w : Wire} {x : Standing}

/-! ## Every step keeps the invariant -/

theorem delivered_closed : Delivered .closed :=
  ⟨Wire.noConfusion, Wire.noConfusion, fun _ => Wire.noConfusion⟩

theorem delivered_held : Delivered .held :=
  ⟨Wire.noConfusion, Wire.noConfusion, fun _ => Wire.noConfusion⟩

theorem delivered_inbound {reply : Reply} (h : ∀ msg, reply ≠ .refused msg) :
    Delivered (.inbound reply) := by
  refine ⟨Wire.noConfusion, Wire.noConfusion, ?_⟩
  intro msg hmsg
  exact h msg (Wire.inbound.inj hmsg)

/-- A message is lost, or read. -/
theorem Accounted.close (h : s.Accounted) (hsent : s.wire request ≠ .unsent) :
    (s.setWire request .closed).Accounted :=
  h.setWire hsent Wire.noConfusion (fun _ => delivered_closed) (fun _ => Wire.noConfusion)

/-- The request a leg awaits is put on the wire. If it carries the instruction it has to be on the
    list already, and must not have been sent before: a second copy of a message would be another
    way to the execution that the list does not show. -/
theorem Accounted.sent (h : s.Accounted) (hp : s.leg leg = some p)
    (hphase : p.phase = .awaiting request)
    (hlisted : request.submits = true → request ∈ p.unanswered)
    (hfresh : request.submits = true → s.wire request = .unsent) :
    (s.setWire request .outbound).Accounted := by
  obtain ⟨hrequest, hlater⟩ := h.awaiting leg p request hp hphase
  -- no other leg has anything to do with this message
  have hne : ∀ l q, q.leg = l → l ≠ leg → q ≠ request := by
    intro l q hq hl heq
    rw [heq, hrequest] at hq
    exact hl hq.symm
  have huntouched : ∀ l, l ≠ leg → Untouched s l → Untouched (s.setWire request .outbound) l := by
    intro l hl hun
    exact hun.congr (fun q hq hunsent => (setWire_of_ne _ _ (hne l q hq hl)).trans hunsent) rfl
  refine ⟨?_, ?_, ?_, ?_, ?_, ?_, ?_⟩
  · intro l hl
    refine huntouched l ?_ (h.absent l hl)
    intro heq
    rw [setWire_leg, heq, hp] at hl
    cases hl
  · intro l p' hl hprep
    refine huntouched l ?_ (h.preparing l p' hl hprep)
    intro heq
    rw [setWire_leg, heq, hp] at hl
    cases hl
    rw [hphase] at hprep
    cases hprep
  · intro l p' q hl hawait
    obtain ⟨hqleg, hq⟩ := h.awaiting l p' q hl hawait
    refine ⟨hqleg, hq.congr ?_⟩
    intro q' hq' hq'leg hunsent
    rw [setWire_of_ne]
    · exact hunsent
    · by_cases heq : l = leg
      · rw [setWire_leg, heq, hp] at hl
        cases hl
        rw [hphase] at hawait
        cases hawait
        exact hq'
      · exact hne l q' (hq'leg.trans hqleg) heq
  · intro l p' q hl hdue
    obtain ⟨hqleg, hq⟩ := h.due l p' q hl hdue
    refine ⟨hqleg, hq.congr ?_⟩
    intro q' hq'leg hunsent
    rw [setWire_of_ne]
    · exact hunsent
    · refine hne l q' (hq'leg.trans hqleg) ?_
      intro heq
      rw [setWire_leg, heq, hp] at hl
      cases hl
      rw [hphase] at hdue
      cases hdue
  · intro q hq hout
    rcases setWire_eq hout with ⟨rfl, _⟩ | ⟨_, hout⟩
    · exact .inl ⟨p, by rw [setWire_leg, hrequest, hp], hlisted hq⟩
    · exact h.outbound q hq hout
  · -- an instruction that was taken came with another message: this one had not been sent
    intro l q hl
    obtain ⟨hqleg, hsub, hun, hwire⟩ := h.taken l q hl
    refine ⟨hqleg, hsub, hun, ?_⟩
    rw [setWire_of_ne]
    · exact hwire
    · intro heq
      subst heq
      exact hwire.1 (hfresh hsub)
  · intro q reply hq hreply
    rcases setWire_eq hq with ⟨_, hw⟩ | ⟨_, hq⟩
    · cases hw
    · exact h.answered q reply hq hreply

/-- A leg sends a request it has not sent before. -/
theorem Accounted.send {p₀ : LegProcess} (h : s.Accounted) (hp : s.leg leg = some p₀)
    (hkeeps : p.unanswered = p₀.unanswered) (hrequest : request.leg = leg)
    (hfresh : request.submits = true → s.wire request = .unsent)
    (hlater : LaterUnsent s request) : (s.send leg p request).Accounted := by
  refine Accounted.sent (h.setLeg ?_ ?_ ?_ ?_) (setLeg_self _ _ _) rfl ?_ hfresh
  · intro q hq hun
    have hmem := hun.mem hq hp
    left
    rw [hkeeps]
    split
    · exact List.mem_cons_of_mem _ hmem
    · exact hmem
  · intro hphase
    cases hphase
  · intro q hphase
    cases hphase
    exact ⟨hrequest, hlater⟩
  · intro q hphase
    cases hphase
  · intro hsub
    rw [if_pos hsub]
    exact List.mem_cons_self

/-- A reply takes a request off the list only where the request can do nothing more. There are two
    such replies: one that is final, which means that the instruction is done, and a refusal, which
    takes off the refused request and leaves the others. -/
theorem mem_settle_or (reply : Reply) (request : Request) {q : Request} {l : List Request}
    (hq : q ∈ l) :
    q ∈ reply.settle request l ∨ reply.isFinal = true ∨
      (q = request ∧ ∃ msg, reply = .refused msg) := by
  cases reply with
  | refused msg =>
    by_cases heq : q = request
    · exact .inr (.inr ⟨heq, msg, rfl⟩)
    · exact .inl (List.mem_filter.mpr ⟨hq, decide_eq_true heq⟩)
  | receipt status => exact .inr (.inl rfl)
  | orderReport order => exact .inr (.inl rfl)
  | taken => exact .inl hq
  | known msg => exact .inl hq
  | noReceipt => exact .inl hq
  | orderAck order => exact .inl hq

/-- A leg takes its reply off the wire. What the reply takes off the list is spent
    (`mem_settle_or`), so nothing that can still execute the instruction is forgotten with it. -/
theorem Accounted.receive {v : Venues} {reply : Reply} (h : s.Accounted)
    (hp : s.leg leg = some p) (hphase : p.phase = .awaiting request)
    (hreply : s.wire request = .inbound reply) :
    ((s.setLeg leg
        { p with phase := p.onReply v request reply
                 unanswered := reply.settle request p.unanswered }).setWire
      request .closed).Accounted := by
  obtain ⟨hrequest, _⟩ := h.awaiting leg p request hp hphase
  refine (h.onward hp hphase (onReply_onward v reply hphase) ?_).close ?_
  · intro q hq hun
    -- still listed, done, or refused: in the last case the refusal is the message that is read
    -- here
    rcases mem_settle_or reply request (hun.mem hq hp) with hin | hfinal | ⟨rfl, msg, rfl⟩
    · exact .inl hin
    · refine .inr (.inl ?_)
      rw [hq, ← hrequest]
      exact h.answered request reply hreply hfinal
    · exact .inr (.inr ⟨msg, hreply⟩)
  · rw [setLeg_wire, hreply]
    exact Wire.noConfusion

/-- A party takes the instruction of a request that was on its way. From here on it is the party
    that can execute it and not the message, which is why the request has to stay on the list after
    it is delivered. -/
theorem Accounted.take (h : s.Accounted) (hout : s.wire request = .outbound)
    (hsub : request.submits = true) (hunknown : s.standing request.leg = .unknown)
    (hw : Delivered w) (hnot : ∀ reply, w = .inbound reply → reply.isFinal = false) :
    ((s.setStanding request.leg (.taken request)).setWire request w).Accounted := by
  have hsent : s.wire request ≠ .unsent := by
    rw [hout]
    exact Wire.noConfusion
  -- the instruction is not done yet, so its request must be on the list
  have hun : Unanswered s request := by
    rcases h.outbound request hsub hout with hun | hfinal
    · exact hun
    · rw [hunknown] at hfinal
      cases hfinal
  have hkeeps : (s.standing request.leg).isFinal = true →
      (Standing.taken request).isFinal = true := by
    intro hfinal
    rw [hunknown] at hfinal
    cases hfinal
  refine h.world rfl (fun _ => unsent_setWire hsent) ?_ ?_ ?_ ?_
  · intro l hl
    rw [setWire_standing, setStanding_of_ne]
    · exact hl.2
    · intro heq
      exact hsent (hl.1 request heq.symm)
  · intro q hq hq'
    rcases setWire_eq hq' with ⟨_, hw'⟩ | ⟨_, hq'⟩
    · exact absurd hw'.symm hw.2.1
    · rcases h.outbound q hq hq' with hqun | hfinal
      · exact .inl hqun
      · exact .inr (isFinal_setStanding hkeeps hfinal)
  · intro l q hl
    rcases setStanding_eq hl with ⟨rfl, hq⟩ | hl
    · cases hq
      rw [setWire_self]
      exact ⟨rfl, hsub, hun, hw⟩
    · obtain ⟨hqleg, hqsub, hqun, hwire⟩ := h.taken l q hl
      rw [setWire_of_ne]
      · exact ⟨hqleg, hqsub, hqun, hwire⟩
      · intro heq
        subst heq
        exact hwire.2.1 hout
  · intro q reply hq hreply
    rcases setWire_eq hq with ⟨_, hw'⟩ | ⟨_, hq⟩
    · rw [hnot reply hw'.symm] at hreply
      cases hreply
    · exact isFinal_setStanding hkeeps (h.answered q reply hq hreply)

/-- A party answers a request. -/
theorem Accounted.serve {v : Venues} {reply : Reply} (h : s.Accounted)
    (hout : s.wire request = .outbound)
    (hx : served v (s.standing request.leg) request reply = some x) :
    ((s.setStanding request.leg x).setWire request (.inbound reply)).Accounted := by
  rcases served_cases hx with ⟨rfl, hfinal⟩ | ⟨hunknown, rfl, hsub, hnot, hrefused⟩
  · rw [setStanding_same]
    refine h.setWire ?_ Wire.noConfusion ?_ ?_
    · rw [hout]
      exact Wire.noConfusion
    · intro htaken
      obtain ⟨_, _, _, hwire⟩ := h.taken _ _ htaken
      exact absurd hout hwire.2.1
    · intro reply' hreply' hdone
      cases hreply'
      exact hfinal hdone
  · refine h.take hout hsub hunknown (delivered_inbound hrefused) ?_
    intro reply' hreply'
    cases hreply'
    exact hnot

/-- An instruction that has been taken is done. -/
theorem Accounted.done (h : s.Accounted) (htaken : s.standing leg = .taken request)
    (hx : x.isFinal = true) : (s.setStanding leg x).Accounted := by
  refine h.world rfl (fun _ hq => hq) ?_ ?_ ?_ ?_
  · intro l hl
    rw [setStanding_of_ne]
    · exact hl.2
    · intro heq
      have hunknown := hl.2
      rw [heq, htaken] at hunknown
      cases hunknown
  · intro q hq hout
    rcases h.outbound q hq hout with hun | hst
    · exact .inl hun
    · exact .inr (isFinal_setStanding (fun _ => hx) hst)
  · intro l q hl
    rcases setStanding_eq hl with ⟨_, hq⟩ | hl
    · rw [← hq] at hx
      cases hx
    · exact h.taken l q hl
  · intro q reply hq hreply
    exact isFinal_setStanding (fun _ => hx) (h.answered q reply hq hreply)

/-- The exchange reports an order that is done. -/
theorem Accounted.report {order : OrderResult} (h : s.Accounted)
    (hheld : s.wire (.order leg) = .held) (hdone : (s.standing leg).isFinal = true) :
    (s.setWire (.order leg) (.inbound (.orderReport order))).Accounted := by
  refine h.setWire ?_ Wire.noConfusion ?_ (fun _ _ _ => hdone)
  · rw [hheld]
    exact Wire.noConfusion
  · intro _
    exact delivered_inbound (fun _ => Reply.noConfusion)

/-- **Every step of every party keeps the account.** The cases are those of `NetMove`; a step of a
    leg is `setLeg` or `onward`, a step of a venue is `take`, `serve` or `done`, and a message that
    is lost is closed, which can only make less happen. -/
theorem netStep_accounted {v : Venues} {a : NetAction} (h : s.Accounted)
    (hstep : netStep v s a = some t) : t.Accounted := by
  cases netStep_moves hstep with
  | @start leg p hnone hphase =>
    refine h.setLeg ?_ (fun _ => h.absent leg hnone) ?_ ?_
    · -- a leg that had not been started has no list
      intro q hq hun
      obtain ⟨p₀, hp₀, _⟩ := hun
      rw [hq, hnone] at hp₀
      cases hp₀
    · intro q hq
      rw [hphase] at hq
      cases hq
    · intro q hq
      rw [hphase] at hq
      cases hq
  | @stop leg p phase hp hlive hphase =>
    refine h.setLeg ?_ ?_ ?_ ?_
    · intro q hq hun
      have hmem := hun.mem hq hp
      exact .inl hmem
    · intro hprep
      rw [show phase = .preparing from hprep] at hphase
      cases hphase
    · intro q hq
      rw [show phase = .awaiting q from hq] at hphase
      cases hphase
    · intro q hq
      rw [show phase = .due q from hq] at hphase
      cases hphase
  | @fail leg p request msg hp hphase =>
    refine h.onward hp hphase (onError_onward v p request msg) ?_
    intro q hq hun
    have hmem := hun.mem hq hp
    exact .inl hmem
  | @submit leg targetBlock p hp hphase =>
    obtain ⟨hunsent, _⟩ := h.preparing leg p hp hphase
    have hrequest : (firstRequest leg p.route).leg = leg := by
      cases p.route <;> rfl
    refine h.send hp rfl hrequest (fun _ => hunsent _ hrequest) ?_
    cases p.route with
    | mempool =>
      intro a _
      exact hunsent _ rfl
    | cex => trivial
    | bundle => trivial
  | wake hp hphase =>
    obtain ⟨hrequest, hsendable⟩ := h.due _ _ _ hp hphase
    exact h.send hp rfl hrequest hsendable.unsent hsendable.laterUnsent
  | receive hp hphase hwire => exact h.receive hp hphase hwire
  | serve hwire hx => exact h.serve hwire hx
  | @hold leg hwire hunknown =>
    exact h.take hwire rfl hunknown delivered_held
      (fun _ => Wire.noConfusion)
  | lose hwire => exact h.close hwire
  | mine htaken => exact h.done htaken rfl
  | settle htaken => exact h.done htaken rfl
  | @report leg request order htaken hwire =>
    refine (h.done htaken rfl).report hwire ?_
    rw [setStanding_self]
    rfl

/-- Whatever the order in which legs, venues and messages move, from the state in which nothing has
    happened. -/
theorem run_accounted {v : Venues} {is : List NetAction} (run : Run (netStep v) init is t) :
    t.Accounted :=
  run.invariant (fun h _ hstep => netStep_accounted h hstep) accounted_init

end Net
end ArbEngine
