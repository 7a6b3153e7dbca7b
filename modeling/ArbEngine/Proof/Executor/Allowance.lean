import ArbEngine.Executor.Allowance
import ArbEngine.Lib.Run

/-!
# The router may spend what a swap needs

An approval is built with the number the wallet is at, so when one of them is in a block none that
was submitted before can come into one any more (`Settled`): a reset that was given up cannot undo
the approval that was waited for. Only a call that finds the allowance large enough, and sends
nothing, leaves room for an approval that an earlier call gave up on (`Leftover`).

The swaps of the wallet use the allowance up, so none of this is about the number the chain has at
the moment. What is kept is the number together with what has been spent of it: an allowance was
last set to `allowance + spent`, and was `allowance + spent - spentSeen` when it was read
(`Enough`, `Approved`).

`Stage` says for each phase what is known there, and `Inv.step` goes label by label.
-/

namespace ArbEngine
namespace Ensuring

variable {strict : Bool} {amount : U256} {w : TokenWorld} {s t : Ensuring}
  {labels : List EnsureLabel}

/-- Nothing that was submitted can come into a block any more. -/
def Settled (w : TokenWorld) : Prop := ∀ a ∈ w.submitted, a.nonce < w.nonce

/-- An approval from before the call that was not settled then has taken effect since. -/
def Leftover (w w' : TokenWorld) : Prop :=
  ∃ a ∈ w.submitted, w.nonce ≤ a.nonce ∧ (a, true) ∈ w'.included

/-- Everything is approved, for good: only what is spent is missing. -/
def Approved (s : Ensuring) : Prop :=
  s.world.allowance.toNat + s.spent = maxAllowance.toNat ∧ s.spentSeen = 0 ∧ Settled s.world

/-- **The allowance covers the amount**, but for what has been spent of it since it was read or
    set. -/
def Enough (amount : U256) (s : Ensuring) : Prop :=
  amount.toNat + s.spentSeen ≤ s.world.allowance.toNat + s.spent

/-- A reset or an approval of everything, and how many were submitted before it at most. -/
def Asks (w : TokenWorld) (s : Ensuring) (amount : U256) (more : ℕ) : Prop :=
  amount = 0#256 ∧ s.world.submitted.length ≤ w.submitted.length + more ∨
    amount = maxAllowance ∧ s.world.submitted.length ≤ w.submitted.length + (more + 1)

/-- Too little was found. -/
def Short (amount : U256) (s : Ensuring) : Prop :=
  ∃ current, s.seen = some (.ok current) ∧ current < amount

/-- The result is that of the function for what the chain has answered. -/
def Computed (amount : U256) (s : Ensuring) (result : Except String Unit) : Prop :=
  ∃ env : AllowanceEnv, s.seen = some env.current ∧ result = DexVenue.ensureAllowance env amount

/-- What is known in each phase of a call that began in the world `w`. -/
def Stage (amount : U256) (w : TokenWorld) (s : Ensuring) : EnsurePhase → Prop
  | .reading => s.world.submitted = w.submitted
  | .due x => Short amount s ∧ Asks w s x 0
  | .built a => Short amount s ∧ Asks w s a.amount 0 ∧ a ∉ s.world.submitted ∧
      a.nonce ≤ s.world.nonce ∧ a.id < s.fresh
  | .awaiting a => Short amount s ∧ Asks w s a.amount 1 ∧
      (a.amount ≠ 0#256 → (a, true) ∈ s.world.included → Approved s)
  | .done (.ok _) => Computed amount s (.ok ()) ∧
      s.world.submitted.length ≤ w.submitted.length + 2 ∧
      (Approved s ∨ s.world.submitted = w.submitted ∧ (Enough amount s ∨ Leftover w s.world))
  | .done (.error e) => Computed amount s (.error e) ∧
      s.world.submitted.length ≤ w.submitted.length + 2

/-- What holds between the steps of a call that began in the world `w`. The first four fields are
    about transactions and numbers, `amounts` and `allowance` about what can be allowed, and
    `stage` about what the function itself knows. -/
structure Inv (amount : U256) (w : TokenWorld) (s : Ensuring) : Prop where
  live : ∀ a ∈ s.world.submitted, a.nonce ≤ s.world.nonce
  named : ∀ a ∈ s.world.submitted, a.id < s.fresh
  included : ∀ p ∈ s.world.included, p.1 ∈ s.world.submitted
  later : w.nonce ≤ s.world.nonce
  amounts : ∀ a ∈ s.world.submitted,
    a ∈ w.submitted ∨ a.amount = 0#256 ∨ a.amount = maxAllowance
  allowance : s.world.allowance.toNat + s.spent = w.allowance.toNat ∨
    ∃ a, (a, true) ∈ s.world.included ∧ s.world.allowance.toNat + s.spent = a.amount.toNat
  stage : Stage amount w s s.phase

/-- The world before a call: nothing is built for a number that is still to come. A wallet that
    numbers its transactions from the chain is in such a world. -/
structure Ready (w : TokenWorld) (fresh : ℕ) : Prop where
  live : ∀ a ∈ w.submitted, a.nonce ≤ w.nonce
  named : ∀ a ∈ w.submitted, a.id < fresh
  included : ∀ p ∈ w.included, p.1 ∈ w.submitted

/-- A call starts with nothing known. -/
theorem Ready.start {fresh : ℕ} (h : Ready w fresh) : Inv amount w (start w fresh) where
  live := h.live
  named := h.named
  included := h.included
  later := le_rfl
  amounts := fun _ ha => .inl ha
  allowance := .inl rfl
  stage := rfl

/-- An approval of everything is no reset. -/
theorem maxAllowance_ne_zero : maxAllowance ≠ 0#256 := by decide

/-- And everything is enough for any amount. -/
theorem le_maxAllowance (x : U256) : x.toNat ≤ maxAllowance.toNat := by
  rw [maxAllowance, BitVec.toNat_allOnes]
  exact Nat.le_sub_one_of_lt x.isLt

/-- So an approval of everything covers the amount. -/
theorem Approved.enough (h : Approved s) : Enough amount s := by
  obtain ⟨all, none, -⟩ := h
  unfold Enough
  rw [all, none]
  exact le_maxAllowance amount

/-! ## The steps of the function -/

/-- A step that changes the phase only, and perhaps what has been seen. -/
theorem Inv.withPhase (h : Inv amount w s) {seen : Option (Except String U256)}
    {fresh spentSeen : ℕ} {phase : EnsurePhase} (hfresh : s.fresh ≤ fresh)
    (stage : Stage amount w { s with seen, fresh, spentSeen, phase } phase) :
    Inv amount w { s with seen, fresh, spentSeen, phase } where
  live := h.live
  named := fun a ha => (h.named a ha).trans_le hfresh
  included := h.included
  later := h.later
  amounts := h.amounts
  allowance := h.allowance
  stage := stage

/-- The allowance is read, or the call fails. Reading is what sets `spentSeen`. -/
theorem Inv.read (h : Inv amount w s) {failure : Option String}
    (step : s.read amount failure = some t) : Inv amount w t := by
  have stage := h.stage
  unfold Ensuring.read at step
  split at step
  · rename_i hphase
    cases step
    rw [hphase] at stage
    change s.world.submitted = w.submitted at stage
    have sent : s.world.submitted.length ≤ w.submitted.length := by rw [stage]
    refine h.withPhase le_rfl ?_
    unfold afterRead
    -- what the chain allows is compared with the amount as it is now
    by_cases short : s.world.allowance < amount
    · rw [if_pos short]
      by_cases some : 0#256 < s.world.allowance
      · rw [if_pos some]
        exact ⟨⟨_, rfl, short⟩, .inl ⟨rfl, sent⟩⟩
      · rw [if_neg some]
        exact ⟨⟨_, rfl, short⟩, .inr ⟨rfl, Nat.le_succ_of_le sent⟩⟩
    · rw [if_neg short]
      refine ⟨⟨{ current := .ok s.world.allowance, approve := .ok true }, rfl, ?_⟩,
        Nat.le_add_right_of_le sent,
        .inr ⟨stage, .inl (Nat.add_le_add_right (BitVec.not_lt.mp short) s.spent)⟩⟩
      unfold DexVenue.ensureAllowance
      dsimp only
      rw [if_neg short]
  · rename_i e hphase
    cases step
    rw [hphase] at stage
    change s.world.submitted = w.submitted at stage
    refine h.withPhase le_rfl ⟨⟨{ current := .error e, approve := .ok true }, rfl, rfl⟩, ?_⟩
    show s.world.submitted.length ≤ _
    rw [stage]
    omega
  · cases step

/-- An approval is built with the number the wallet is at, so it can come into the next block. -/
theorem Inv.build (h : Inv amount w s) (step : s.build = some t) : Inv amount w t := by
  have stage := h.stage
  unfold Ensuring.build at step
  split at step
  · rename_i x hphase
    cases step
    rw [hphase] at stage
    obtain ⟨short, asks⟩ := stage
    refine h.withPhase (Nat.le_succ _) ⟨short, asks, fun again => ?_, le_rfl, Nat.lt_succ_self _⟩
    exact absurd (h.named _ again) (Nat.lt_irrefl _)
  · cases step

/-- A submission; it is in no block yet. -/
theorem Inv.submit (h : Inv amount w s) (step : s.submit = some t) : Inv amount w t := by
  have stage := h.stage
  unfold Ensuring.submit at step
  split at step
  · rename_i a hphase
    cases step
    rw [hphase] at stage
    obtain ⟨short, asks, absent, early, named⟩ := stage
    -- what holds of all that was submitted before and of the new one holds of all
    have submitted : ∀ {P : Approval → Prop}, (∀ b ∈ s.world.submitted, P b) → P a →
        ∀ b ∈ s.world.submitted ++ [a], P b := by
      intro P before here b hb
      rcases List.mem_append.mp hb with hb | hb
      · exact before b hb
      · rwa [List.mem_singleton.mp hb]
    constructor
    case live => exact submitted h.live early
    case named => exact submitted h.named named
    case included => exact fun p hp => List.mem_append_left _ (h.included p hp)
    case later => exact h.later
    case amounts =>
      refine submitted h.amounts (.inr ?_)
      rcases asks with ⟨none, -⟩ | ⟨all, -⟩
      · exact .inl none
      · exact .inr all
    case allowance => exact h.allowance
    case stage =>
      -- it was in no block when it was built, so nothing is known of it yet
      refine ⟨short, ?_, fun _ mined => absurd (h.included _ mined) absent⟩
      unfold Asks
      dsimp only
      rw [List.length_append, List.length_singleton]
      rcases asks with ⟨none, sent⟩ | ⟨all, sent⟩
      · exact .inl ⟨none, Nat.succ_le_succ sent⟩
      · exact .inr ⟨all, Nat.succ_le_succ sent⟩
  · cases step

/-- What a `send_and_wait` that is given up leaves: a reset that failed is logged and the approval
    is due, an approval that failed ends the call. -/
theorem stage_afterFailure {x : U256} {more : ℕ} (e : String) (few : more ≤ 1)
    (short : Short amount s) (asks : Asks w s x more) :
    Stage amount w { s with phase := afterFailure x e } (afterFailure x e) := by
  obtain ⟨current, found, little⟩ := short
  unfold afterFailure
  rcases asks with ⟨rfl, sent⟩ | ⟨rfl, sent⟩
  · rw [if_pos rfl]
    exact ⟨⟨current, found, little⟩, .inr ⟨rfl, sent.trans (by omega)⟩⟩
  · rw [if_neg maxAllowance_ne_zero]
    refine ⟨⟨{ current := .ok current, approve := .error e }, found, ?_⟩, sent.trans (by omega)⟩
    unfold DexVenue.ensureAllowance
    dsimp only
    rw [if_pos little]

/-- Giving up changes nothing on the chain: the transaction stays submitted. -/
theorem Inv.fail (h : Inv amount w s) {e : String} (step : s.fail e = some t) :
    Inv amount w t := by
  have stage := h.stage
  unfold Ensuring.fail at step
  split at step
  · rename_i x hphase
    cases step
    rw [hphase] at stage
    exact h.withPhase le_rfl (stage_afterFailure e (Nat.zero_le 1) stage.1 stage.2)
  · rename_i a hphase
    cases step
    rw [hphase] at stage
    exact h.withPhase le_rfl (stage_afterFailure e (Nat.zero_le 1) stage.1 stage.2.1)
  · rename_i a hphase
    cases step
    rw [hphase] at stage
    exact h.withPhase le_rfl (stage_afterFailure e le_rfl stage.1 stage.2.1)
  · cases step

/-- A receipt that is found is of a transaction in a block. -/
theorem mem_of_lookup {l : List (Approval × Bool)} {a : Approval} {status : Bool}
    (h : l.lookup a = some status) : (a, status) ∈ l := by
  induction l with
  | nil => cases h
  | cons p l ih =>
    rw [List.lookup_cons] at h
    by_cases same : a = p.1
    · subst same
      simp only [beq_self_eq_true, Option.some.injEq] at h
      subst h
      exact List.mem_cons_self
    · rw [beq_false_of_ne same] at h
      exact List.mem_cons_of_mem p (ih h)

/-- A receipt is seen. The approval it is of is in a block, and so everything submitted before it
    is dead. -/
theorem Inv.receipt (h : Inv amount w s) (step : s.receipt = some t) : Inv amount w t := by
  have stage := h.stage
  unfold Ensuring.receipt at step
  split at step
  · rename_i a hphase
    rw [hphase] at stage
    obtain ⟨status, found, rfl⟩ := Option.map_eq_some_iff.mp step
    obtain ⟨⟨current, seen, little⟩, asks, approved⟩ := stage
    refine h.withPhase le_rfl ?_
    unfold afterReceipt
    -- a reset is followed by the approval, an approval ends the call
    rcases asks with ⟨reset, sent⟩ | ⟨all, sent⟩
    · rw [if_pos reset]
      exact ⟨⟨current, seen, little⟩, .inr ⟨rfl, sent⟩⟩
    · have ask : a.amount ≠ 0#256 := by
        rw [all]
        exact maxAllowance_ne_zero
      rw [if_neg ask]
      cases status with
      | true =>
        refine ⟨⟨{ current := .ok current, approve := .ok true }, seen, ?_⟩, sent,
          .inl (approved ask (mem_of_lookup found))⟩
        unfold DexVenue.ensureAllowance
        dsimp only
        rw [if_pos little]
        rfl
      | false =>
        refine ⟨⟨{ current := .ok current, approve := .ok false }, seen, ?_⟩, sent⟩
        unfold DexVenue.ensureAllowance
        dsimp only
        rw [if_pos little]
        rfl
  · cases step

/-! ## The steps of the chain -/

/-- What a block leaves that takes up another transaction of the wallet: what it spends is off the
    allowance, and the sum of the two is what it was. -/
structure MinedOther (s t : Ensuring) : Prop where
  nonce : t.world.nonce = s.world.nonce + 1
  submitted : t.world.submitted = s.world.submitted
  included : t.world.included = s.world.included
  total : t.world.allowance.toNat + t.spent = s.world.allowance.toNat + s.spent
  fresh : t.fresh = s.fresh
  seen : t.seen = s.seen
  spentSeen : t.spentSeen = s.spentSeen
  phase : t.phase = s.phase

/-- A block with a transaction of the wallet that is no approval. -/
theorem minedOther_of_mineOther {spent : U256} (step : s.mineOther spent = some t) :
    MinedOther s t := by
  unfold Ensuring.mineOther at step
  split at step
  · rename_i allowed
    cases step
    refine ⟨rfl, rfl, rfl, ?_, rfl, rfl, rfl, rfl⟩
    dsimp only
    rw [BitVec.toNat_sub_of_le allowed]
    have less : spent.toNat ≤ s.world.allowance.toNat := allowed
    omega
  · cases step

/-- What was dead stays dead, and so on for all that is known: the number has only grown. -/
theorem MinedOther.settled (m : MinedOther s t) (h : Settled s.world) : Settled t.world := by
  intro a ha
  rw [m.submitted] at ha
  rw [m.nonce]
  exact Nat.lt_succ_of_lt (h a ha)

theorem MinedOther.approved (m : MinedOther s t) (h : Approved s) : Approved t :=
  ⟨m.total.trans h.1, m.spentSeen.trans h.2.1, m.settled h.2.2⟩

theorem MinedOther.enough (m : MinedOther s t) (h : Enough amount s) : Enough amount t := by
  unfold Enough at h ⊢
  rwa [m.total, m.spentSeen]

theorem MinedOther.leftover (m : MinedOther s t) (h : Leftover w s.world) :
    Leftover w t.world := by
  unfold Leftover at h ⊢
  rwa [m.included]

theorem MinedOther.asks (m : MinedOther s t) {x : U256} {more : ℕ} (h : Asks w s x more) :
    Asks w t x more := by
  unfold Asks at h ⊢
  rwa [m.submitted]

theorem MinedOther.short (m : MinedOther s t) (h : Short amount s) : Short amount t := by
  unfold Short at h ⊢
  rwa [m.seen]

theorem MinedOther.computed (m : MinedOther s t) {result : Except String Unit}
    (h : Computed amount s result) : Computed amount t result := by
  unfold Computed at h ⊢
  rwa [m.seen]

/-- What a phase knows does not depend on the allowance alone, so a swap leaves it. -/
theorem MinedOther.stage (m : MinedOther s t) (h : Inv amount w s) :
    Stage amount w t t.phase := by
  have stage := h.stage
  rw [m.phase]
  cases hphase : s.phase with
  | reading =>
    rw [hphase] at stage
    exact m.submitted.trans stage
  | due x =>
    rw [hphase] at stage
    exact ⟨m.short stage.1, m.asks stage.2⟩
  | built a =>
    rw [hphase] at stage
    obtain ⟨short, asks, absent, early, named⟩ := stage
    refine ⟨m.short short, m.asks asks, ?_, ?_, ?_⟩
    · rwa [m.submitted]
    · rw [m.nonce]
      exact Nat.le_succ_of_le early
    · rwa [m.fresh]
  | awaiting a =>
    rw [hphase] at stage
    obtain ⟨short, asks, approved⟩ := stage
    refine ⟨m.short short, m.asks asks, fun ask mined => ?_⟩
    rw [m.included] at mined
    exact m.approved (approved ask mined)
  | done result =>
    rw [hphase] at stage
    cases result with
    | ok _ =>
      obtain ⟨computed, sent, found⟩ := stage
      refine ⟨m.computed computed, ?_, found.imp m.approved fun ⟨unsent, kept⟩ => ?_⟩
      · rwa [m.submitted]
      · exact ⟨m.submitted.trans unsent, kept.imp m.enough m.leftover⟩
    | error e =>
      refine ⟨m.computed stage.1, ?_⟩
      rw [m.submitted]
      exact stage.2

theorem MinedOther.inv (m : MinedOther s t) (h : Inv amount w s) : Inv amount w t where
  live := by
    rw [m.submitted, m.nonce]
    exact fun a ha => Nat.le_succ_of_le (h.live a ha)
  named := by
    rw [m.submitted, m.fresh]
    exact h.named
  included := by
    rw [m.included, m.submitted]
    exact h.included
  later := by
    rw [m.nonce]
    exact Nat.le_succ_of_le h.later
  amounts := by
    rw [m.submitted]
    exact h.amounts
  allowance := by
    rw [m.total, m.included]
    exact h.allowance
  stage := m.stage h

/-- What a block leaves that takes one of the approvals up. -/
structure Mined (s t : Ensuring) (a : Approval) (status : Bool) : Prop where
  submitted : a ∈ s.world.submitted
  due : a.nonce = s.world.nonce
  result : t = { s with
    world := { s.world with
      nonce := s.world.nonce + 1
      allowance := if status then a.amount else s.world.allowance
      included := s.world.included ++ [(a, status)] }
    spent := if status then 0 else s.spent
    spentSeen := if status then 0 else s.spentSeen }

/-- A block with an approval of the wallet, successful or not. -/
theorem mined_of_mine {a : Approval} {enoughGas : Bool}
    (step : s.mine strict a enoughGas = some t) : ∃ status, Mined s t a status := by
  unfold mine at step
  split at step
  · rename_i due
    exact ⟨_, due.1, due.2, (Option.some.inj step).symm⟩
  · cases step

/-- It has been alive until then. -/
theorem Mined.not_settled {a : Approval} {status : Bool} (m : Mined s t a status) :
    ¬ Settled s.world := by
  intro settled
  have dead := settled a m.submitted
  have due := m.due
  omega

/-- After it, nothing that was submitted can come into a block. -/
theorem Mined.settled {a : Approval} {status : Bool} (m : Mined s t a status)
    (live : ∀ b ∈ s.world.submitted, b.nonce ≤ s.world.nonce) : Settled t.world := by
  obtain ⟨-, -, rfl⟩ := m
  exact fun b hb => Nat.lt_succ_of_le (live b hb)

/-- Nothing else was taken up. -/
theorem Mined.mem_included {a b : Approval} {status status' : Bool} (m : Mined s t a status)
    (h : (b, status') ∈ t.world.included) :
    (b, status') ∈ s.world.included ∨ b = a ∧ status' = status := by
  obtain ⟨-, -, rfl⟩ := m
  rcases List.mem_append.mp h with before | here
  · exact .inl before
  · obtain ⟨rfl, rfl⟩ := Prod.mk.inj (List.mem_singleton.mp here)
    exact .inr ⟨rfl, rfl⟩

/-- What has been taken up stays so. -/
theorem Leftover.mined {a : Approval} {status : Bool} (m : Mined s t a status)
    (h : Leftover w s.world) : Leftover w t.world := by
  obtain ⟨b, hb, live, taken⟩ := h
  obtain ⟨-, -, rfl⟩ := m
  exact ⟨b, hb, live, List.mem_append_left _ taken⟩

/-- A call that has sent nothing keeps what it found, unless an approval from before it is mined.
    Then that approval is what the chain has, and it is left over. -/
theorem Mined.unsent {a : Approval} {status : Bool} (m : Mined s t a status)
    (later : w.nonce ≤ s.world.nonce) (none : s.world.submitted = w.submitted)
    (h : Enough amount s ∨ Leftover w s.world) : Enough amount t ∨ Leftover w t.world := by
  rcases h with enough | leftover
  · obtain ⟨submitted, due, rfl⟩ := m
    cases status with
    | true =>
      refine .inr ⟨a, ?_, ?_, List.mem_append_right _ (List.mem_singleton.mpr rfl)⟩
      · rwa [none] at submitted
      · rwa [due]
    | false => exact .inl enough
  · exact .inr (leftover.mined m)

/-- What each phase knows after an approval of the wallet was mined. While the function waits it
    can be the one it waits for; after it has come back nothing is left to mine, or it has sent
    nothing. -/
theorem Mined.stage {a : Approval} {status : Bool} (m : Mined s t a status)
    (h : Inv amount w s) : Stage amount w t t.phase := by
  have stage := h.stage
  have alive := m.not_settled
  have dead := m.settled h.live
  have taken : ∀ b, (b, true) ∈ t.world.included →
      (b, true) ∈ s.world.included ∨ b = a ∧ true = status := fun _ => m.mem_included
  have unsent : s.world.submitted = w.submitted → Enough amount s ∨ Leftover w s.world →
      Enough amount t ∨ Leftover w t.world := m.unsent h.later
  obtain ⟨-, -, rfl⟩ := m
  dsimp only at dead taken unsent ⊢
  cases hphase : s.phase with
  | reading =>
    rw [hphase] at stage
    exact stage
  | due x =>
    rw [hphase] at stage
    exact stage
  | built b =>
    rw [hphase] at stage
    exact ⟨stage.1, stage.2.1, stage.2.2.1, Nat.le_succ_of_le stage.2.2.2.1, stage.2.2.2.2⟩
  | awaiting b =>
    rw [hphase] at stage
    obtain ⟨short, asks, approved⟩ := stage
    refine ⟨short, asks, fun ask mined => ?_⟩
    rcases taken b mined with before | ⟨rfl, rfl⟩
    · -- had it been in a block before, nothing could have been mined after it
      exact absurd (approved ask before).2.2 alive
    · refine ⟨?_, rfl, dead⟩
      rcases asks with ⟨reset, -⟩ | ⟨all, -⟩
      · exact absurd reset ask
      · exact congrArg BitVec.toNat all
  | done result =>
    rw [hphase] at stage
    cases result with
    | error e => exact stage
    | ok _ =>
      -- the call is over: either all is settled, and this block is impossible, or it has sent
      -- nothing
      obtain ⟨computed, sent, approved | ⟨none, found⟩⟩ := stage
      · exact absurd approved.2.2 alive
      · exact ⟨computed, sent, .inr ⟨none, unsent none found⟩⟩

/-- And so the invariant holds after it. -/
theorem Mined.inv {a : Approval} {status : Bool} (m : Mined s t a status) (h : Inv amount w s) :
    Inv amount w t := by
  have stage := m.stage h
  obtain ⟨submitted, -, rfl⟩ := m
  constructor
  case live => exact fun b hb => Nat.le_succ_of_le (h.live b hb)
  case named => exact h.named
  case included =>
    intro p hp
    rcases List.mem_append.mp hp with before | here
    · exact h.included p before
    · rwa [List.mem_singleton.mp here]
  case later => exact Nat.le_succ_of_le h.later
  case amounts => exact h.amounts
  case allowance =>
    cases status with
    | true => exact .inr ⟨a, List.mem_append_right _ (List.mem_singleton.mpr rfl), rfl⟩
    | false =>
      refine h.allowance.imp id fun ⟨b, taken, same⟩ => ?_
      exact ⟨b, List.mem_append_left _ taken, same⟩
  case stage => exact stage

/-! ## Runs -/

/-- **A step of the function or of the chain keeps the invariant**, label by label. -/
theorem Inv.step (h : Inv amount w s) {label : EnsureLabel}
    (step : ensureStep strict amount s label = some t) : Inv amount w t := by
  cases label with
  | read failure => exact h.read step
  | build => exact h.build step
  | submit => exact h.submit step
  | fail e => exact h.fail step
  | receipt => exact h.receipt step
  | mine a enoughGas =>
    obtain ⟨status, mined⟩ := mined_of_mine step
    exact mined.inv h
  | mineOther spent => exact (minedOther_of_mineOther step).inv h

/-- **What `ensure_allowance` ensures**, of every state of a run that began in the world `w`. -/
structure Ensured (amount : U256) (w : TokenWorld) (s : Ensuring) : Prop where
  /-- Once it has come back, the allowance and what has been spent of it since it was read or set
      cover the amount, and go on to. -/
  granted : s.phase = .done (.ok ()) → Enough amount s ∨ Leftover w s.world
  /-- If it had to send anything, everything was allowed, and nothing it has given up on can undo
      that. -/
  settled : s.phase = .done (.ok ()) → s.world.submitted ≠ w.submitted → Approved s
  result : ∀ result, s.phase = .done result → Computed amount s result
  few : s.world.submitted.length ≤ w.submitted.length + 2
  /-- The allowance, with what has been spent of it, is one there was, none at all or
      everything. -/
  values : ∃ last : U256, s.world.allowance.toNat + s.spent = last.toNat ∧
    (last = w.allowance ∨ last = 0#256 ∨ last = maxAllowance ∨
      ∃ a ∈ w.submitted, last = a.amount)

/-- A call submits two approvals at most. -/
theorem Asks.few {x : U256} {more : ℕ} (h : Asks w s x more) (one : more ≤ 1) :
    s.world.submitted.length ≤ w.submitted.length + 2 := by
  rcases h with ⟨-, sent⟩ | ⟨-, sent⟩ <;> exact sent.trans (by omega)

/-- In any phase. -/
theorem Inv.few (h : Inv amount w s) : s.world.submitted.length ≤ w.submitted.length + 2 := by
  have stage := h.stage
  cases hphase : s.phase with
  | reading =>
    rw [hphase] at stage
    change s.world.submitted = w.submitted at stage
    rw [stage]
    omega
  | due x =>
    rw [hphase] at stage
    exact stage.2.few (Nat.zero_le 1)
  | built a =>
    rw [hphase] at stage
    exact stage.2.1.few (Nat.zero_le 1)
  | awaiting a =>
    rw [hphase] at stage
    exact stage.2.1.few le_rfl
  | done result =>
    rw [hphase] at stage
    cases result with
    | ok _ => exact stage.2.1
    | error e => exact stage.2

/-- **The router may spend what it was asked for**, in whatever order the chain takes up what was
    sent, whatever of it is given up, and whether or not the token is strict. What the swaps of the
    wallet take off in the meantime is added up beside it. -/
theorem allowance_ensured (strict : Bool) (amount : U256) (w : TokenWorld) (fresh : ℕ)
    (labels : List EnsureLabel) (s : Ensuring) (ready : Ready w fresh)
    (run : Run (ensureStep strict amount) (start w fresh) labels s) : Ensured amount w s := by
  have inv : Inv amount w s := run.invariant (fun h _ step => h.step step) ready.start
  have stage := inv.stage
  constructor
  case granted =>
    intro done
    rw [done] at stage
    rcases stage.2.2 with approved | ⟨-, found⟩
    · exact .inl approved.enough
    · exact found
  case settled =>
    intro done sent
    rw [done] at stage
    rcases stage.2.2 with approved | ⟨none, -⟩
    · exact approved
    · exact absurd none sent
  case result =>
    intro result done
    rw [done] at stage
    cases result with
    | ok _ => exact stage.1
    | error e => exact stage.1
  case few => exact inv.few
  case values =>
    -- An approval that was there before, and taken up only now, may have the last word.
    rcases inv.allowance with same | ⟨a, taken, same⟩
    · exact ⟨w.allowance, same, .inl rfl⟩
    · refine ⟨a.amount, same, .inr ?_⟩
      rcases inv.amounts a (inv.included _ taken) with before | none | all
      · exact .inr (.inr ⟨a, before, rfl⟩)
      · exact .inl none
      · exact .inr (.inl all)

/-! ## A strict token whose reset is given up -/

/-- Ten are allowed, and a hundred are needed. -/
def sampleToken : TokenWorld where
  nonce := 4
  allowance := 10
  submitted := []
  included := []

/-- The approval of nothing that a strict token asks for first. -/
def sampleReset : Approval where
  id := 0
  nonce := 4
  amount := 0

/-- The approval of everything, with the next number. -/
def sampleApproval : Approval where
  id := 1
  nonce := 5
  amount := maxAllowance

/-- The reset is mined after the function has stopped waiting for it, and a swap of the wallet
    spends a thousand before the receipt of the approval is seen. -/
def sampleLabels : List EnsureLabel :=
  [.read none, .build, .submit, .fail "Timeout", .mine sampleReset true, .build, .submit,
    .mine sampleApproval true, .mineOther 1000, .receipt]

/-- The reset comes into a block although the function has given it up, and the approval after it
    stands. -/
theorem sample_allowance_ensured :
    ∃ s, sampleLabels.foldlM (ensureStep true 100) (start sampleToken 0) = some s ∧
      s.phase = .done (.ok ()) ∧ s.world.allowance = maxAllowance - 1000 ∧
      Ensured 100 sampleToken s := by
  have ready : Ready sampleToken 0 := by
    constructor <;> exact fun _ h => absurd h List.not_mem_nil
  refine ⟨_, rfl, rfl, rfl, ?_⟩
  exact allowance_ensured true 100 sampleToken 0 sampleLabels _ ready (Run.of_foldlM rfl)

end Ensuring
end ArbEngine
