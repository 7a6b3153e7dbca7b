import Mathlib.Algebra.Order.Group.Multiset
import Mathlib.Data.List.Induction
import Mathlib.Tactic.Abel

/-!
# Bounded queues whose entries expire

An entry is pushed behind the others if there is room once the expired ones are gone, and refused
otherwise; it is popped by its key, wherever it stands and whether it has expired or not.

Over a whole run nothing is lost and nothing comes twice: what was pushed is in the queue, or was
popped later, or had expired when something was pushed later, or was refused by a queue full of
live entries (`accounted_run`). That the pop or the push came *later* is what `Followed` says; an
entry is only ever in the queue because it was pushed before (`Accounted.ordered`), so whatever
takes it out comes after its own push (`followed_of_pushed`).
-/

namespace BoundedQueue

variable {α κ τ : Type}

/-- What a queue needs to know of its entries. -/
structure Policy (α κ τ : Type) where
  maxSize : ℕ
  key : α → κ
  expired : α → τ → Bool

/-- A push with its time, or a pop. -/
inductive Op (α κ τ : Type) where
  | push (a : α) (now : τ)
  | pop (k : κ)

/-- The queue, and what was taken from it so far. -/
structure State (α : Type) where
  queue : List α
  popped : List α

/-- The entry that an operation brings. -/
def Op.pushed : Op α κ τ → Option α
  | .push a _ => some a
  | .pop _ => none

/-- What was pushed, in its order. -/
def pushes (ops : List (Op α κ τ)) : List α := ops.filterMap Op.pushed

/-- One operation more. -/
theorem pushes_append (ops : List (Op α κ τ)) (op : Op α κ τ) :
    pushes (ops ++ [op]) = pushes ops ++ op.pushed.toList := by
  rw [pushes, List.filterMap_append]
  cases op <;> rfl

/-- What was pushed was pushed at some time. -/
theorem pushed_of_mem_pushes {ops : List (Op α κ τ)} {a : α} (h : a ∈ pushes ops) :
    ∃ now, .push a now ∈ ops := by
  obtain ⟨op, hop, same⟩ := List.mem_filterMap.mp h
  cases op with
  | push b now =>
    cases same
    exact ⟨now, hop⟩
  | pop k => cases same

/-- The entry was pushed and this operation came later. The push is one of possibly several of the
    same entry. -/
def Followed (ops : List (Op α κ τ)) (a : α) (op : Op α κ τ) : Prop :=
  ∃ before own middle after, ops = before ++ .push a own :: (middle ++ op :: after)

/-- It stays so when more follows. -/
theorem Followed.snoc {ops : List (Op α κ τ)} {a : α} {op : Op α κ τ} (h : Followed ops a op)
    (last : Op α κ τ) : Followed (ops ++ [last]) a op := by
  obtain ⟨before, own, middle, after, rfl⟩ := h
  exact ⟨before, own, middle, after ++ [last], by simp⟩

/-- What was pushed already is followed by the operation that comes next. -/
theorem followed_of_pushed {ops : List (Op α κ τ)} {a : α} (h : a ∈ pushes ops)
    (last : Op α κ τ) : Followed (ops ++ [last]) a last := by
  obtain ⟨own, hown⟩ := pushed_of_mem_pushes h
  obtain ⟨before, after, rfl⟩ := List.append_of_mem hown
  exact ⟨before, own, after, [], by simp⟩

namespace Policy

variable (p : Policy α κ τ)

/-- What is left when the expired entries are gone. -/
def live (q : List α) (now : τ) : List α := q.filter fun a => !p.expired a now

/-- The expired entries go first, also if the new one finds no room. -/
def push (q : List α) (a : α) (now : τ) : List α :=
  if (p.live q now).length < p.maxSize then p.live q now ++ [a] else p.live q now

/-- A queue is its live and its expired entries. -/
theorem live_perm (q : List α) (now : τ) :
    q.Perm (p.live q now ++ q.filter fun a => p.expired a now) := by
  have split := List.filter_append_perm (fun a => !p.expired a now) q
  simp only [Bool.not_not] at split
  exact split.symm

variable [DecidableEq κ]

/-- The first entry with this key. -/
def pop (q : List α) (k : κ) : Option α × List α :=
  (q.find? fun a => p.key a = k, q.eraseP fun a => p.key a = k)

/-- One operation on the queue. -/
def step (s : State α) : Op α κ τ → State α
  | .push a now => { s with queue := p.push s.queue a now }
  | .pop k =>
      { queue := (p.pop s.queue k).2
        popped := s.popped ++ (p.pop s.queue k).1.toList }

/-- All of them, on an empty queue. -/
def run (ops : List (Op α κ τ)) : State α := ops.foldl p.step ⟨[], []⟩

theorem run_append (ops : List (Op α κ τ)) (op : Op α κ τ) :
    p.run (ops ++ [op]) = p.step (p.run ops) op := by
  simp only [run, List.foldl_append, List.foldl_cons, List.foldl_nil]

/-- Where everything went that was pushed: in the queue, taken, expired or refused. Each of the
    last three comes with the operation that did it. -/
structure Accounted (ops : List (Op α κ τ)) (s : State α) (expired refused : List α) : Prop where
  all : (pushes ops).Perm (s.queue ++ s.popped ++ expired ++ refused)
  ordered : s.queue.Sublist (pushes ops)
  bounded : s.queue.length ≤ p.maxSize
  asked : ∀ a ∈ s.popped, Followed ops a (.pop (p.key a))
  overdue : ∀ a ∈ expired, ∃ b now, Followed ops a (.push b now) ∧ p.expired a now = true
  full : ∀ a ∈ refused, ∃ before now after, ops = before ++ .push a now :: after ∧
    p.maxSize ≤ (p.live (p.run before).queue now).length

variable {p} {ops : List (Op α κ τ)} {s : State α} {expired refused : List α}

/-- A pop takes one entry at most, and leaves the others. -/
theorem pop_perm (q : List α) (k : κ) : q.Perm ((p.pop q k).1.toList ++ (p.pop q k).2) := by
  unfold pop
  induction q with
  | nil => exact List.Perm.refl []
  | cons a q ih =>
    by_cases found : p.key a = k
    · simp [found]
    · simp only [found, decide_false, Bool.false_eq_true, not_false_eq_true, List.find?_cons_of_neg,
        List.eraseP_cons_of_neg]
      exact (ih.cons a).trans List.perm_middle.symm

/-- A push drops what has expired, and then there is room or there is none. -/
theorem Accounted.push (h : p.Accounted ops (p.run ops) expired refused) (a : α) (now : τ) :
    ∃ expired refused, p.Accounted (ops ++ [.push a now]) (p.run (ops ++ [.push a now]))
      expired refused := by
  obtain ⟨all, ordered, bounded, asked, overdue, full⟩ := h
  have all' := Multiset.coe_eq_coe.mpr all
  have split := Multiset.coe_eq_coe.mpr (p.live_perm (p.run ops).queue now)
  simp only [← Multiset.coe_add] at all' split
  have asked' : ∀ b ∈ (p.run ops).popped, Followed (ops ++ [Op.push a now]) b (.pop (p.key b)) :=
    fun b hb => (asked b hb).snoc _
  -- what had expired before, and what this push finds expired in the queue
  have overdue' : ∀ b ∈ expired ++ (p.run ops).queue.filter fun b => p.expired b now,
      ∃ c now', Followed (ops ++ [Op.push a now]) b (.push c now') ∧
        p.expired b now' = true := by
    intro b hb
    rcases List.mem_append.mp hb with hb | hb
    · obtain ⟨c, now', hc, gone⟩ := overdue b hb
      exact ⟨c, now', hc.snoc _, gone⟩
    · -- it is dropped by this very push, and was in the queue only because it came before
      obtain ⟨waiting, gone⟩ := List.mem_filter.mp hb
      exact ⟨a, now, followed_of_pushed (ordered.subset waiting) _, gone⟩
  have full' : ∀ b ∈ refused, ∃ before now' after,
      ops ++ [Op.push a now] = before ++ .push b now' :: after ∧
        p.maxSize ≤ (p.live (p.run before).queue now').length := by
    intro b hb
    obtain ⟨before, now', after, rfl, room⟩ := full b hb
    exact ⟨before, now', after ++ [.push a now], by simp, room⟩
  have sub : (p.live (p.run ops).queue now).Sublist (pushes ops) :=
    List.filter_sublist.trans ordered
  rw [run_append, step, Policy.push]
  -- with room the entry joins the queue, without it the refused ones; in both cases the expired
  -- entries have left
  by_cases room : (p.live (p.run ops).queue now).length < p.maxSize
  · rw [if_pos room]
    refine ⟨_, refused, ?_, ?_, ?_, asked', overdue', full'⟩
    · rw [pushes_append, ← Multiset.coe_eq_coe]
      simp only [← Multiset.coe_add, all', split, Op.pushed, Option.toList_some]
      abel
    · rw [pushes_append]
      exact sub.append (List.Sublist.refl [a])
    · rw [List.length_append, List.length_singleton]
      exact room
  · rw [if_neg room]
    refine ⟨_, refused ++ [a], ?_, ?_, ?_, asked', overdue', ?_⟩
    · rw [pushes_append, ← Multiset.coe_eq_coe]
      simp only [← Multiset.coe_add, all', split, Op.pushed, Option.toList_some]
      abel
    · rw [pushes_append]
      exact sub.trans (List.sublist_append_left _ _)
    · exact (List.length_filter_le _ _).trans bounded
    · intro b hb
      rcases List.mem_append.mp hb with hb | hb
      · exact full' b hb
      · rw [List.mem_singleton.mp hb]
        exact ⟨ops, now, [], rfl, not_lt.mp room⟩

/-- A pop takes its entry out of the queue and puts it to the others that were asked for. -/
theorem Accounted.pop (h : p.Accounted ops (p.run ops) expired refused) (k : κ) :
    p.Accounted (ops ++ [.pop k]) (p.run (ops ++ [.pop k])) expired refused := by
  obtain ⟨all, ordered, bounded, asked, overdue, full⟩ := h
  rw [run_append, step]
  constructor
  case all =>
    have all' := Multiset.coe_eq_coe.mpr all
    have split := Multiset.coe_eq_coe.mpr (pop_perm (p := p) (p.run ops).queue k)
    simp only [← Multiset.coe_add] at all' split
    rw [pushes_append, ← Multiset.coe_eq_coe]
    simp only [← Multiset.coe_add, all', split, Op.pushed, Option.toList_none,
      Multiset.coe_nil]
    abel
  case ordered =>
    rw [pushes_append]
    exact (List.eraseP_sublist.trans ordered).trans (List.sublist_append_left _ _)
  case bounded => exact List.eraseP_sublist.length_le.trans bounded
  case asked =>
    intro a ha
    rcases List.mem_append.mp ha with ha | ha
    · exact (asked a ha).snoc _
    · -- the entry that is taken now; it was waiting, so its push came before
      have taken : (p.run ops).queue.find? (fun a => p.key a = k) = some a :=
        Option.mem_toList.mp ha
      have found := List.find?_some taken
      rw [of_decide_eq_true found]
      exact followed_of_pushed (ordered.subset (List.mem_of_find?_eq_some taken)) _
  case overdue =>
    intro a ha
    obtain ⟨b, now, hb, gone⟩ := overdue a ha
    exact ⟨b, now, hb.snoc _, gone⟩
  case full =>
    intro a ha
    obtain ⟨before, now, after, rfl, room⟩ := full a ha
    exact ⟨before, now, after ++ [.pop k], by simp, room⟩

/-- **Everything that was pushed is accounted for.** -/
theorem accounted_run (p : Policy α κ τ) (ops : List (Op α κ τ)) :
    ∃ expired refused, p.Accounted ops (p.run ops) expired refused := by
  induction ops using List.reverseRecOn with
  | nil =>
    exact ⟨[], [], List.Perm.refl [], List.Sublist.refl [], Nat.zero_le _, nofun, nofun, nofun⟩
  | append_singleton ops op ih =>
    obtain ⟨expired, refused, h⟩ := ih
    cases op with
    | push a now => exact h.push a now
    | pop k => exact ⟨expired, refused, h.pop k⟩

end Policy

end BoundedQueue
