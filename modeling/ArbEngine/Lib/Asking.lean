import Mathlib.Data.Nat.Notation

/-!
# Asking a world that moves on

A computation that asks one question after another, each at a moment of its own, so that what it
puts together need not have been true at any one of them. A question takes a moment whether it is
answered or fails; moments only go up (`Forward`).
-/

/-- A computation from one moment to another. -/
abbrev Asking (ε α : Type) := EStateM ε ℕ α

namespace Asking

variable {ε ε' α β : Type} {x : Asking ε α} {f : α → Asking ε β} {i j k : ℕ} {a : α} {b : β}

/-- A question that is answered as the world is when it is asked. -/
def ask (answer : ℕ → Except ε α) : Asking ε α := fun i =>
  match answer i with
  | .ok a => .ok a (i + 1)
  | .error e => .error e (i + 1)

/-- A question that may stay open. -/
def getD (x : Asking ε α) (default : α) : Asking ε' α := fun i =>
  match x i with
  | .ok a j => .ok a j
  | .error _ j => .ok default j

/-- What was found, if anything. -/
def found (e : ε) : Option α → Asking ε α
  | some a => pure a
  | none => throw e

theorem ask_eq_ok {answer : ℕ → Except ε α} :
    ask answer i = .ok a j ↔ answer i = .ok a ∧ j = i + 1 := by
  unfold ask
  cases answer i with
  | ok value =>
    constructor
    · intro h
      cases h
      exact ⟨rfl, rfl⟩
    · rintro ⟨h, rfl⟩
      cases h
      rfl
  | error e =>
    constructor
    · intro h
      cases h
    · rintro ⟨h, -⟩
      cases h

/-- **What two computations do one after the other.** -/
theorem bind_eq_ok : (x >>= f) i = .ok b k ↔ ∃ a j, x i = .ok a j ∧ f a j = .ok b k := by
  show EStateM.bind x f i = _ ↔ _
  unfold EStateM.bind
  cases x i with
  | ok a j =>
    constructor
    · intro h
      exact ⟨a, j, rfl, h⟩
    · rintro ⟨_, _, h, done⟩
      cases h
      exact done
  | error e j =>
    constructor
    · intro h
      cases h
    · rintro ⟨_, _, h, -⟩
      cases h

/-- The second computation begins at the moment at which the first has ended. -/
theorem bind_of_ok (h : x i = .ok a j) : (x >>= f) i = f a j := by
  show EStateM.bind x f i = _
  unfold EStateM.bind
  rw [h]

theorem pure_eq_ok {a' : α} : (pure a : Asking ε α) i = .ok a' j ↔ a = a' ∧ i = j := by
  constructor
  · intro h
    cases h
    exact ⟨rfl, rfl⟩
  · rintro ⟨rfl, rfl⟩
    rfl

theorem found_eq_ok {e : ε} {o : Option α} :
    found e o i = .ok a j ↔ o = some a ∧ i = j := by
  cases o with
  | some value =>
    constructor
    · intro h
      cases h
      exact ⟨rfl, rfl⟩
    · rintro ⟨h, rfl⟩
      cases h
      rfl
  | none =>
    constructor
    · intro h
      cases h
    · rintro ⟨h, -⟩
      cases h

/-- A question that may stay open is answered, or read as the default. -/
theorem getD_ask {answer : ℕ → Except ε α} {default : α} :
    (getD (ask answer) default : Asking ε' α) i =
      .ok ((answer i).toOption.getD default) (i + 1) := by
  unfold getD ask
  cases answer i <;> rfl

/-! ## Moments go up -/

/-- The moment at which a computation has ended, with an answer or without. -/
def Result.moment : EStateM.Result ε ℕ α → ℕ
  | .ok _ j => j
  | .error _ j => j

/-- A computation that does not go back in time. -/
def Forward (x : Asking ε α) : Prop := ∀ i, i ≤ Result.moment (x i)

theorem Forward.ok (h : Forward x) (hx : x i = .ok a j) : i ≤ j := by
  have := h i
  rwa [hx] at this

theorem Forward.error {e : ε} (h : Forward x) (hx : x i = .error e j) : i ≤ j := by
  have := h i
  rwa [hx] at this

theorem forward_ask {answer : ℕ → Except ε α} : Forward (ask answer) := by
  intro i
  unfold ask
  cases answer i <;> exact Nat.le_succ i

theorem forward_pure : Forward (pure a : Asking ε α) := fun _ => Nat.le_refl _

theorem forward_found {e : ε} {o : Option α} : Forward (found e o) := by
  intro i
  cases o <;> exact Nat.le_refl _

/-- One after the other they do not go back either. -/
theorem forward_bind (hx : Forward x) (hf : ∀ a, Forward (f a)) : Forward (x >>= f) := by
  intro i
  show i ≤ Result.moment (EStateM.bind x f i)
  unfold EStateM.bind
  cases here : x i with
  | ok a j => exact Nat.le_trans (hx.ok here) (hf a j)
  | error e j => exact hx.error here

theorem forward_getD (hx : Forward x) : Forward (getD x a : Asking ε' α) := by
  intro i
  unfold getD
  cases here : x i with
  | ok a j => exact hx.ok here
  | error e j => exact hx.error here

end Asking
