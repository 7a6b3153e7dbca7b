import Mathlib.Tactic.Common

/-!
# Outcomes of a fallible call

A call either hands back a value, reports an error as a value of its own (`err`), or
panics. The three are kept apart because callers treat them differently: an `err` is
data that a caller can match on and turn into a default, a `panic` takes the whole
computation down and nothing above it gets to answer.

`bind_eq_ok` is the one lemma the proofs downstream use to take a successful `do` block
apart: a block that answered `ok` answered `ok` at every one of its steps. `bind_eq_err` is
its counterpart for a block that reported an error.
-/

/-- What a call that may fail hands back. -/
inductive Outcome (α : Type) where
  | ok (a : α)
  | err (msg : String)
  | panic
deriving DecidableEq, Repr

namespace Outcome

variable {α β : Type}

/-- Sequencing: the first failure is the answer of the whole block. -/
protected def bind : Outcome α → (α → Outcome β) → Outcome β
  | .ok a, f => f a
  | .err msg, _ => .err msg
  | .panic, _ => .panic

instance : Monad Outcome where
  pure := .ok
  bind := Outcome.bind

@[simp] theorem pure_eq_ok (a : α) : (pure a : Outcome α) = .ok a := rfl

@[simp] theorem ok_bind (a : α) (f : α → Outcome β) : (Outcome.ok a >>= f) = f a := rfl

@[simp] theorem err_bind (msg : String) (f : α → Outcome β) :
    (Outcome.err msg >>= f) = .err msg := rfl

@[simp] theorem panic_bind (f : α → Outcome β) : (Outcome.panic >>= f) = .panic := rfl

/-- **A block that succeeded succeeded at each step.** -/
theorem bind_eq_ok {x : Outcome α} {f : α → Outcome β} {b : β} :
    x >>= f = .ok b ↔ ∃ a, x = .ok a ∧ f a = .ok b := by
  cases x with
  | ok a => simp
  | err msg => simp
  | panic => simp

/-- A block that reported an error got it from one of its steps. -/
theorem bind_eq_err {x : Outcome α} {f : α → Outcome β} {s : String} :
    x >>= f = .err s ↔ x = .err s ∨ ∃ a, x = .ok a ∧ f a = .err s := by
  cases x with
  | ok a => simp
  | err msg => simp
  | panic => simp

/-- `Option::ok_or`: an absent value becomes an error with this text. -/
def okOr (msg : String) : Option α → Outcome α
  | some a => .ok a
  | none => .err msg

/-- `Option::unwrap`: an absent value takes the computation down. -/
def unwrap : Option α → Outcome α
  | some a => .ok a
  | none => .panic

/-- A value that must satisfy a check, or the computation goes down. -/
def guardPanic (p : Prop) [Decidable p] : Outcome Unit :=
  if p then .ok () else .panic

@[simp] theorem okOr_some (msg : String) (a : α) : okOr msg (some a) = .ok a := rfl

@[simp] theorem unwrap_some (a : α) : unwrap (some a) = .ok a := rfl

@[simp] theorem okOr_eq_ok {msg : String} {o : Option α} {a : α} :
    okOr msg o = .ok a ↔ o = some a := by
  cases o <;> simp [okOr]

@[simp] theorem okOr_eq_err {msg s : String} {o : Option α} :
    okOr msg o = .err s ↔ o = none ∧ msg = s := by
  cases o <;> simp [okOr]

@[simp] theorem unwrap_ne_err {o : Option α} {s : String} : unwrap o ≠ .err s := by
  cases o <;> simp [unwrap]

@[simp] theorem unwrap_eq_ok {o : Option α} {a : α} : unwrap o = .ok a ↔ o = some a := by
  cases o <;> simp [unwrap]

@[simp] theorem guardPanic_eq_ok {p : Prop} [Decidable p] {u : Unit} :
    guardPanic p = .ok u ↔ p := by
  unfold guardPanic
  by_cases h : p <;> simp [h]

/-- An absent value that is an error takes nothing down. -/
theorem okOr_bind_eq_panic {msg : String} {o : Option α} {f : α → Outcome β} :
    okOr msg o >>= f = .panic ↔ ∃ a, o = some a ∧ f a = .panic := by
  cases o <;> simp [okOr]

/-- The value of a call that succeeded. -/
def toOption : Outcome α → Option α
  | .ok a => some a
  | .err _ => none
  | .panic => none

theorem toOption_eq_some {x : Outcome α} {a : α} : x.toOption = some a ↔ x = .ok a := by
  cases x <;> simp [toOption]

/-- `Result::map_err`: an error gets another text. -/
def mapErr (f : String → String) : Outcome α → Outcome α
  | .ok a => .ok a
  | .err msg => .err (f msg)
  | .panic => .panic

@[simp] theorem mapErr_ok (f : String → String) (a : α) : mapErr f (.ok a) = .ok a := rfl

/-- `Result::ok`: an error becomes an absent value, a panic stays one. -/
def discardErr : Outcome α → Outcome (Option α)
  | .ok a => .ok (some a)
  | .err _ => .ok none
  | .panic => .panic

@[simp] theorem discardErr_eq_some {x : Outcome α} {a : α} :
    x.discardErr = .ok (some a) ↔ x = .ok a := by
  cases x <;> simp [discardErr]

theorem discardErr_eq_toOption {x : Outcome α} (h : x ≠ .panic) :
    x.discardErr = .ok x.toOption := by
  cases x with
  | ok a => rfl
  | err msg => rfl
  | panic => exact absurd rfl h

/-! ## Computations that report no error

They answer or they panic; a caller's `?` on one of them never fires. -/

/-- The computation does not answer `err`. -/
def NoErr (x : Outcome α) : Prop := ∀ s, x ≠ .err s

theorem noErr_ok {a : α} : NoErr (.ok a) := by
  intro s h
  cases h

theorem noErr_panic : NoErr (.panic : Outcome α) := by
  intro s h
  cases h

theorem noErr_unwrap {o : Option α} : NoErr (unwrap o) := fun _ => unwrap_ne_err

theorem NoErr.bind {x : Outcome α} {f : α → Outcome β} (hx : NoErr x) (hf : ∀ a, NoErr (f a)) :
    NoErr (x >>= f) := by
  intro s h
  rcases bind_eq_err.mp h with h | ⟨a, _, h⟩
  · exact hx s h
  · exact hf a s h

theorem NoErr.ite {p : Prop} [Decidable p] {x y : Outcome α} (hx : NoErr x) (hy : NoErr y) :
    NoErr (if p then x else y) := by
  by_cases h : p
  · rw [if_pos h]
    exact hx
  · rw [if_neg h]
    exact hy

end Outcome
