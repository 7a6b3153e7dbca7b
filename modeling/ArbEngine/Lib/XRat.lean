import Mathlib.Algebra.Order.Field.Rat
import Mathlib.Tactic.Common

/-!
# Exact values with infinities

What a floating-point expression is worth when its roundings are left out: a rational, an
infinity, or no number. A rational divided by zero is an infinity, zero by zero is no number,
and a comparison with what is no number is false. Zero has one sign here, the positive one.

A value that is known to be a rational is computed with as a rational: `fin_sub`, `fin_mul`,
`fin_div`, `fin_lt` and `fin_le` are simp lemmas, and `toFin` asks which values are.
-/

inductive XRat where
  | fin (x : ℚ)
  | inf (negative : Bool)
  | nan
deriving DecidableEq, Repr

namespace XRat

instance : Coe ℚ XRat := ⟨fin⟩

/-- The rational a value is, if it is one. -/
def toFin : XRat → Option ℚ
  | fin x => some x
  | inf _ => none
  | nan => none

/-! ## Arithmetic -/

protected def neg : XRat → XRat
  | fin x => fin (-x)
  | inf s => inf !s
  | nan => nan

protected def add : XRat → XRat → XRat
  | fin x, fin y => fin (x + y)
  | fin _, inf s => inf s
  | inf s, fin _ => inf s
  | inf s, inf t => if s = t then inf s else nan
  | nan, _ => nan
  | _, nan => nan

protected def mul : XRat → XRat → XRat
  | fin x, fin y => fin (x * y)
  | fin x, inf s => if x = 0 then nan else inf (s != decide (x < 0))
  | inf s, fin y => if y = 0 then nan else inf (s != decide (y < 0))
  | inf s, inf t => inf (s != t)
  | nan, _ => nan
  | _, nan => nan

protected def div : XRat → XRat → XRat
  | fin x, fin y =>
      if y = 0 then (if x = 0 then nan else inf (decide (x < 0))) else fin (x / y)
  | fin _, inf _ => fin 0
  | inf s, fin y => inf (s != decide (y < 0))
  | inf _, inf _ => nan
  | nan, _ => nan
  | _, nan => nan

instance : Neg XRat := ⟨XRat.neg⟩
instance : Add XRat := ⟨XRat.add⟩
instance : Sub XRat := ⟨fun a b => a + -b⟩
instance : Mul XRat := ⟨XRat.mul⟩
instance : Div XRat := ⟨XRat.div⟩

/-! ## Comparison -/

protected def lt : XRat → XRat → Prop
  | fin x, fin y => x < y
  | fin _, inf s => s = false
  | inf s, fin _ => s = true
  | inf s, inf t => s = true ∧ t = false
  | nan, _ => False
  | _, nan => False

protected def le : XRat → XRat → Prop
  | fin x, fin y => x ≤ y
  | fin _, inf s => s = false
  | inf s, fin _ => s = true
  | inf s, inf t => s = true ∨ t = false
  | nan, _ => False
  | _, nan => False

instance : LT XRat := ⟨XRat.lt⟩
instance : LE XRat := ⟨XRat.le⟩

instance : DecidableLT XRat
  | fin x, fin y => inferInstanceAs (Decidable (x < y))
  | fin _, inf s => inferInstanceAs (Decidable (s = false))
  | inf s, fin _ => inferInstanceAs (Decidable (s = true))
  | inf s, inf t => inferInstanceAs (Decidable (s = true ∧ t = false))
  | nan, fin _ => inferInstanceAs (Decidable False)
  | nan, inf _ => inferInstanceAs (Decidable False)
  | nan, nan => inferInstanceAs (Decidable False)
  | fin _, nan => inferInstanceAs (Decidable False)
  | inf _, nan => inferInstanceAs (Decidable False)

instance : DecidableLE XRat
  | fin x, fin y => inferInstanceAs (Decidable (x ≤ y))
  | fin _, inf s => inferInstanceAs (Decidable (s = false))
  | inf s, fin _ => inferInstanceAs (Decidable (s = true))
  | inf s, inf t => inferInstanceAs (Decidable (s = true ∨ t = false))
  | nan, fin _ => inferInstanceAs (Decidable False)
  | nan, inf _ => inferInstanceAs (Decidable False)
  | nan, nan => inferInstanceAs (Decidable False)
  | fin _, nan => inferInstanceAs (Decidable False)
  | inf _, nan => inferInstanceAs (Decidable False)

/-! ## Rationals among them -/

variable {a b : XRat} {x y : ℚ} {s : Bool}

theorem toFin_eq_some : a.toFin = some x ↔ a = fin x := by
  cases a <;> simp [toFin]

@[simp] theorem fin_sub : fin x - fin y = fin (x - y) := by
  show fin (x + -y) = _
  rw [sub_eq_add_neg]

@[simp] theorem fin_mul : fin x * fin y = fin (x * y) := rfl

@[simp] theorem fin_div (h : y ≠ 0) : fin x / fin y = fin (x / y) := if_neg h

@[simp] theorem fin_lt : fin x < fin y ↔ x < y := Iff.rfl

@[simp] theorem fin_le : fin x ≤ fin y ↔ x ≤ y := Iff.rfl

/-- A product is a rational only if both factors are. -/
theorem mul_eq_fin (h : a * b = fin x) : ∃ y z, a = fin y ∧ b = fin z ∧ y * z = x := by
  cases a with
  | fin y =>
    cases b with
    | fin z =>
      cases h
      exact ⟨y, z, rfl, rfl, rfl⟩
    | inf s =>
      change (if y = 0 then nan else inf _) = _ at h
      split at h <;> cases h
    | nan => cases h
  | inf s =>
    cases b with
    | fin z =>
      change (if z = 0 then nan else inf _) = _ at h
      split at h <;> cases h
    | inf t => cases h
    | nan => cases h
  | nan => cases b <;> cases h

/-- A quotient by a rational is a rational only if the divisor is not zero and the dividend is
    a rational. -/
theorem div_fin_eq_fin (h : a / fin y = fin x) : ∃ z, y ≠ 0 ∧ a = fin z ∧ z / y = x := by
  cases a with
  | fin z =>
    change (if y = 0 then (if z = 0 then nan else inf _) else fin (z / y)) = _ at h
    split at h
    · split at h <;> cases h
    · rename_i hy
      cases h
      exact ⟨z, hy, rfl, rfl⟩
  | inf s => cases h
  | nan => cases h

/-- A difference is a rational only if both sides are. -/
theorem sub_eq_fin (h : a - b = fin x) : ∃ y z, a = fin y ∧ b = fin z ∧ y - z = x := by
  cases a with
  | fin y =>
    cases b with
    | fin z =>
      rw [fin_sub] at h
      cases h
      exact ⟨y, z, rfl, rfl, rfl⟩
    | inf s => cases h
    | nan => cases h
  | inf s =>
    cases b with
    | fin z => cases h
    | inf t =>
      change (if s = !t then inf s else nan) = _ at h
      split at h <;> cases h
    | nan => cases h
  | nan => cases b <;> cases h

end XRat
