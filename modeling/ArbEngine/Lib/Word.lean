import Mathlib.Data.BitVec

/-!
# Checked arithmetic on machine words

The `checked_*` and `saturating_*` operations of a fixed-width unsigned type, over
`BitVec w` for every width. A checked operation answers `none` exactly when the
mathematical result does not fit, so its specification is an equation between natural
numbers: the bound is carried by the result's type and never has to be restated.
-/

namespace Word

variable {w : ℕ} {a b c : BitVec w}

/-- `checked_add` -/
def checkedAdd (a b : BitVec w) : Option (BitVec w) :=
  if a.toNat + b.toNat < 2 ^ w then some (a + b) else none

/-- `checked_sub` -/
def checkedSub (a b : BitVec w) : Option (BitVec w) :=
  if b.toNat ≤ a.toNat then some (a - b) else none

/-- `checked_mul` -/
def checkedMul (a b : BitVec w) : Option (BitVec w) :=
  if a.toNat * b.toNat < 2 ^ w then some (a * b) else none

/-- `saturating_add` -/
def saturatingAdd (a b : BitVec w) : BitVec w :=
  (checkedAdd a b).getD (BitVec.allOnes w)

/-- `saturating_sub` -/
def saturatingSub (a b : BitVec w) : BitVec w :=
  (checkedSub a b).getD 0#w

theorem checkedAdd_eq_some : checkedAdd a b = some c ↔ c.toNat = a.toNat + b.toNat := by
  unfold checkedAdd
  by_cases h : a.toNat + b.toNat < 2 ^ w
  · rw [if_pos h, Option.some.injEq, ← BitVec.toNat_inj, BitVec.toNat_add_of_lt h]
    exact eq_comm
  · have hc : c.toNat < 2 ^ w := c.isLt
    simp only [if_neg h, reduceCtorEq, false_iff]
    omega

theorem checkedSub_eq_some :
    checkedSub a b = some c ↔ b.toNat ≤ a.toNat ∧ c.toNat = a.toNat - b.toNat := by
  unfold checkedSub
  by_cases h : b.toNat ≤ a.toNat
  · rw [if_pos h, Option.some.injEq, ← BitVec.toNat_inj,
      BitVec.toNat_sub_of_le (BitVec.le_def.mpr h)]
    exact ⟨fun hc => ⟨h, hc.symm⟩, fun hc => hc.2.symm⟩
  · simp [h]

theorem checkedMul_eq_some : checkedMul a b = some c ↔ c.toNat = a.toNat * b.toNat := by
  unfold checkedMul
  by_cases h : a.toNat * b.toNat < 2 ^ w
  · rw [if_pos h, Option.some.injEq, ← BitVec.toNat_inj, BitVec.toNat_mul_of_lt h]
    exact eq_comm
  · have hc : c.toNat < 2 ^ w := c.isLt
    simp only [if_neg h, reduceCtorEq, false_iff]
    omega

/-! ## Results that fit -/

theorem checkedAdd_of_lt (h : a.toNat + b.toNat < 2 ^ w) :
    ∃ c, checkedAdd a b = some c ∧ c.toNat = a.toNat + b.toNat :=
  ⟨a + b, by rw [checkedAdd, if_pos h], BitVec.toNat_add_of_lt h⟩

theorem checkedSub_of_le (h : b.toNat ≤ a.toNat) :
    ∃ c, checkedSub a b = some c ∧ c.toNat = a.toNat - b.toNat :=
  ⟨a - b, by rw [checkedSub, if_pos h], BitVec.toNat_sub_of_le (BitVec.le_def.mpr h)⟩

theorem checkedMul_of_lt (h : a.toNat * b.toNat < 2 ^ w) :
    ∃ c, checkedMul a b = some c ∧ c.toNat = a.toNat * b.toNat :=
  ⟨a * b, by rw [checkedMul, if_pos h], BitVec.toNat_mul_of_lt h⟩

/-- A product that does not fit is replaced. -/
theorem toNat_getD_checkedMul (a b d : BitVec w) :
    ((checkedMul a b).getD d).toNat =
      if a.toNat * b.toNat < 2 ^ w then a.toNat * b.toNat else d.toNat := by
  by_cases h : a.toNat * b.toNat < 2 ^ w
  · obtain ⟨c, hc, value⟩ := checkedMul_of_lt h
    rw [hc, Option.getD_some, value, if_pos h]
  · rw [checkedMul, if_neg h, if_neg h, Option.getD_none]

/-- Every number in range is the value of a word. -/
theorem exists_toNat_eq {n : ℕ} (h : n < 2 ^ w) : ∃ a : BitVec w, a.toNat = n :=
  ⟨BitVec.ofNat w n, by rw [BitVec.toNat_ofNat, Nat.mod_eq_of_lt h]⟩

/-- Away from the top value a saturating sum is the sum. -/
theorem toNat_saturatingAdd (h : a.toNat + b.toNat < 2 ^ w) :
    (saturatingAdd a b).toNat = a.toNat + b.toNat := by
  unfold saturatingAdd checkedAdd
  rw [if_pos h, Option.getD_some, BitVec.toNat_add_of_lt h]

theorem toNat_saturatingSub : (saturatingSub a b).toNat = a.toNat - b.toNat := by
  unfold saturatingSub
  by_cases h : b.toNat ≤ a.toNat
  · obtain ⟨c, hc, value⟩ := checkedSub_of_le h
    rw [hc, Option.getD_some, value]
  · rw [checkedSub, if_neg h, Option.getD_none, BitVec.toNat_ofNat, Nat.zero_mod]
    omega

end Word
