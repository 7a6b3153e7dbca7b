import Mathlib.Data.List.Infix
import Mathlib.Tactic.Common

/-!
# Replacing a part of a list

`replaceAll pat new s` goes through `s` from the left and puts `new` in the place of every
occurrence of `pat`, never looking into an occurrence it has already replaced. `Replaced` is the
same as a relation, with one rule for an element that is kept and one for an occurrence, and is
what proofs about it go by induction on.

Where the replacement is shorter than the pattern, a list comes through unchanged exactly if the
pattern does not occur in it (`Replaced.eq_or_shorter`).
-/

namespace Replace

variable {α : Type}

/-! ## Replaced lists -/

/-- The second list is the first with every occurrence replaced. -/
inductive Replaced (pat new : List α) : List α → List α → Prop where
  | nil : Replaced pat new [] []
  | keep {c : α} {s t : List α} (no : ¬ pat <+: c :: s) (rest : Replaced pat new s t) :
      Replaced pat new (c :: s) (c :: t)
  | swap {s t : List α} (rest : Replaced pat new s t) : Replaced pat new (pat ++ s) (new ++ t)

namespace Replaced

variable {pat new s t : List α}

/-- A replacement that leaves elements out leaves elements out. -/
theorem sublist (h : Replaced pat new s t) (part : new.Sublist pat) : t.Sublist s := by
  induction h with
  | nil => exact List.Sublist.refl _
  | keep _ _ ih => exact ih.cons_cons _
  | swap _ ih => exact part.append ih

/-- What holds of every element of the pattern and of its replacement holds all over the one
    list exactly if it holds all over the other. -/
theorem forall_iff (h : Replaced pat new s t) {P : α → Prop} (hpat : ∀ c ∈ pat, P c)
    (hnew : ∀ c ∈ new, P c) : (∀ c ∈ t, P c) ↔ ∀ c ∈ s, P c := by
  induction h with
  | nil => exact Iff.rfl
  | keep _ _ ih => rw [List.forall_mem_cons, List.forall_mem_cons, ih]
  | swap _ ih =>
    rw [List.forall_mem_append, List.forall_mem_append, ih, and_iff_right hnew,
      and_iff_right hpat]

/-- **A list comes through unchanged, or an occurrence has made it shorter.** -/
theorem eq_or_shorter (h : Replaced pat new s t) (hpat : new.length < pat.length) :
    (t = s ∧ ¬ pat <:+: s) ∨ (t.length < s.length ∧ pat <:+: s) := by
  induction h with
  | nil =>
    left
    refine ⟨rfl, ?_⟩
    intro occurs
    rw [List.infix_nil.mp occurs] at hpat
    cases hpat
  | keep no _ ih =>
    rcases ih with ⟨rfl, absent⟩ | ⟨shorter, occurs⟩
    · left
      refine ⟨rfl, ?_⟩
      rw [List.infix_cons_iff]
      exact not_or.mpr ⟨no, absent⟩
    · right
      exact ⟨Nat.succ_lt_succ shorter, List.infix_cons occurs⟩
  | swap _ ih =>
    right
    refine ⟨?_, (List.prefix_append _ _).isInfix⟩
    rw [List.length_append, List.length_append]
    rcases ih with ⟨rfl, -⟩ | ⟨shorter, -⟩ <;> omega

theorem eq_self_iff (h : Replaced pat new s t) (hpat : new.length < pat.length) :
    t = s ↔ ¬ pat <:+: s := by
  rcases h.eq_or_shorter hpat with ⟨rfl, absent⟩ | ⟨shorter, occurs⟩
  · exact iff_of_true rfl absent
  · refine iff_of_false ?_ (not_not_intro occurs)
    rintro rfl
    exact lt_irrefl _ shorter

end Replaced

/-! ## The walk -/

section Walk

variable [DecidableEq α] {pat new s : List α} {c : α}

/-- The walk over the list; the first argument counts the elements of an occurrence that are
    still to be skipped. -/
def walk (pat new : List α) : ℕ → List α → List α
  | _, [] => []
  | skip + 1, _ :: s => walk pat new skip s
  | 0, c :: s =>
      if pat.isPrefixOf (c :: s) then new ++ walk pat new (pat.length - 1) s
      else c :: walk pat new 0 s

def replaceAll (pat new s : List α) : List α := walk pat new 0 s

theorem walk_eq_drop (skip : ℕ) : walk pat new skip s = walk pat new 0 (s.drop skip) := by
  induction s generalizing skip with
  | nil => cases skip <;> rfl
  | cons c s ih =>
    cases skip with
    | zero => rfl
    | succ skip => exact ih skip

theorem replaceAll_cons_of_not (no : ¬ pat <+: c :: s) :
    replaceAll pat new (c :: s) = c :: replaceAll pat new s := by
  unfold replaceAll
  rw [walk, if_neg (by rwa [List.isPrefixOf_iff_prefix])]

theorem replaceAll_append (hpat : pat ≠ []) :
    replaceAll pat new (pat ++ s) = new ++ replaceAll pat new s := by
  cases pat with
  | nil => exact absurd rfl hpat
  | cons p ps =>
    have found : (p :: ps).isPrefixOf (p :: (ps ++ s)) = true :=
      List.isPrefixOf_iff_prefix.mpr (List.prefix_append (p :: ps) s)
    show walk (p :: ps) new 0 (p :: (ps ++ s)) = _
    rw [walk, if_pos found, walk_eq_drop]
    simp [replaceAll]

/-- **The walk replaces every occurrence.** -/
theorem replaced_replaceAll (hpat : pat ≠ []) (s : List α) :
    Replaced pat new s (replaceAll pat new s) := by
  induction h : s.length using Nat.strong_induction_on generalizing s with
  | _ n ih =>
    by_cases occurs : pat <+: s
    · obtain ⟨rest, rfl⟩ := occurs
      rw [replaceAll_append hpat]
      refine .swap (ih rest.length ?_ rest rfl)
      have := List.length_pos_of_ne_nil hpat
      rw [← h, List.length_append]
      omega
    · cases s with
      | nil => exact .nil
      | cons c s =>
        rw [replaceAll_cons_of_not occurs]
        exact .keep occurs (ih s.length (by rw [← h]; exact Nat.lt_succ_self _) s rfl)

end Walk

end Replace
