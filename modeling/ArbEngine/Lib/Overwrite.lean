import Mathlib.Data.List.Induction
import Mathlib.Tactic.Common

/-!
# Loading a map entry by entry

`insertAll m entries` inserts the entries into the map `m` one after the other, so that an
entry overwrites an earlier one with the same key. What is found under a key afterwards is
the last entry with that key (`insertAll_apply`); nothing is found that was not inserted
(`insertAll_of_notMem`), and where all entries with a key carry one value it is that value
(`insertAll_of_agree`).
-/

namespace Overwrite

variable {κ β : Type} [DecidableEq κ]

def insertAll (m : κ → Option β) (entries : List (κ × β)) : κ → Option β :=
  entries.foldl (fun m e k => if k = e.1 then some e.2 else m k) m

theorem insertAll_nil (m : κ → Option β) : insertAll m [] = m := rfl

theorem insertAll_cons (m : κ → Option β) (e : κ × β) (entries : List (κ × β)) :
    insertAll m (e :: entries) = insertAll (fun k => if k = e.1 then some e.2 else m k) entries :=
  rfl

theorem insertAll_append (m : κ → Option β) (xs ys : List (κ × β)) :
    insertAll m (xs ++ ys) = insertAll (insertAll m xs) ys :=
  List.foldl_append

theorem insertAll_of_notMem {m : κ → Option β} {entries : List (κ × β)} {k : κ}
    (h : ∀ e ∈ entries, e.1 ≠ k) : insertAll m entries k = m k := by
  induction entries generalizing m with
  | nil => rfl
  | cons e entries ih =>
    rw [insertAll_cons, ih fun e' he' => h e' (List.mem_cons_of_mem e he')]
    have hne : ¬k = e.1 := fun hk => h e (List.mem_cons_self ..) hk.symm
    rw [if_neg hne]

/-- **The last entry with the key is found.** -/
theorem insertAll_apply (m : κ → Option β) (entries : List (κ × β)) (k : κ) :
    insertAll m entries k =
      ((entries.filter fun e => e.1 = k).getLast?.map Prod.snd).or (m k) := by
  induction entries using List.reverseRecOn with
  | nil => rfl
  | append_singleton entries e ih =>
    rw [insertAll_append, insertAll_cons, insertAll_nil]
    by_cases hk : e.1 = k
    · simp [List.filter_append, hk]
    · have hk' : ¬k = e.1 := fun h => hk h.symm
      rw [if_neg hk', ih, List.filter_append]
      simp [hk]

/-- What is found under a key that was inserted is one of its entries. -/
theorem exists_of_mem_keys {m : κ → Option β} {entries : List (κ × β)} {k : κ}
    (h : k ∈ entries.map Prod.fst) :
    ∃ e ∈ entries, e.1 = k ∧ insertAll m entries k = some e.2 := by
  obtain ⟨e, he, rfl⟩ := List.mem_map.mp h
  have own : e ∈ entries.filter fun e' => e'.1 = e.1 := List.mem_filter.mpr ⟨he, decide_eq_true rfl⟩
  rw [insertAll_apply]
  cases last : (entries.filter fun e' => e'.1 = e.1).getLast? with
  | none =>
    rw [List.getLast?_eq_none_iff.mp last] at own
    cases own
  | some found =>
    obtain ⟨hfound, key⟩ := List.mem_filter.mp (List.mem_of_getLast? last)
    exact ⟨found, hfound, of_decide_eq_true key, rfl⟩

/-- Entries with the key that all carry one value. -/
theorem insertAll_of_agree {m : κ → Option β} {entries : List (κ × β)} {k : κ} {b : β}
    (agree : ∀ e ∈ entries, e.1 = k → e.2 = b) (h : (k, b) ∈ entries) :
    insertAll m entries k = some b := by
  have hmem : (k, b) ∈ entries.filter fun e => e.1 = k := by
    rw [List.mem_filter]
    exact ⟨h, decide_eq_true rfl⟩
  rw [insertAll_apply]
  cases hl : (entries.filter fun e => e.1 = k).getLast? with
  | none =>
    rw [List.getLast?_eq_none_iff.mp hl] at hmem
    cases hmem
  | some e =>
    obtain ⟨he, hk⟩ := List.mem_filter.mp (List.mem_of_getLast? hl)
    rw [Option.map_some, agree e he (of_decide_eq_true hk)]
    rfl

end Overwrite
