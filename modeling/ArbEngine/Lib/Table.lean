import Mathlib.Algebra.BigOperators.Group.List.Basic
import Mathlib.Data.List.Induction
import Mathlib.Data.List.Nodup
import Mathlib.Order.Lattice
import Mathlib.Tactic.Common

/-!
# Tables with a primary key

Rows are inserted one by one, and an insertion is refused where the key is there already. What is
in the table afterwards are the first rows of each key (`firsts_insertAll`). A query that orders by
a column answers with the rows in some such order (`Selection`); rows that agree in the column may
come in any order.

`cumulate` is the running total over such an answer. At any time it is the sum of all rows up to
that time (`totalAt_cumulate`), so it does not depend on which answer was given.
-/

namespace Table

/-! ## Insertions -/

section

variable {ρ κ : Type}

/-- The rows are the first ones of each key. -/
structure Firsts (key : ρ → κ) (new rows : List ρ) : Prop where
  sublist : rows.Sublist new
  distinct : (rows.map key).Nodup
  first : ∀ row ∈ rows, ∃ before after, new = before ++ row :: after ∧
    ∀ earlier ∈ before, key earlier ≠ key row
  complete : ∀ row ∈ new, key row ∈ rows.map key

variable {key : ρ → κ} {new rows : List ρ} {row : ρ}

theorem Firsts.refused (h : Firsts key new rows) (known : key row ∈ rows.map key) :
    Firsts key (new ++ [row]) rows where
  sublist := h.sublist.trans (List.sublist_append_left new [row])
  distinct := h.distinct
  first r hr := by
    obtain ⟨before, after, rfl, earlier⟩ := h.first r hr
    exact ⟨before, after ++ [row], by simp, earlier⟩
  complete r hr := by
    rcases List.mem_append.mp hr with hr | hr
    · exact h.complete r hr
    · rw [List.mem_singleton.mp hr]
      exact known

theorem Firsts.inserted (h : Firsts key new rows) (fresh : key row ∉ rows.map key) :
    Firsts key (new ++ [row]) (rows ++ [row]) where
  sublist := h.sublist.append (List.Sublist.refl [row])
  distinct := by
    rw [List.map_append, List.map_singleton, List.nodup_append_comm]
    exact List.nodup_cons.mpr ⟨fresh, h.distinct⟩
  first r hr := by
    rcases List.mem_append.mp hr with hr | hr
    · obtain ⟨before, after, rfl, earlier⟩ := h.first r hr
      exact ⟨before, after ++ [row], by simp, earlier⟩
    · rw [List.mem_singleton.mp hr]
      refine ⟨new, [], rfl, fun earlier hearlier same => fresh ?_⟩
      rw [← same]
      exact h.complete earlier hearlier
  complete r hr := by
    rw [List.map_append, List.mem_append]
    rcases List.mem_append.mp hr with hr | hr
    · exact .inl (h.complete r hr)
    · rw [List.mem_singleton.mp hr]
      exact .inr List.mem_cons_self

variable [DecidableEq κ] (key)

def insert (rows : List ρ) (row : ρ) : Option (List ρ) :=
  if key row ∈ rows.map key then none else some (rows ++ [row])

/-- Insertions whose refusal is ignored. -/
def insertAll (rows : List ρ) (new : List ρ) : List ρ :=
  new.foldl (fun rows row => (insert key rows row).getD rows) rows

theorem insertAll_append (rows : List ρ) (new : List ρ) (row : ρ) :
    insertAll key rows (new ++ [row]) =
      (insert key (insertAll key rows new) row).getD (insertAll key rows new) := by
  simp only [insertAll, List.foldl_append, List.foldl_cons, List.foldl_nil]

/-- A table of images under a function that keeps the keys. -/
theorem map_insertAll {σ : Type} {key' : σ → κ} (f : ρ → σ) (keys : ∀ row, key' (f row) = key row)
    (new : List ρ) : (insertAll key [] new).map f = insertAll key' [] (new.map f) := by
  have keys' : ∀ rows : List ρ, (rows.map f).map key' = rows.map key := by
    intro rows
    rw [List.map_map]
    exact List.map_congr_left fun row _ => keys row
  induction new using List.reverseRecOn with
  | nil => rfl
  | append_singleton new row ih =>
    rw [List.map_append, List.map_singleton, insertAll_append, insertAll_append, ← ih, insert,
      insert, keys, keys']
    by_cases known : key row ∈ (insertAll key [] new).map key
    · rw [if_pos known, if_pos known]
      rfl
    · rw [if_neg known, if_neg known, Option.getD_some, Option.getD_some, List.map_append,
        List.map_singleton]

/-- **An empty table takes the first row of each key.** -/
theorem firsts_insertAll (new : List ρ) : Firsts key new (insertAll key [] new) := by
  induction new using List.reverseRecOn with
  | nil => exact ⟨List.Sublist.refl [], List.nodup_nil, nofun, nofun⟩
  | append_singleton new row ih =>
    rw [insertAll_append, insert]
    by_cases known : key row ∈ (insertAll key [] new).map key
    · rw [if_pos known]
      exact ih.refused known
    · rw [if_neg known]
      exact ih.inserted known

end

/-! ## Answers in order -/

section

variable {ρ τ : Type} [LinearOrder τ] (column : ρ → τ)

/-- `SELECT * .. ORDER BY column ASC` -/
structure Selection (rows answer : List ρ) : Prop where
  perm : answer.Perm rows
  sorted : answer.Pairwise fun a b => column a ≤ column b

end

section

variable {τ M : Type}

/-- The running total, from a start. -/
def cumulate [Add M] (start : M) : List (τ × M) → List (τ × M)
  | [] => []
  | (t, x) :: rest => (t, start + x) :: cumulate (start + x) rest

theorem map_fst_cumulate [Add M] (start : M) (entries : List (τ × M)) :
    (cumulate start entries).map Prod.fst = entries.map Prod.fst := by
  induction entries generalizing start with
  | nil => rfl
  | cons e entries ih => rw [cumulate, List.map_cons, List.map_cons, ih]

variable [LinearOrder τ]

/-- What a series says at a time: its last value up to then. -/
def totalAt (start : M) (series : List (τ × M)) (t : τ) : M :=
  ((series.filter fun e => e.1 ≤ t).getLast?.map Prod.snd).getD start

theorem totalAt_cons {start x : M} {time t : τ} {series : List (τ × M)} (h : time ≤ t) :
    totalAt start ((time, x) :: series) t = totalAt x series t := by
  simp only [totalAt, List.filter_cons, h, decide_true, if_true, List.getLast?_cons,
    Option.map_some, Option.getD_some]
  cases (series.filter fun e => e.1 ≤ t).getLast? <;> rfl

theorem totalAt_of_later {start : M} {series : List (τ × M)} {t : τ}
    (later : ∀ e ∈ series, t < e.1) : totalAt start series t = start := by
  have none : series.filter (fun e => e.1 ≤ t) = [] := by
    rw [List.filter_eq_nil_iff]
    intro e he hle
    exact absurd (of_decide_eq_true hle) (not_le.mpr (later e he))
  rw [totalAt, none]
  rfl

/-- **The running total is the sum of what came before.** -/
theorem totalAt_cumulate [AddCommMonoid M] {entries : List (τ × M)}
    (sorted : entries.Pairwise fun a b => a.1 ≤ b.1)
    (start : M) (t : τ) :
    totalAt start (cumulate start entries) t =
      start + ((entries.filter fun e => e.1 ≤ t).map Prod.snd).sum := by
  induction entries generalizing start with
  | nil => exact (add_zero start).symm
  | cons e entries ih =>
    obtain ⟨later, rest⟩ := List.pairwise_cons.mp sorted
    -- by induction on the entries; the running total carries what came before, so it is left open
    by_cases h : e.1 ≤ t
    · have filtered : (e :: entries).filter (fun e => e.1 ≤ t) =
          e :: entries.filter fun e => e.1 ≤ t := by
        rw [List.filter_cons, if_pos (decide_eq_true h)]
      rw [filtered, cumulate, totalAt_cons h, ih rest, List.map_cons, List.sum_cons, add_assoc]
    · -- Everything behind this entry is as late.
      have late : ∀ a ∈ e :: entries, t < a.1 := by
        intro a ha
        rcases List.mem_cons.mp ha with rfl | ha
        · exact not_le.mp h
        · exact (not_le.mp h).trans_le (later a ha)
      have none : (e :: entries).filter (fun e => e.1 ≤ t) = [] := by
        rw [List.filter_eq_nil_iff]
        intro a ha hle
        exact absurd (of_decide_eq_true hle) (not_le.mpr (late a ha))
      rw [none, List.map_nil, List.sum_nil, add_zero, totalAt_of_later]
      intro a ha
      have time := List.mem_map_of_mem (f := Prod.fst) ha
      rw [map_fst_cumulate, List.mem_map] at time
      obtain ⟨b, hb, same⟩ := time
      rw [← same]
      exact late b hb

end

end Table
