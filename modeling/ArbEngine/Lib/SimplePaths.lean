import Mathlib.Data.Finset.Insert
import Mathlib.Data.List.Nodup
import Mathlib.Data.List.ProdSigma
import Mathlib.Data.Sym.Sym2

/-!
# Simple paths of a multigraph, by depth-first search

`arcs k` lists the arcs that leave the vertex `k`; an arc has a label and an end. Ends carry
more than their vertex, and `key` reads the vertex off. `search` goes down every arc whose end
has not been seen yet, for at most so many arcs, and stops a branch where it meets the target.

`mem_search` says what it finds: the walks to the target that are short enough and meet no
vertex twice. `search_nodup` says that it finds none of them twice, as long as no two arcs out
of a vertex are the same one; loops, which no simple path takes, do not count. Parallel arcs
are told apart by their labels, and `search_map` relates two labellings of one graph.

Where a label names an edge that can be taken either way (`IsEdge`), a simple path takes no edge
twice (`Walk.edges_nodup`), and no more does a simple path that is closed by an arc at its start,
unless it goes there and straight back (`Walk.loop_edges_nodup`).
-/

namespace SimplePaths

variable {K E F T : Type} [DecidableEq K] {key : T → K} {arcs : K → List (E × T)} {target : K}

/-- The simple paths from a vertex to the target that avoid what has been seen. -/
def search (key : T → K) (arcs : K → List (E × T)) (target : K) :
    ℕ → K → Finset K → List (List (E × T))
  | 0, k, _ => if k = target then [[]] else []
  | n + 1, k, seen =>
      if k = target then [[]]
      else
        ((arcs k).filter fun a => key a.2 ∉ seen).flatMap fun a =>
          (search key arcs target n (key a.2) (insert (key a.2) seen)).map (a :: ·)

/-- The arcs lead from the vertex to the target, each from where the one before it ends. -/
def Walk (key : T → K) (arcs : K → List (E × T)) (target : K) : K → List (E × T) → Prop
  | k, [] => k = target
  | k, a :: p => a ∈ arcs k ∧ Walk key arcs target (key a.2) p

omit [DecidableEq K] in
/-- A walk that takes an arc takes one that ends at the target. -/
theorem Walk.exists_end {k : K} {p : List (E × T)} (h : Walk key arcs target k p)
    (hp : p ≠ []) : ∃ a ∈ p, key a.2 = target := by
  induction p generalizing k with
  | nil => exact absurd rfl hp
  | cons a p ih =>
    cases p with
    | nil => exact ⟨a, List.mem_cons_self, h.2⟩
    | cons b p =>
      obtain ⟨c, hc, hend⟩ := ih h.2 (List.cons_ne_nil b p)
      exact ⟨c, List.mem_cons_of_mem a hc, hend⟩

/-- **What the search finds**: the walks to the target that are not too long, meet no key twice and
    none that has been seen. By induction on the length that is left, for any set of keys seen so
    far. -/
theorem mem_search {n : ℕ} {k : K} {seen : Finset K} (hk : k ∈ seen) {p : List (E × T)} :
    p ∈ search key arcs target n k seen ↔
      Walk key arcs target k p ∧ p.length ≤ n ∧ (p.map fun a => key a.2).Nodup ∧
        ∀ a ∈ p, key a.2 ∉ seen := by
  induction n generalizing k seen p with
  | zero =>
    by_cases hkt : k = target
    · cases p with
      | nil => simp [search, Walk, hkt]
      | cons a p => simp [search, hkt]
    · cases p with
      | nil => simp [search, Walk, hkt]
      | cons a p => simp [search, hkt]
  | succ n ih =>
    by_cases hkt : k = target
    · -- At the target only the empty path is left: any other walk comes back to it.
      cases p with
      | nil => simp [search, Walk, hkt]
      | cons a p =>
        simp only [search, if_pos hkt, List.mem_singleton, reduceCtorEq, false_iff]
        intro ⟨hwalk, _, _, havoid⟩
        obtain ⟨b, hb, hend⟩ := hwalk.exists_end (List.cons_ne_nil a p)
        rw [← hkt] at hend
        exact havoid b hb (hend ▸ hk)
    · cases p with
      | nil => simp [search, Walk, hkt]
      | cons a p =>
        have hstep : a :: p ∈ search key arcs target (n + 1) k seen ↔
            (a ∈ arcs k ∧ key a.2 ∉ seen) ∧
              p ∈ search key arcs target n (key a.2) (insert (key a.2) seen) := by
          simp only [search, if_neg hkt, List.mem_flatMap, List.mem_filter, List.mem_map,
            decide_eq_true_eq]
          constructor
          · rintro ⟨b, hb, q, hq, heq⟩
            obtain ⟨rfl, rfl⟩ := List.cons.inj heq
            exact ⟨hb, hq⟩
          · intro ⟨ha, hp⟩
            exact ⟨a, ha, p, hp, rfl⟩
        rw [hstep, ih (Finset.mem_insert_self _ _)]
        simp only [Walk, List.length_cons, Nat.add_le_add_iff_right, List.map_cons,
          List.nodup_cons, List.mem_map, not_exists, not_and, List.mem_cons, forall_eq_or_imp,
          Finset.mem_insert, not_or]
        constructor
        · intro ⟨⟨ha, hfresh⟩, hwalk, hlen, hnodup, havoid⟩
          refine ⟨⟨ha, hwalk⟩, hlen, ⟨fun b hb => (havoid b hb).1, hnodup⟩, hfresh, ?_⟩
          intro b hb
          exact (havoid b hb).2
        · intro ⟨⟨ha, hwalk⟩, hlen, ⟨hne, hnodup⟩, hfresh, havoid⟩
          refine ⟨⟨ha, hfresh⟩, hwalk, hlen, hnodup, ?_⟩
          intro b hb
          exact ⟨hne b hb, havoid b hb⟩

/-- **No path is found twice.** -/
theorem search_nodup (harcs : ∀ k, ((arcs k).filter fun a => key a.2 ≠ k).Nodup) {n : ℕ} {k : K}
    {seen : Finset K} (hk : k ∈ seen) : (search key arcs target n k seen).Nodup := by
  induction n generalizing k seen with
  | zero =>
    unfold search
    split
    · exact List.nodup_singleton []
    · exact List.nodup_nil
  | succ n ih =>
    unfold search
    split
    · exact List.nodup_singleton []
    · have hfresh : ((arcs k).filter fun a => key a.2 ∉ seen).Nodup := by
        refine (harcs k).sublist ?_
        apply List.monotone_filter_right
        intro a ha
        simp only [decide_eq_true_eq] at ha ⊢
        intro heq
        exact ha (heq ▸ hk)
      refine List.nodup_flatMap.mpr ⟨?_, ?_⟩
      · intro a _
        exact (ih (Finset.mem_insert_self _ _)).map (List.cons_injective (a := a))
      · -- Paths that begin with different arcs are different.
        refine hfresh.imp ?_
        intro a b hab p hpa hpb
        obtain ⟨q, _, rfl⟩ := List.mem_map.mp hpa
        obtain ⟨q', _, heq⟩ := List.mem_map.mp hpb
        exact hab (List.cons.inj heq).1.symm

/-- The search does not look at labels. -/
theorem search_map (f : E → F) {n : ℕ} {k : K} {seen : Finset K} :
    search key (fun k => (arcs k).map (Prod.map f id)) target n k seen =
      (search key arcs target n k seen).map (List.map (Prod.map f id)) := by
  induction n generalizing k seen with
  | zero =>
    unfold search
    split <;> rfl
  | succ n ih =>
    unfold search
    split
    · rfl
    · rw [List.filter_map, List.flatMap_map, List.map_flatMap]
      refine congrArg (List.flatMap · _) (funext fun a => ?_)
      rw [ih, List.map_map, List.map_map]
      rfl

/-! ## Edges -/

section Edges

omit [DecidableEq K]

variable {edge : E → Sym2 K} {k w : K} {a : E × T} {p : List (E × T)}

/-- A label is an edge of the graph, between the two ends of each of its arcs. -/
def IsEdge (key : T → K) (arcs : K → List (E × T)) (edge : E → Sym2 K) : Prop :=
  ∀ k, ∀ a ∈ arcs k, edge a.1 = s(k, key a.2)

/-- The end of an arc is an end of its edge. -/
theorem Walk.end_mem_edge (hedge : IsEdge key arcs edge) (h : Walk key arcs target k p)
    (ha : a ∈ p) : key a.2 ∈ edge a.1 := by
  induction p generalizing k with
  | nil => cases ha
  | cons b p ih =>
    rcases List.mem_cons.mp ha with rfl | ha
    · rw [hedge k a h.1]
      exact Sym2.mem_mk_right k _
    · exact ih h.2 ha

/-- **A simple path takes no edge twice.** -/
theorem Walk.edges_nodup (hedge : IsEdge key arcs edge) (h : Walk key arcs target k p)
    (hnodup : (p.map fun a => key a.2).Nodup) (havoid : ∀ a ∈ p, key a.2 ≠ k) :
    (p.map fun a => edge a.1).Nodup := by
  induction p generalizing k with
  | nil => exact List.nodup_nil
  | cons a p ih =>
    obtain ⟨hfresh, hnodup⟩ := List.nodup_cons.mp hnodup
    have hnew : ∀ b ∈ p, key b.2 ≠ key a.2 := by
      intro b hb heq
      exact hfresh (List.mem_map.mpr ⟨b, hb, heq⟩)
    refine List.nodup_cons.mpr ⟨?_, ih h.2 hnodup hnew⟩
    -- A later arc ends at a vertex that the first one does not touch.
    intro hmem
    obtain ⟨b, hb, (heq : edge b.1 = edge a.1)⟩ := List.mem_map.mp hmem
    have hend := h.2.end_mem_edge hedge hb
    rw [heq, hedge k a h.1, Sym2.mem_iff] at hend
    rcases hend with hstart | hend
    · exact havoid b (List.mem_cons_of_mem a hb) hstart
    · exact hnew b hb hend

/-- A simple path to the target from elsewhere takes no edge between the target and a vertex it
    does not meet. -/
theorem Walk.edge_ne (hedge : IsEdge key arcs edge) (h : Walk key arcs target k p)
    (hnodup : (p.map fun a => key a.2).Nodup) (hk : k ≠ target) (hkw : k ≠ w)
    (havoid : ∀ a ∈ p, key a.2 ≠ w) (ha : a ∈ p) : edge a.1 ≠ s(target, w) := by
  induction p generalizing k with
  | nil => cases ha
  | cons b p ih =>
    obtain ⟨hfresh, hnodup⟩ := List.nodup_cons.mp hnodup
    rcases List.mem_cons.mp ha with rfl | ha
    · intro heq
      have hstart : k ∈ edge a.1 := by
        rw [hedge k a h.1]
        exact Sym2.mem_mk_left k _
      rw [heq, Sym2.mem_iff] at hstart
      exact hstart.elim hk hkw
    · have hnot : key b.2 ≠ target := by
        intro heq
        obtain ⟨c, hc, hend⟩ := h.2.exists_end (List.ne_nil_of_mem ha)
        exact hfresh (List.mem_map.mpr ⟨c, hc, hend.trans heq.symm⟩)
      exact ih h.2 hnodup hnot (havoid b List.mem_cons_self)
        (fun c hc => havoid c (List.mem_cons_of_mem b hc)) ha

/-- **A simple loop of more than two arcs takes no edge twice.** -/
theorem Walk.loop_edges_nodup (hedge : IsEdge key arcs edge)
    (h : Walk key arcs target target (a :: p)) (hlen : 2 ≤ p.length)
    (hnodup : ((a :: p).map fun b => key b.2).Nodup) :
    ((a :: p).map fun b => edge b.1).Nodup := by
  obtain ⟨hfresh, hrest⟩ := List.nodup_cons.mp hnodup
  have hnew : ∀ b ∈ p, key b.2 ≠ key a.2 := by
    intro b hb heq
    exact hfresh (List.mem_map.mpr ⟨b, hb, heq⟩)
  refine List.nodup_cons.mpr ⟨?_, h.2.edges_nodup hedge hrest hnew⟩
  intro hmem
  obtain ⟨b, hb, (heq : edge b.1 = edge a.1)⟩ := List.mem_map.mp hmem
  rw [hedge target a h.1] at heq
  cases p with
  | nil => cases hb
  | cons c q =>
    have hq : q ≠ [] := by
      rintro rfl
      simp at hlen
    obtain ⟨hfreshc, hrestq⟩ := List.nodup_cons.mp hrest
    -- The arc after the first one does not come back yet.
    have hc : key c.2 ≠ target := by
      intro hct
      obtain ⟨d, hd, hend⟩ := h.2.2.exists_end hq
      exact hfreshc (List.mem_map.mpr ⟨d, hd, hend.trans hct.symm⟩)
    have hca : key c.2 ≠ key a.2 := hnew c List.mem_cons_self
    rcases List.mem_cons.mp hb with rfl | hb
    · have hend := h.2.end_mem_edge hedge (List.mem_cons_self (a := b))
      rw [heq, Sym2.mem_iff] at hend
      exact hend.elim hc hca
    · exact h.2.2.edge_ne hedge hrestq hc hca
        (fun d hd => hnew d (List.mem_cons_of_mem c hd)) hb heq

end Edges

end SimplePaths
