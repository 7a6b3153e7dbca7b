import Mathlib.Algebra.Order.Ring.Nat
import Mathlib.Data.Nat.Find
import Mathlib.Tactic.Common

/-!
# Bisection for the greatest number that passes a test

The search halves an interval: where the middle passes it goes on above it, otherwise below. The
test need not be monotone. Whatever it is, what is found passes and its successor does not
(`run_spec`); it is the greatest number that passes exactly if every middle that is met at or
below that number on the way to it passes (`best_eq_findGreatest_iff`).
-/

namespace Bisection

/-- The interval that is left, and the greatest number so far that has passed. -/
structure Search where
  low : ℕ
  high : ℕ
  best : ℕ
deriving DecidableEq, Repr

def Search.mid (s : Search) : ℕ := (s.low + s.high) / 2

def start (N : ℕ) : Search := { low := 1, high := N, best := 0 }

section
variable (good : ℕ → Prop) [DecidablePred good]

/-- Where the middle passes it is the best so far, and the search goes on above it; otherwise
    below. -/
def step (s : Search) : Search :=
  if good s.mid then { s with low := s.mid + 1, best := s.mid }
  else { s with high := s.mid - 1 }

/-- The search, cut off after `n` steps. -/
def run : ℕ → Search → Search
  | 0, s => s
  | n + 1, s => if s.high < s.low then s else run n (step good s)

/-- The numbers that are tested. -/
def probes : ℕ → Search → List ℕ
  | 0, _ => []
  | n + 1, s => if s.high < s.low then [] else s.mid :: probes n (step good s)

/-- The interval starts behind the best number, and ends where the whole one does or before one
    that does not pass. -/
structure Inv (N : ℕ) (s : Search) : Prop where
  low : s.low = s.best + 1
  best : s.best = 0 ∨ good s.best
  ordered : s.best ≤ s.high
  high : s.high ≤ N
  closed : s.high = N ∨ ¬ good (s.high + 1)

end

variable {good good' : ℕ → Prop} [DecidablePred good] [DecidablePred good'] {s : Search}
  {n N M x : ℕ}

omit [DecidablePred good] in
theorem start_inv : Inv good N (start N) where
  low := rfl
  best := .inl rfl
  ordered := Nat.zero_le N
  high := le_rfl
  closed := .inl rfl

theorem le_mid (h : s.low ≤ s.high) : s.low ≤ s.mid := by
  unfold Search.mid
  omega

theorem mid_le (h : s.low ≤ s.high) : s.mid ≤ s.high := by
  unfold Search.mid
  omega

theorem step_of_good (h : good s.mid) :
    step good s = { s with low := s.mid + 1, best := s.mid } := if_pos h

theorem step_of_not_good (h : ¬ good s.mid) : step good s = { s with high := s.mid - 1 } :=
  if_neg h

/-- A step keeps the invariant: the middle has just been tested, and the interval goes on next to
    it. -/
theorem step_inv (h : Inv good N s) (hs : s.low ≤ s.high) : Inv good N (step good s) := by
  have above := le_mid hs
  have below := mid_le hs
  have low := h.low
  by_cases passes : good s.mid
  · rw [step_of_good passes]
    exact { low := rfl, best := .inr passes, ordered := below, high := h.high,
            closed := h.closed }
  · rw [step_of_not_good passes]
    refine { low := h.low, best := h.best, ordered := ?_, high := ?_, closed := .inr ?_ }
    · change s.best ≤ s.mid - 1
      omega
    · change s.mid - 1 ≤ N
      have high := h.high
      omega
    · change ¬ good (s.mid - 1 + 1)
      rwa [Nat.sub_add_cancel (by omega)]

theorem run_of_lt (h : s.high < s.low) : run good n s = s := by
  cases n with
  | zero => rfl
  | succ n => exact if_pos h

theorem run_succ (h : s.low ≤ s.high) : run good (n + 1) s = run good n (step good s) :=
  if_neg (not_lt.mpr h)

/-- And so does the whole search. -/
theorem run_inv (h : Inv good N s) : Inv good N (run good n s) := by
  induction n generalizing s with
  | zero => exact h
  | succ n ih =>
    rcases lt_or_ge s.high s.low with done | more
    · rwa [run_of_lt done]
    · rw [run_succ more]
      exact ih (step_inv h more)

/-! ## The end of the search -/

/-- A step leaves less than half of the interval. -/
theorem step_width (h : Inv good N s) (hs : s.low ≤ s.high) :
    (step good s).high - (step good s).best ≤ (s.high - s.best) / 2 := by
  have low := h.low
  by_cases passes : good s.mid
  · rw [step_of_good passes]
    change s.high - s.mid ≤ _
    unfold Search.mid
    omega
  · rw [step_of_not_good passes]
    change s.mid - 1 - s.best ≤ _
    unfold Search.mid
    omega

/-- So the interval is empty after as many steps as its width has bits. -/
theorem run_done (h : Inv good N s) (hn : s.high - s.best < 2 ^ n) :
    (run good n s).high < (run good n s).low := by
  induction n generalizing s with
  | zero =>
    change s.high < s.low
    have low := h.low
    have ordered := h.ordered
    omega
  | succ n ih =>
    rcases lt_or_ge s.high s.low with done | more
    · rwa [run_of_lt done]
    · rw [run_succ more]
      apply ih (step_inv h more)
      have half := step_width h more
      omega

/-- **What is found passes, and its successor does not.** This needs no monotone test: the
    invariant says it of any search whose interval is empty. -/
theorem run_spec (good : ℕ → Prop) [DecidablePred good] (hn : N < 2 ^ n) :
    (run good n (start N)).high < (run good n (start N)).low ∧
      (run good n (start N)).best ≤ N ∧
      ((run good n (start N)).best = 0 ∨ good (run good n (start N)).best) ∧
      ((run good n (start N)).best = N ∨ ¬ good ((run good n (start N)).best + 1)) := by
  have inv : Inv good N (run good n (start N)) := run_inv start_inv
  have done : (run good n (start N)).high < (run good n (start N)).low :=
    run_done start_inv (by simpa [start] using hn)
  have low := inv.low
  have ordered := inv.ordered
  have whole : (run good n (start N)).high = (run good n (start N)).best := by omega
  have high := inv.high
  have closed := inv.closed
  rw [whole] at high closed
  exact ⟨done, high, inv.best, closed⟩

/-! ## Two tests -/

/-- The numbers that are tested: the middle, and those of the search behind it. -/
theorem mem_probes_succ :
    x ∈ probes good (n + 1) s ↔
      s.low ≤ s.high ∧ (x = s.mid ∨ x ∈ probes good n (step good s)) := by
  rcases lt_or_ge s.high s.low with done | more
  · rw [probes, if_pos done]
    exact iff_of_false List.not_mem_nil (fun h => absurd done (not_lt.mpr h.1))
  · rw [probes, if_neg (not_lt.mpr more), List.mem_cons, and_iff_right more]

/-- All of them lie in the interval. -/
theorem probe_bounds (h : Inv good N s) (hx : x ∈ probes good n s) : 1 ≤ x ∧ x ≤ N := by
  induction n generalizing s with
  | zero => cases hx
  | succ n ih =>
    obtain ⟨more, rfl | hx⟩ := mem_probes_succ.mp hx
    · have low := h.low
      have above := le_mid more
      exact ⟨by omega, (mid_le more).trans h.high⟩
    · exact ih (step_inv h more) hx

/-- Tests that agree on what is asked find the same. -/
theorem run_eq_of_probes (h : ∀ x ∈ probes good' n s, good x ↔ good' x) :
    run good n s = run good' n s := by
  induction n generalizing s with
  | zero => rfl
  | succ n ih =>
    rcases lt_or_ge s.high s.low with done | more
    · rw [run_of_lt done, run_of_lt done]
    · have mid : good s.mid ↔ good' s.mid := h s.mid (mem_probes_succ.mpr ⟨more, .inl rfl⟩)
      have same : step good s = step good' s := by
        unfold step
        simp only [mid]
      rw [run_succ more, run_succ more, same]
      exact ih fun x hx => h x (mem_probes_succ.mpr ⟨more, .inr hx⟩)

/-- A threshold is found: its successor fails, and so does everything above. -/
theorem run_threshold (hM : M ≤ N) (hn : N < 2 ^ n) :
    (run (· ≤ M) n (start N)).best = M := by
  obtain ⟨-, le, best, closed⟩ := run_spec (· ≤ M) hn
  omega

/-- The upper end never goes up. -/
theorem step_high_le (h : s.low ≤ s.high) : (step good s).high ≤ s.high := by
  have below := mid_le h
  by_cases passes : good s.mid
  · rw [step_of_good passes]
  · rw [step_of_not_good passes]
    change s.mid - 1 ≤ s.high
    omega

theorem run_high_le : (run good n s).high ≤ s.high := by
  induction n generalizing s with
  | zero => exact le_rfl
  | succ n ih =>
    rcases lt_or_ge s.high s.low with done | more
    · rw [run_of_lt done]
    · rw [run_succ more]
      exact ih.trans (step_high_le more)

/-- A number on the way to a threshold that does not pass loses it, where nothing above the
    threshold passes. The search and the one that is told the threshold go side by side up to that
    number; there the search turns away below it and does not come back. -/
theorem run_lt_of_probe (h : Inv good N s) (above : ∀ y, M < y → y ≤ N → ¬ good y)
    (hx : x ∈ probes (· ≤ M) n s) (hM : x ≤ M) (fails : ¬ good x) :
    (run good n s).best < M := by
  induction n generalizing s with
  | zero => cases hx
  | succ n ih =>
    obtain ⟨more, hx⟩ := mem_probes_succ.mp hx
    rw [run_succ more]
    have mid_le_high := mid_le more
    have low_le_mid := le_mid more
    by_cases reached : s.mid ≤ M
    · by_cases passes : good s.mid
      · -- the two searches go on in the same place
        have same : step good s = step (· ≤ M) s := by
          rw [step_of_good passes, step_of_good reached]
        rcases hx with rfl | hx
        · exact absurd passes fails
        · exact ih (step_inv h more) (same ▸ hx)
      · -- the threshold is out of the interval
        have inv : Inv good N (run good n (step good s)) := run_inv (step_inv h more)
        have ordered := inv.ordered
        have high : (run good n (step good s)).high ≤ (step good s).high := run_high_le
        rw [step_of_not_good passes] at ordered high ⊢
        change _ ≤ s.mid - 1 at high
        have low := h.low
        omega
    · -- above the threshold both searches turn down
      have passes : ¬ good s.mid := above s.mid (not_le.mp reached) (mid_le_high.trans h.high)
      have same : step good s = step (· ≤ M) s := by
        rw [step_of_not_good passes, step_of_not_good reached]
      rcases hx with rfl | hx
      · exact absurd hM reached
      · exact ih (step_inv h more) (same ▸ hx)

/-- **The greatest number that passes is found exactly if every number at or below it that is
    tested on the way to it passes.** -/
theorem best_eq_findGreatest_iff (hn : N < 2 ^ n) :
    (run good n (start N)).best = Nat.findGreatest good N ↔
      ∀ x ∈ probes (· ≤ Nat.findGreatest good N) n (start N),
        x ≤ Nat.findGreatest good N → good x := by
  have above : ∀ y, Nat.findGreatest good N < y → y ≤ N → ¬ good y :=
    fun y hy hN => Nat.findGreatest_is_greatest hy hN
  constructor
  · intro found x hx hM
    by_contra fails
    exact absurd found (run_lt_of_probe start_inv above hx hM fails).ne
  · intro passes
    have agree : ∀ x ∈ probes (· ≤ Nat.findGreatest good N) n (start N),
        good x ↔ x ≤ Nat.findGreatest good N := by
      intro x hx
      constructor
      · intro hgood
        by_contra beyond
        exact above x (not_le.mp beyond) (probe_bounds start_inv hx).2 hgood
      · exact passes x hx
    rw [run_eq_of_probes agree, run_threshold (Nat.findGreatest_le N) hn]

end Bisection
