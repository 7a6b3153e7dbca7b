import Mathlib.Data.List.Induction
import Mathlib.Tactic.Common

/-!
# Runs of a system with labelled steps

A system is a partial step function: `step s i = some t` says that in state `s` the step
labelled `i` is enabled and leads to `t`. Nothing is said about who chooses the label, so a
statement about every run is a statement about every schedule, every order of messages and
every behaviour of the environment the labels carry.

`GuardedRun step G` are the runs all of whose steps meet a guard `G` on the state before the
step and its label; `Run step` are the unguarded ones. The two rules:

* `GuardedRun.invariant` — what every guarded step preserves, every guarded run preserves;
* `GuardedRun.split` — a run over `is ++ js` is a run over `is` and then one over `js`.
-/

variable {σ ι : Type}

/-- Runs whose every step meets the guard `G`. -/
inductive GuardedRun (step : σ → ι → Option σ) (G : σ → ι → Prop) : σ → List ι → σ → Prop
  | nil (s : σ) : GuardedRun step G s [] s
  | snoc {s t u : σ} {is : List ι} {i : ι} (run : GuardedRun step G s is t) (guard : G t i)
      (next : step t i = some u) : GuardedRun step G s (is ++ [i]) u

/-- All runs. -/
abbrev Run (step : σ → ι → Option σ) : σ → List ι → σ → Prop :=
  GuardedRun step fun _ _ => True

namespace GuardedRun

variable {step : σ → ι → Option σ} {G H : σ → ι → Prop} {s t u : σ} {is js : List ι} {i : ι}

/-- **The invariant rule.** -/
theorem invariant {I : σ → Prop}
    (keep : ∀ {s t : σ} {i : ι}, I s → G s i → step s i = some t → I t)
    (run : GuardedRun step G s is t) (init : I s) : I t := by
  induction run with
  | nil => exact init
  | snoc _ guard next ih => exact keep ih guard next

/-- A guard that is weaker at the labels of the run admits it. -/
theorem weaken_of_mem (run : GuardedRun step G s is t)
    (hGH : ∀ s, ∀ i ∈ is, G s i → H s i) : GuardedRun step H s is t := by
  induction run with
  | nil => exact .nil _
  | snoc _ guard next ih =>
    have before := ih fun s i hi => hGH s i (List.mem_append_left _ hi)
    exact .snoc before (hGH _ _ (List.mem_append_right _ (List.mem_singleton.mpr rfl)) guard) next

/-- A weaker guard admits every run of a stronger one. -/
theorem weaken (hGH : ∀ s i, G s i → H s i) (run : GuardedRun step G s is t) :
    GuardedRun step H s is t :=
  run.weaken_of_mem fun s i _ => hGH s i

/-- A run whose every step meets a guard is one of the runs with that guard. -/
theorem of_steps (run : GuardedRun step G s is t)
    (each : ∀ past i rest u, is = past ++ i :: rest → GuardedRun step G s past u → H u i) :
    GuardedRun step H s is t := by
  induction run with
  | nil => exact .nil _
  | snoc run _ next ih =>
    refine .snoc (ih fun past i rest u split before => ?_) (each _ _ [] _ rfl run) next
    exact each past i (rest ++ _) u (by rw [split, List.append_assoc, List.cons_append]) before

theorem append (run : GuardedRun step G s is t) (run' : GuardedRun step G t js u) :
    GuardedRun step G s (is ++ js) u := by
  induction run' with
  | nil => simpa using run
  | snoc _ guard next ih =>
    rw [← List.append_assoc]
    exact .snoc ih guard next

/-- One step is a run. -/
theorem single (guard : G s i) (next : step s i = some t) : GuardedRun step G s [i] t :=
  .snoc (.nil s) guard next

/-- A run that begins with this step. -/
theorem cons (guard : G s i) (next : step s i = some t) (run : GuardedRun step G t is u) :
    GuardedRun step G s (i :: is) u :=
  (single guard next).append run

/-- The last step of a run, taken off. -/
theorem snoc_inv (run : GuardedRun step G s (is ++ [i]) u) :
    ∃ t, GuardedRun step G s is t ∧ G t i ∧ step t i = some u := by
  generalize his : is ++ [i] = js at run
  cases run with
  | nil => simp at his
  | snoc run guard next =>
    obtain ⟨rfl, hi⟩ := List.append_inj' his rfl
    cases hi
    exact ⟨_, run, guard, next⟩

theorem nil_inv (run : GuardedRun step G s [] t) : t = s := by
  generalize his : ([] : List ι) = js at run
  cases run with
  | nil => rfl
  | snoc => simp at his

theorem singleton_inv (run : GuardedRun step G s [i] u) : G s i ∧ step s i = some u := by
  rw [← List.nil_append [i]] at run
  obtain ⟨t, none, guard, next⟩ := run.snoc_inv
  rw [none.nil_inv] at guard next
  exact ⟨guard, next⟩

/-- **A run is determined by its labels.** -/
theorem deterministic (run : GuardedRun step G s is t) (run' : GuardedRun step H s is u) :
    t = u := by
  induction run generalizing u with
  | nil => exact run'.nil_inv.symm
  | snoc _ _ next ih =>
    obtain ⟨v, before, _, next'⟩ := run'.snoc_inv
    rw [ih before, next'] at next
    exact (Option.some.inj next).symm

/-- **A run over a concatenation passes through a middle state.** -/
theorem split (run : GuardedRun step G s (is ++ js) u) :
    ∃ t, GuardedRun step G s is t ∧ GuardedRun step G t js u := by
  induction js using List.reverseRecOn generalizing u with
  | nil =>
    rw [List.append_nil] at run
    exact ⟨u, run, .nil u⟩
  | append_singleton js i ih =>
    rw [← List.append_assoc] at run
    obtain ⟨v, hrun, guard, next⟩ := run.snoc_inv
    obtain ⟨t, h₁, h₂⟩ := ih hrun
    exact ⟨t, h₁, .snoc h₂ guard next⟩

end GuardedRun

/-- Labels that are enabled one after the other are the labels of a run. -/
theorem Run.of_foldlM {step : σ → ι → Option σ} {s t : σ} {is : List ι}
    (h : is.foldlM step s = some t) : Run step s is t := by
  induction is generalizing s with
  | nil =>
    cases h
    exact .nil _
  | cons i is ih =>
    rw [List.foldlM_cons] at h
    obtain ⟨u, hu, h⟩ := Option.bind_eq_some_iff.mp h
    exact .cons trivial hu (ih h)
