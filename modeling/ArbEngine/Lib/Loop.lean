import ArbEngine.Lib.Outcome

/-!
# While loops whose body may fail

`Loop.run cond body fuel s` is `while cond { body }` from state `s`, cut off after `fuel`
iterations: `none` says that the fuel ran out with the condition still true. A loop ends
with an outcome if some amount of fuel produces it, and halts if it ends at all; nothing
about fuel is left in a statement made with `Ends` and `Halts`.

Termination is shown by following the body (`ends_iff`);
non-termination by an invariant the body keeps without ever falsifying the condition
(`not_halts_of_invariant`). What holds at the head of every iteration is said with
`Reached`; `reached_iff` turns such an invariant into a condition on single iterations.
-/

namespace Loop

variable {σ : Type} {cond : σ → Bool} {body : σ → Outcome σ} {s t : σ} {o o' : Outcome σ}

/-- The loop, for at most `fuel` iterations. -/
def run (cond : σ → Bool) (body : σ → Outcome σ) : ℕ → σ → Option (Outcome σ)
  | 0, s => if cond s then none else some (.ok s)
  | fuel + 1, s =>
      if cond s then
        match body s with
        | .ok t => run cond body fuel t
        | .err msg => some (.err msg)
        | .panic => some .panic
      else
        some (.ok s)

/-- The loop comes to an end, with this outcome. -/
def Ends (cond : σ → Bool) (body : σ → Outcome σ) (s : σ) (o : Outcome σ) : Prop :=
  ∃ fuel, run cond body fuel s = some o

/-- The loop performs finitely many iterations. -/
def Halts (cond : σ → Bool) (body : σ → Outcome σ) (s : σ) : Prop :=
  ∃ o, Ends cond body s o

/-! ## The ways a loop ends -/

theorem run_of_not (hc : cond s = false) (fuel : ℕ) : run cond body fuel s = some (.ok s) := by
  cases fuel with
  | zero => simp [run, hc]
  | succ fuel => simp [run, hc]

theorem ends_of_not (hc : cond s = false) : Ends cond body s (.ok s) :=
  ⟨0, run_of_not hc 0⟩

theorem ends_of_panic (hc : cond s = true) (hb : body s = .panic) : Ends cond body s .panic :=
  ⟨1, by simp [run, hc, hb]⟩

theorem ends_of_err {msg : String} (hc : cond s = true) (hb : body s = .err msg) :
    Ends cond body s (.err msg) :=
  ⟨1, by simp [run, hc, hb]⟩

/-- **One iteration can be taken off a loop** without changing how it ends. -/
theorem ends_step_iff (hc : cond s = true) (hb : body s = .ok t) :
    Ends cond body s o ↔ Ends cond body t o := by
  constructor
  · rintro ⟨fuel, h⟩
    cases fuel with
    | zero => simp [run, hc] at h
    | succ fuel =>
      simp only [run, hc, hb, if_true] at h
      exact ⟨fuel, h⟩
  · rintro ⟨fuel, h⟩
    refine ⟨fuel + 1, ?_⟩
    simp only [run, hc, hb, if_true]
    exact h

/-- How a loop ends that has got to this outcome of its body. -/
def EndsFrom (cond : σ → Bool) (body : σ → Outcome σ) : Outcome σ → Outcome σ → Prop
  | .ok t, o => Ends cond body t o
  | .err msg, o => o = .err msg
  | .panic, o => o = .panic

/-- More fuel does not change an outcome. -/
theorem run_add {fuel : ℕ} (h : run cond body fuel s = some o) (n : ℕ) :
    run cond body (fuel + n) s = some o := by
  induction fuel generalizing s with
  | zero =>
    cases hc : cond s with
    | true => simp [run, hc] at h
    | false =>
      rw [run_of_not hc] at h ⊢
      exact h
  | succ fuel ih =>
    cases hc : cond s with
    | false =>
      rw [run_of_not hc] at h ⊢
      exact h
    | true =>
      rw [Nat.add_right_comm]
      simp only [run, hc, if_true] at h ⊢
      cases hb : body s with
      | ok t =>
        rw [hb] at h
        exact ih h
      | err msg =>
        rw [hb] at h
        exact h
      | panic =>
        rw [hb] at h
        exact h

/-- **A loop ends in one way.** -/
theorem Ends.unique (h : Ends cond body s o) (h' : Ends cond body s o') : o = o' := by
  obtain ⟨n, hn⟩ := h
  obtain ⟨m, hm⟩ := h'
  have h₁ := run_add hn m
  have h₂ := run_add hm n
  rw [Nat.add_comm, h₁] at h₂
  exact Option.some.inj h₂

theorem ends_of_not_iff (hc : cond s = false) : Ends cond body s o ↔ o = .ok s := by
  constructor
  · intro h
    exact h.unique (ends_of_not hc)
  · rintro rfl
    exact ends_of_not hc

/-- **A loop whose condition holds ends as its body leaves it.** -/
theorem ends_iff (hc : cond s = true) : Ends cond body s o ↔ EndsFrom cond body (body s) o := by
  cases hb : body s with
  | ok t => exact ends_step_iff hc hb
  | err msg =>
    constructor
    · intro h
      exact h.unique (ends_of_err hc hb)
    · rintro rfl
      exact ends_of_err hc hb
  | panic =>
    constructor
    · intro h
      exact h.unique (ends_of_panic hc hb)
    · rintro rfl
      exact ends_of_panic hc hb

/-! ## Loops without an end -/

/-- **A loop whose body keeps the condition true never halts.** -/
theorem not_halts_of_invariant (I : σ → Prop) (keep : ∀ s, I s → ∃ t, body s = .ok t ∧ I t)
    (hc : ∀ s, I s → cond s = true) (hs : I s) : ¬ Halts cond body s := by
  have hnone : ∀ fuel s, I s → run cond body fuel s = none := by
    intro fuel
    induction fuel with
    | zero =>
      intro s hs
      simp [run, hc s hs]
    | succ fuel ih =>
      intro s hs
      obtain ⟨t, hb, ht⟩ := keep s hs
      simp only [run, hc s hs, hb, if_true]
      exact ih t ht
  rintro ⟨o, fuel, h⟩
  rw [hnone fuel s hs] at h
  cases h

/-! ## The heads of the iterations -/

/-- The states in which the loop evaluates its condition. -/
inductive Reached (cond : σ → Bool) (body : σ → Outcome σ) (s : σ) : σ → Prop
  | start : Reached cond body s s
  | next {t u : σ} : Reached cond body s t → cond t = true → body t = .ok u →
      Reached cond body s u

/-- The state a loop returns is one of them. -/
theorem Reached.of_run {fuel : ℕ} {t : σ} (h : Reached cond body s t) {u : σ}
    (hrun : run cond body fuel t = some (.ok u)) : Reached cond body s u := by
  induction fuel generalizing t with
  | zero =>
    cases hc : cond t with
    | true => simp [run, hc] at hrun
    | false =>
      rw [run_of_not hc] at hrun
      cases hrun
      exact h
  | succ fuel ih =>
    cases hc : cond t with
    | false =>
      rw [run_of_not hc] at hrun
      cases hrun
      exact h
    | true =>
      simp only [run, hc, if_true] at hrun
      cases hb : body t with
      | ok v =>
        rw [hb] at hrun
        exact ih (.next h hc hb) hrun
      | err msg =>
        rw [hb] at hrun
        cases hrun
      | panic =>
        rw [hb] at hrun
        cases hrun

/-- **An invariant holds at every head exactly when every iteration keeps it**, where keeping
    it has been worked out, for an iteration that starts with it, to be the condition `C`. -/
theorem reached_iff {P C : σ → Prop} (hs : P s)
    (keeps : ∀ t u, P t → body t = .ok u → (P u ↔ C t)) :
    (∀ t, Reached cond body s t → P t) ↔
      ∀ t u, Reached cond body s t → cond t = true → body t = .ok u → C t := by
  constructor
  · intro h t u ht hc hb
    exact (keeps t u (h t ht) hb).mp (h u (.next ht hc hb))
  · intro h t ht
    induction ht with
    | start => exact hs
    | next ht hc hb ih => exact (keeps _ _ ih hb).mpr (h _ _ ht hc hb)

end Loop
