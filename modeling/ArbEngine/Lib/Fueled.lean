import ArbEngine.Lib.Outcome

/-!
# Computations that may not have ended

A computation cut off by fuel: `none` says that it was still running when the fuel was used up,
and anything else is how it ended. Sequencing stops at the first part that has not ended, and at
the first failure.

A computation that takes its fuel as an argument ends in some way if some amount of fuel lets it
(`Ends`). Where more fuel changes nothing about that (`Steady`, which every way of putting
computations together preserves) it ends in one way only, and `ends_bind_ok` takes a block apart
without a word about fuel.
-/

def Fueled (α : Type) := Option (Outcome α)

namespace Fueled

variable {α β : Type}

instance [DecidableEq α] : DecidableEq (Fueled α) :=
  inferInstanceAs (DecidableEq (Option (Outcome α)))

def ended (o : Outcome α) : Fueled α := some o

protected def bind (x : Fueled α) (f : α → Fueled β) : Fueled β :=
  match x with
  | some (.ok a) => f a
  | some (.err msg) => some (.err msg)
  | some .panic => some .panic
  | none => none

instance : Monad Fueled where
  pure a := ended (.ok a)
  bind := Fueled.bind

/-- `Result::unwrap_or`: an error becomes the default, a panic stays one. -/
def unwrapOr (d : α) : Fueled α → Fueled α
  | some (.err _) => some (.ok d)
  | x => x

/-- `Result::ok`: an error becomes an absent value, a panic stays one. -/
def discardErr : Fueled α → Fueled (Option α)
  | some o => some o.discardErr
  | none => none

/-- `Result::map_err`: an error gets another text. -/
def mapErr (f : String → String) : Fueled α → Fueled α
  | some o => some (o.mapErr f)
  | none => none

@[simp] theorem mapErr_ok (f : String → String) (a : α) :
    mapErr f (ended (.ok a)) = ended (.ok a) := rfl

@[simp] theorem pure_eq_ok {a b : α} : (pure a : Fueled α) = ended (.ok b) ↔ a = b := by
  constructor
  · rintro ⟨⟩
    rfl
  · rintro rfl
    rfl

@[simp] theorem ended_eq_ok {o : Outcome α} {a : α} : ended o = ended (.ok a) ↔ o = .ok a := by
  constructor
  · intro h
    exact Option.some.inj h
  · rintro rfl
    rfl

/-- **A block that succeeded succeeded at each step.** -/
theorem bind_eq_ok {x : Fueled α} {f : α → Fueled β} {b : β} :
    x >>= f = ended (.ok b) ↔ ∃ a, x = ended (.ok a) ∧ f a = ended (.ok b) := by
  constructor
  · intro h
    rcases x with _ | (a | msg | _)
    · cases h
    · exact ⟨a, rfl, h⟩
    · cases h
    · cases h
  · rintro ⟨a, rfl, h⟩
    exact h

@[simp] theorem unwrapOr_ok {d a : α} : unwrapOr d (ended (.ok a)) = ended (.ok a) := rfl

theorem discardErr_eq_some {x : Fueled α} {a : α} :
    x.discardErr = ended (.ok (some a)) ↔ x = ended (.ok a) := by
  rcases x with _ | o
  · constructor <;> nofun
  · show ended o.discardErr = ended (.ok (some a)) ↔ ended o = ended (.ok a)
    rw [ended_eq_ok, ended_eq_ok, Outcome.discardErr_eq_some]

theorem unwrapOr_eq_ok {x : Fueled α} {d a : α} :
    x.unwrapOr d = ended (.ok a) ↔ x = ended (.ok a) ∨ a = d ∧ ∃ msg, x = ended (.err msg) := by
  constructor
  · intro h
    rcases x with _ | (b | msg | _)
    · cases h
    · exact .inl h
    · cases h
      exact .inr ⟨rfl, msg, rfl⟩
    · cases h
  · rintro (rfl | ⟨rfl, msg, rfl⟩)
    · rfl
    · rfl

/-- **What every step of a fold keeps holds of its result.** -/
theorem foldlM_keeps {l : List α} {f : β → α → Fueled β} (P : β → Prop)
    (keep : ∀ a ∈ l, ∀ b b', P b → f b a = ended (.ok b') → P b') {b b' : β} (hb : P b)
    (h : l.foldlM f b = ended (.ok b')) : P b' := by
  induction l generalizing b with
  | nil =>
    obtain rfl := pure_eq_ok.mp h
    exact hb
  | cons a l ih =>
    rw [List.foldlM_cons] at h
    obtain ⟨c, hc, h⟩ := bind_eq_ok.mp h
    exact ih (fun a' ha' => keep a' (List.mem_cons_of_mem a ha'))
      (keep a List.mem_cons_self b c hb hc) h

/-- A fold that appends something for each element, and never fails. -/
theorem foldlM_append {l : List α} {f : List β → α → Fueled (List β)} {g : α → List β}
    (h : ∀ a ∈ l, ∀ acc, f acc a = ended (.ok (acc ++ g a))) (acc : List β) :
    l.foldlM f acc = ended (.ok (acc ++ l.flatMap g)) := by
  induction l generalizing acc with
  | nil =>
    rw [List.flatMap_nil, List.append_nil]
    rfl
  | cons a l ih =>
    rw [List.foldlM_cons, h a List.mem_cons_self, List.flatMap_cons, ← List.append_assoc]
    exact ih (fun b hb => h b (List.mem_cons_of_mem a hb)) (acc ++ g a)

/-! ## Enough fuel -/

/-- Given enough fuel, it ends like this. -/
def Ends (x : ℕ → Fueled α) (o : Outcome α) : Prop := ∃ fuel, x fuel = ended o

/-- More fuel does not change how it ended. -/
def Steady (x : ℕ → Fueled α) : Prop :=
  ∀ fuel more o, x fuel = ended o → x (fuel + more) = ended o

variable {x : ℕ → Fueled α} {f : ℕ → α → Fueled β} {o o' : Outcome α}

theorem steady_const (y : Fueled α) : Steady fun _ => y := fun _ _ _ h => h

theorem Steady.bind (hx : Steady x) (hf : ∀ a, Steady (f · a)) :
    Steady fun fuel => x fuel >>= f fuel := by
  intro fuel more b h
  change Fueled.bind (x fuel) (f fuel) = ended b at h
  change Fueled.bind (x (fuel + more)) (f (fuel + more)) = ended b
  cases hfst : x fuel with
  | none =>
    rw [hfst] at h
    cases h
  | some a =>
    rw [hx fuel more a hfst]
    rw [hfst] at h
    cases a with
    | ok a => exact hf a fuel more b h
    | err msg => exact h
    | panic => exact h

/-- What is made of how it ended is steady as well. -/
theorem Steady.after {g : Fueled α → Fueled β} (hg : g none = none) (hx : Steady x) :
    Steady fun fuel => g (x fuel) := by
  intro fuel more o h
  change g (x fuel) = ended o at h
  show g (x (fuel + more)) = ended o
  cases hfst : x fuel with
  | none =>
    rw [hfst, hg] at h
    cases h
  | some a =>
    rw [hx fuel more a hfst]
    rw [hfst] at h
    exact h

theorem Steady.unwrapOr (hx : Steady x) (d : α) : Steady fun fuel => (x fuel).unwrapOr d :=
  hx.after rfl

theorem Steady.discardErr (hx : Steady x) : Steady fun fuel => (x fuel).discardErr :=
  hx.after rfl

/-- **A computation ends in one way.** -/
theorem Ends.unique (hx : Steady x) (h : Ends x o) (h' : Ends x o') : o = o' := by
  obtain ⟨n, hn⟩ := h
  obtain ⟨k, hk⟩ := h'
  have hfst := hx n k o hn
  have hsnd := hx k n o' hk
  rw [Nat.add_comm, hfst] at hsnd
  exact Option.some.inj hsnd

@[simp] theorem ends_const {y : Fueled α} : Ends (fun _ => y) o ↔ y = ended o :=
  ⟨fun ⟨_, h⟩ => h, fun h => ⟨0, h⟩⟩

/-- **A block comes to a value if each of its steps does.** -/
theorem ends_bind_ok (hx : Steady x) (hf : ∀ a, Steady (f · a)) {b : β} :
    Ends (fun fuel => x fuel >>= f fuel) (.ok b) ↔
      ∃ a, Ends x (.ok a) ∧ Ends (f · a) (.ok b) := by
  constructor
  · rintro ⟨fuel, h⟩
    obtain ⟨a, hfst, hsnd⟩ := bind_eq_ok.mp h
    exact ⟨a, ⟨fuel, hfst⟩, fuel, hsnd⟩
  · rintro ⟨a, ⟨n, hn⟩, k, hk⟩
    refine ⟨n + k, bind_eq_ok.mpr ⟨a, hx n k _ hn, ?_⟩⟩
    rw [Nat.add_comm]
    exact hf a k n _ hk

theorem ends_unwrapOr_ok {d a : α} :
    Ends (fun fuel => (x fuel).unwrapOr d) (.ok a) ↔
      Ends x (.ok a) ∨ a = d ∧ ∃ msg, Ends x (.err msg) := by
  constructor
  · rintro ⟨fuel, h⟩
    rcases unwrapOr_eq_ok.mp h with h | ⟨rfl, msg, h⟩
    · exact .inl ⟨fuel, h⟩
    · exact .inr ⟨rfl, msg, fuel, h⟩
  · rintro (⟨fuel, h⟩ | ⟨rfl, msg, fuel, h⟩)
    · exact ⟨fuel, unwrapOr_eq_ok.mpr (.inl h)⟩
    · exact ⟨fuel, unwrapOr_eq_ok.mpr (.inr ⟨rfl, msg, h⟩)⟩

end Fueled
