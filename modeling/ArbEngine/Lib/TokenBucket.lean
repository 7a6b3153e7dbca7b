import Mathlib.Algebra.BigOperators.Group.List.Basic
import Mathlib.Algebra.Order.Field.Basic
import Mathlib.Order.Bounds.Basic
import Mathlib.Tactic.Linarith

/-!
# Token buckets

A bucket holds a level and the time up to which it has been filled. A visit at some time first
fills it, at a rate and up to a capacity, and then takes something out. Visits may come with
times that are out of order: a visit whose time is not after the stamp brings nothing.

Two ways to bound what is taken:

* `run_level_add_taken_le` — between two states, level and takings grow by no more than the rate
  allows for the time between the stamps. `taken_le_of_first` is the bound that starts at a
  visit, whose fill has cut the level to the capacity.
* `available` — what a fill at a time would give. It grows no faster than the rate
  (`available_le_of_le`), and a visit takes its takings off it (`available_visit_le`).

A run is `Honest` where no visit takes more than there is; its level stays where it belongs
(`Honest.level_nonneg`).
-/

structure TokenBucket (K : Type) where
  level : K
  stamp : K
deriving DecidableEq, Repr

namespace TokenBucket

/-- A visit to the bucket. -/
structure Visit (K : Type) where
  time : K
  taken : K
deriving DecidableEq, Repr

section Takings

variable {K : Type} [Field K] {v : Visit K} {vs ws : List (Visit K)}

def taken (vs : List (Visit K)) : K := (vs.map Visit.taken).sum

@[simp] theorem taken_nil : taken ([] : List (Visit K)) = 0 := rfl

@[simp] theorem taken_cons : taken (v :: vs) = v.taken + taken vs := List.sum_cons

@[simp] theorem taken_append : taken (vs ++ ws) = taken vs + taken ws := by
  simp [taken]

end Takings

section Defs

variable {K : Type} [Field K] [LinearOrder K]

/-- A fill that would bring nothing leaves the stamp where it is. -/
def fill (cap rate : K) (b : TokenBucket K) (now : K) : TokenBucket K :=
  if 0 < rate * (now - b.stamp) then
    { level := min (b.level + rate * (now - b.stamp)) cap, stamp := now }
  else b

def visit (cap rate : K) (b : TokenBucket K) (v : Visit K) : TokenBucket K :=
  { fill cap rate b v.time with level := (fill cap rate b v.time).level - v.taken }

def run (cap rate : K) (b : TokenBucket K) (vs : List (Visit K)) : TokenBucket K :=
  vs.foldl (visit cap rate) b

/-- No visit takes more than it finds. -/
def Honest (cap rate : K) (b : TokenBucket K) : List (Visit K) → Prop
  | [] => True
  | v :: vs =>
      0 ≤ v.taken ∧ v.taken ≤ (fill cap rate b v.time).level ∧
        Honest cap rate (visit cap rate b v) vs

/-- What a fill at this time would give. -/
def available (cap rate : K) (b : TokenBucket K) (now : K) : K :=
  min (b.level + rate * (now - b.stamp)) cap

end Defs

section Bounds

variable {K : Type} [Field K] [LinearOrder K] {cap rate now : K} {b : TokenBucket K}
  {v : Visit K} {vs ws : List (Visit K)}

@[simp] theorem run_nil : run cap rate b [] = b := rfl

@[simp] theorem run_cons : run cap rate b (v :: vs) = run cap rate (visit cap rate b v) vs := rfl

@[simp] theorem run_append :
    run cap rate b (vs ++ ws) = run cap rate (run cap rate b vs) ws := List.foldl_append

@[simp] theorem visit_stamp : (visit cap rate b v).stamp = (fill cap rate b v.time).stamp := rfl

@[simp] theorem visit_level :
    (visit cap rate b v).level = (fill cap rate b v.time).level - v.taken := rfl

theorem fill_of_pos (h : 0 < rate * (now - b.stamp)) :
    fill cap rate b now =
      { level := min (b.level + rate * (now - b.stamp)) cap, stamp := now } := if_pos h

theorem fill_of_nonpos (h : ¬0 < rate * (now - b.stamp)) : fill cap rate b now = b := if_neg h

theorem honest_append : Honest cap rate b (vs ++ ws) ↔
    Honest cap rate b vs ∧ Honest cap rate (run cap rate b vs) ws := by
  induction vs generalizing b with
  | nil => simp [Honest]
  | cons v vs ih => simp [Honest, ih, and_assoc]

theorem Honest.taken_nonneg (h : Honest cap rate b vs) : ∀ v ∈ vs, 0 ≤ v.taken := by
  induction vs generalizing b with
  | nil => simp
  | cons v vs ih => exact List.forall_mem_cons.mpr ⟨h.1, ih h.2.2⟩

theorem available_le_cap : available cap rate b now ≤ cap := min_le_right _ _

/-! ## Fills -/

theorem fill_level_le_cap (h : b.level ≤ cap) : (fill cap rate b now).level ≤ cap := by
  unfold fill
  split
  · exact min_le_right _ _
  · exact h

theorem fill_level_le :
    (fill cap rate b now).level ≤ b.level + rate * ((fill cap rate b now).stamp - b.stamp) := by
  by_cases h : 0 < rate * (now - b.stamp)
  · rw [fill_of_pos h]
    exact min_le_left _ _
  · rw [fill_of_nonpos h, sub_self, mul_zero, add_zero]

/-- A fill loses nothing but what the capacity cuts off. -/
theorem le_fill_level :
    min (b.level + rate * ((fill cap rate b now).stamp - b.stamp)) cap ≤
      (fill cap rate b now).level := by
  by_cases h : 0 < rate * (now - b.stamp)
  · rw [fill_of_pos h]
  · rw [fill_of_nonpos h, sub_self, mul_zero, add_zero]
    exact min_le_left _ _

/-- The stamp is the old one or the time of a visit. -/
theorem run_stamp_mem :
    (run cap rate b vs).stamp = b.stamp ∨ ∃ v ∈ vs, (run cap rate b vs).stamp = v.time := by
  induction vs generalizing b with
  | nil => exact .inl rfl
  | cons v vs ih =>
    rcases @ih (visit cap rate b v) with old | ⟨w, hw, heq⟩
    · by_cases h : 0 < rate * (v.time - b.stamp)
      · refine .inr ⟨v, List.mem_cons_self .., ?_⟩
        rw [run_cons, old, visit_stamp, fill_of_pos h]
      · left
        rw [run_cons, old, visit_stamp, fill_of_nonpos h]
    · exact .inr ⟨w, List.mem_cons_of_mem v hw, heq⟩

theorem fill_stamp_le (h : b.stamp ≤ now) : (fill cap rate b now).stamp ≤ now := by
  unfold fill
  split
  · exact le_rfl
  · exact h

section Ordered

variable [IsStrictOrderedRing K]

theorem level_le_fill (h : b.level ≤ cap) : b.level ≤ (fill cap rate b now).level := by
  unfold fill
  split
  · rename_i pos
    exact le_min (by linarith) h
  · exact le_rfl

/-- At a rate that is not zero the stamp is the latest time there was. -/
theorem fill_stamp (hrate : 0 < rate) : (fill cap rate b now).stamp = max b.stamp now := by
  by_cases h : b.stamp < now
  · rw [fill_of_pos (mul_pos hrate (sub_pos.mpr h)), max_eq_right h.le]
  · have nothing : ¬0 < rate * (now - b.stamp) := by
      rw [mul_pos_iff_of_pos_left hrate, sub_pos]
      exact h
    rw [fill_of_nonpos nothing, max_eq_left (not_lt.mp h)]

/-- A second fill at one time brings nothing. -/
theorem fill_visit_self (hrate : 0 < rate) :
    fill cap rate (visit cap rate b v) v.time = visit cap rate b v := by
  apply fill_of_nonpos
  rw [visit_stamp, fill_stamp hrate, mul_pos_iff_of_pos_left hrate, sub_pos, not_lt]
  exact le_max_right _ _

/-! ## Runs -/

theorem run_level_le_cap (hb : b.level ≤ cap) (htaken : ∀ v ∈ vs, 0 ≤ v.taken) :
    (run cap rate b vs).level ≤ cap := by
  induction vs generalizing b with
  | nil => exact hb
  | cons v vs ih =>
    obtain ⟨first, rest⟩ := List.forall_mem_cons.mp htaken
    have filled : (fill cap rate b v.time).level ≤ cap := fill_level_le_cap hb
    rw [run_cons]
    apply ih _ rest
    rw [visit_level]
    linarith

theorem stamp_le_run (hrate : 0 < rate) : b.stamp ≤ (run cap rate b vs).stamp := by
  induction vs generalizing b with
  | nil => exact le_rfl
  | cons v vs ih =>
    have filled : b.stamp ≤ (visit cap rate b v).stamp := by
      rw [visit_stamp, fill_stamp hrate]
      exact le_max_left _ _
    exact filled.trans ih

theorem time_le_run_stamp (hrate : 0 < rate) (hv : v ∈ vs) :
    v.time ≤ (run cap rate b vs).stamp := by
  induction vs generalizing b with
  | nil => cases hv
  | cons w vs ih =>
    rcases List.mem_cons.mp hv with rfl | later
    · have filled : v.time ≤ (visit cap rate b v).stamp := by
        rw [visit_stamp, fill_stamp hrate]
        exact le_max_right _ _
      exact filled.trans (stamp_le_run hrate)
    · exact ih later

/-- Where no visit comes before the stamp, the stamp ends at the latest of them. -/
theorem run_stamp_eq {latest : K} (hrate : 0 < rate) (after : ∀ v ∈ vs, b.stamp ≤ v.time)
    (h : IsGreatest {t | ∃ v ∈ vs, v.time = t} latest) : (run cap rate b vs).stamp = latest := by
  obtain ⟨⟨v, hv, rfl⟩, greatest⟩ := h
  apply le_antisymm
  · have found : (run cap rate b vs).stamp = b.stamp ∨ _ := run_stamp_mem
    rcases found with old | ⟨w, hw, heq⟩
    · rw [old]
      exact after v hv
    · rw [heq]
      exact greatest ⟨w, hw, rfl⟩
  · exact time_le_run_stamp hrate hv

/-- **Level and takings grow by no more than the rate allows.** -/
theorem run_level_add_taken_le :
    (run cap rate b vs).level + taken vs ≤
      b.level + rate * ((run cap rate b vs).stamp - b.stamp) := by
  induction vs generalizing b with
  | nil => simp
  | cons v vs ih =>
    have filled : (fill cap rate b v.time).level ≤ _ := fill_level_le
    have rest := @ih (visit cap rate b v)
    rw [visit_level, visit_stamp] at rest
    rw [run_cons, taken_cons]
    linarith

/-- **The bound from one visit on**: its fill has cut the level to the capacity. -/
theorem taken_le_of_first (hb : b.level ≤ cap) :
    (run cap rate b (v :: vs)).level + taken (v :: vs) ≤
      cap + rate * ((run cap rate b (v :: vs)).stamp - (run cap rate b [v]).stamp) := by
  have filled : (fill cap rate b v.time).level ≤ cap := fill_level_le_cap hb
  have rest : (run cap rate (visit cap rate b v) vs).level + taken vs ≤ _ :=
    run_level_add_taken_le
  rw [visit_level] at rest
  rw [run_cons, run_cons, run_nil, taken_cons]
  linarith

/-- Where nothing is taken the level keeps up with the rate. -/
theorem le_run_level (hrate : 0 < rate) (hb : b.level ≤ cap) (none : ∀ v ∈ vs, v.taken = 0) :
    min (b.level + rate * ((run cap rate b vs).stamp - b.stamp)) cap ≤
      (run cap rate b vs).level := by
  induction vs generalizing b with
  | nil => simp
  | cons v vs ih =>
    obtain ⟨first, rest⟩ := List.forall_mem_cons.mp none
    have cut : (fill cap rate b v.time).level ≤ cap := fill_level_le_cap hb
    have later := @ih (visit cap rate b v) (by rw [visit_level, first, sub_zero]; exact cut) rest
    have forward : (visit cap rate b v).stamp ≤ (run cap rate (visit cap rate b v) vs).stamp :=
      stamp_le_run hrate
    have filled : min (b.level + rate * ((fill cap rate b v.time).stamp - b.stamp)) cap ≤
        (fill cap rate b v.time).level := le_fill_level
    rw [visit_level, visit_stamp, first, sub_zero] at later
    rw [visit_stamp] at forward
    rw [run_cons]
    refine le_trans (le_min ?_ (min_le_right _ _)) later
    -- What the fill kept of the rate is there still; what it cut off was above the capacity.
    rcases min_le_iff.mp filled with kept | full
    · exact (min_le_left _ _).trans (by linarith)
    · have more := mul_nonneg hrate.le (sub_nonneg.mpr forward)
      exact (min_le_right _ _).trans (by linarith)

/-! ## Honest runs -/

theorem Honest.level_nonneg (h : Honest cap rate b vs) (h0 : 0 ≤ b.level) :
    0 ≤ (run cap rate b vs).level := by
  induction vs generalizing b with
  | nil => exact h0
  | cons v vs ih =>
    obtain ⟨-, found, rest⟩ := h
    exact ih rest (sub_nonneg.mpr found)

theorem Honest.level_le_cap (h : Honest cap rate b vs) (hb : b.level ≤ cap) :
    (run cap rate b vs).level ≤ cap :=
  run_level_le_cap hb h.taken_nonneg

/-! ## What is available -/

theorem available_nonneg (hb : 0 ≤ b.level) (hstamp : b.stamp ≤ now) (hcap : 0 ≤ cap)
    (hrate : 0 ≤ rate) : 0 ≤ available cap rate b now :=
  le_min (add_nonneg hb (mul_nonneg hrate (sub_nonneg.mpr hstamp))) hcap

/-- What is available grows no faster than the rate. -/
theorem available_le_of_le {later : K} (hrate : 0 ≤ rate) (h : now ≤ later) :
    available cap rate b later ≤ available cap rate b now + rate * (later - now) := by
  have more := mul_nonneg hrate (sub_nonneg.mpr h)
  unfold available
  rw [← min_add_add_right]
  apply min_le_min
  · linarith
  · linarith

/-- **A visit takes its takings off what is available.** -/
theorem available_visit_le (hb : b.level ≤ cap) (hstamp : b.stamp ≤ v.time) (hrate : 0 ≤ rate) :
    available cap rate (visit cap rate b v) v.time + v.taken ≤ available cap rate b v.time := by
  have elapsed := mul_nonneg hrate (sub_nonneg.mpr hstamp)
  unfold available
  rw [visit_level, visit_stamp]
  by_cases h : 0 < rate * (v.time - b.stamp)
  · rw [fill_of_pos h]
    dsimp only
    rw [sub_self, mul_zero, add_zero]
    linarith [min_le_left (min (b.level + rate * (v.time - b.stamp)) cap - v.taken) cap]
  · rw [fill_of_nonpos h, le_antisymm (not_lt.mp h) elapsed, add_zero, add_zero, min_eq_left hb]
    linarith [min_le_left (b.level - v.taken) cap]

end Ordered

end Bounds

end TokenBucket
