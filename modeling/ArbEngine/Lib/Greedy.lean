import Mathlib.Algebra.BigOperators.Group.List.Basic
import Mathlib.Algebra.BigOperators.Ring.List
import Mathlib.Algebra.Order.Field.Basic
import Mathlib.Data.List.Forall2
import Mathlib.Tactic.Linarith
import Mathlib.Tactic.Ring

/-!
# Filling an amount from a list of offers

An offer has a price and a capacity. `greedy` takes an amount from the offers in their order, from
each as much as there is and as is still wanted. An allocation takes any amounts within the
capacities.

* `sum_greedy`: the greedy allocation takes the whole amount, or everything there is.
* `cost_greedy_le`: where the offers get dearer it is the cheapest allocation of its total, and
  where they get cheaper (`le_cost_greedy`) the dearest.
* `average_mono`: its average price then moves one way only, as a larger allocation scaled down is
  an allocation of the smaller amount.
-/

namespace Greedy

variable {α : Type} [Field α] [LinearOrder α] [IsStrictOrderedRing α]

/-- The amounts taken of the offers, in order. -/
def greedy : List (α × α) → α → List α
  | [], _ => []
  | offer :: offers, amount =>
      min amount offer.2 :: greedy offers (amount - min amount offer.2)

/-- The amounts are within the capacities of the offers. -/
def Alloc (offers : List (α × α)) (xs : List α) : Prop :=
  List.Forall₂ (fun offer x => 0 ≤ x ∧ x ≤ offer.2) offers xs

/-- What the amounts cost at the prices of their offers. -/
def cost : List (α × α) → List α → α
  | offer :: offers, x :: xs => offer.1 * x + cost offers xs
  | _, _ => 0

/-- All there is. -/
def depth (offers : List (α × α)) : α := (offers.map Prod.snd).sum

/-- No capacity is negative. -/
def Offered (offers : List (α × α)) : Prop := ∀ offer ∈ offers, 0 ≤ offer.2

variable {offers : List (α × α)} {offer : α × α} {xs : List α} {amount amount' p t x : α}

omit [LinearOrder α] [IsStrictOrderedRing α] in
@[simp] theorem cost_nil : cost [] xs = 0 := rfl

omit [LinearOrder α] [IsStrictOrderedRing α] in
@[simp] theorem cost_cons : cost (offer :: offers) (x :: xs) = offer.1 * x + cost offers xs := rfl

omit [LinearOrder α] [IsStrictOrderedRing α] in
@[simp] theorem depth_nil : depth ([] : List (α × α)) = 0 := rfl

omit [LinearOrder α] [IsStrictOrderedRing α] in
@[simp] theorem depth_cons : depth (offer :: offers) = offer.2 + depth offers := by
  simp [depth]

omit [IsStrictOrderedRing α] in
theorem offered_cons : Offered (offer :: offers) ↔ 0 ≤ offer.2 ∧ Offered offers :=
  List.forall_mem_cons

/-- There is never less than nothing. -/
theorem depth_nonneg (h : Offered offers) : 0 ≤ depth offers := by
  induction offers with
  | nil => simp
  | cons offer offers ih =>
    obtain ⟨hcap, hrest⟩ := offered_cons.mp h
    rw [depth_cons]
    exact add_nonneg hcap (ih hrest)

/-! ## The greedy allocation -/

/-- The greedy allocation is an allocation: no amount exceeds its offer, and none is negative. -/
theorem alloc_greedy (h : Offered offers) (hamount : 0 ≤ amount) :
    Alloc offers (greedy offers amount) := by
  induction offers generalizing amount with
  | nil => exact List.Forall₂.nil
  | cons offer offers ih =>
    obtain ⟨hcap, hrest⟩ := offered_cons.mp h
    refine List.Forall₂.cons ⟨le_min hamount hcap, min_le_right _ _⟩ ?_
    exact ih hrest (sub_nonneg.mpr (min_le_left _ _))

/-- **The greedy allocation takes the whole amount, or all there is.** By induction on the offers,
    with the amount that is still wanted. -/
theorem sum_greedy (h : Offered offers) (hamount : 0 ≤ amount) :
    (greedy offers amount).sum = min amount (depth offers) := by
  induction offers generalizing amount with
  | nil => simp [greedy, hamount]
  | cons offer offers ih =>
    obtain ⟨hcap, hrest⟩ := offered_cons.mp h
    have hdepth := depth_nonneg hrest
    rw [greedy, List.sum_cons, depth_cons, ih hrest (sub_nonneg.mpr (min_le_left _ _))]
    rcases le_total amount offer.2 with hle | hle
    · rw [min_eq_left hle, sub_self, min_eq_left hdepth, min_eq_left (by linarith), add_zero]
    · rw [min_eq_right hle, ← min_add_add_left, add_sub_cancel]

omit [IsStrictOrderedRing α] in
/-- Nothing costs nothing. -/
theorem cost_greedy_zero (h : Offered offers) : cost offers (greedy offers 0) = 0 := by
  induction offers with
  | nil => rfl
  | cons offer offers ih =>
    obtain ⟨hcap, hrest⟩ := offered_cons.mp h
    rw [greedy, min_eq_left hcap, cost_cons, sub_self, ih hrest, mul_zero, add_zero]

/-- Taking all there is of the offers at the front takes nothing of the others. -/
theorem greedy_append {near far : List (α × α)} (h : Offered near) :
    greedy (near ++ far) (depth near) = near.map Prod.snd ++ greedy far 0 := by
  induction near with
  | nil => rfl
  | cons offer near ih =>
    obtain ⟨hcap, hrest⟩ := offered_cons.mp h
    have hdepth := depth_nonneg hrest
    rw [List.cons_append, greedy, depth_cons, min_eq_right (by linarith), add_sub_cancel_left,
      ih hrest]
    rfl

omit [LinearOrder α] [IsStrictOrderedRing α] in
/-- The cost of two lists of offers is that of each. -/
theorem cost_append {near far : List (α × α)} {ys : List α} (h : near.length = xs.length) :
    cost (near ++ far) (xs ++ ys) = cost near xs + cost far ys := by
  induction near generalizing xs with
  | nil =>
    rw [List.eq_nil_of_length_eq_zero h.symm, List.nil_append, List.nil_append, cost_nil, zero_add]
  | cons offer near ih =>
    cases xs with
    | nil => cases h
    | cons x xs =>
      rw [List.cons_append, List.cons_append, cost_cons, cost_cons, ih (Nat.succ.inj h), add_assoc]

omit [LinearOrder α] [IsStrictOrderedRing α] in
theorem depth_append {near far : List (α × α)} : depth (near ++ far) = depth near + depth far := by
  rw [depth, List.map_append, List.sum_append, depth, depth]

omit [IsStrictOrderedRing α] in
/-- Taking all there is of every offer is an allocation, -/
theorem alloc_all (h : Offered offers) : Alloc offers (offers.map Prod.snd) := by
  unfold Alloc
  rw [List.forall₂_map_right_iff, List.forall₂_same]
  exact fun offer hoffer => ⟨h offer hoffer, le_rfl⟩

omit [LinearOrder α] [IsStrictOrderedRing α] in
/-- and this is what it costs. -/
theorem cost_all : cost offers (offers.map Prod.snd) = (offers.map fun o => o.1 * o.2).sum := by
  induction offers with
  | nil => rfl
  | cons offer offers ih =>
    rw [List.map_cons, cost_cons, ih, List.map_cons, List.sum_cons]

theorem sum_greedy_append {near far : List (α × α)} (hnear : Offered near) (hfar : Offered far) :
    (greedy (near ++ far) (depth near)).sum = depth near := by
  have all : Offered (near ++ far) := List.forall_mem_append.mpr ⟨hnear, hfar⟩
  rw [sum_greedy all (depth_nonneg hnear), depth_append]
  exact min_eq_left (le_add_of_nonneg_right (depth_nonneg hfar))

/-- All there is of the offers at the front costs what these do. -/
theorem cost_greedy_append {near far : List (α × α)} (hnear : Offered near) (hfar : Offered far) :
    cost (near ++ far) (greedy (near ++ far) (depth near)) = cost near (near.map Prod.snd) := by
  rw [greedy_append hnear, cost_append (List.length_map _).symm, cost_greedy_zero hfar, add_zero]

/-! ## The cheapest allocation -/

/-- An allocation costs what its total does at a price that no offer is below. -/
theorem mul_sum_le_cost (hp : ∀ o ∈ offers, p ≤ o.1) (h : Alloc offers xs) :
    p * xs.sum ≤ cost offers xs := by
  induction h with
  | nil => simp
  | @cons offer x offers xs hx _ ih =>
    obtain ⟨hhead, hrest⟩ := List.forall_mem_cons.mp hp
    rw [List.sum_cons, cost_cons, mul_add]
    exact add_le_add (mul_le_mul_of_nonneg_right hhead hx.1) (ih hrest)

/-- What is taken at positive prices costs something. -/
theorem cost_pos (hp : ∀ o ∈ offers, 0 < o.1) (h : Alloc offers xs) (hsum : 0 < xs.sum) :
    0 < cost offers xs := by
  induction h with
  | nil => simp at hsum
  | @cons offer x offers xs hx hrest ih =>
    obtain ⟨hhead, htail⟩ := List.forall_mem_cons.mp hp
    rw [cost_cons]
    rcases hx.1.eq_or_lt with rfl | hpos
    · rw [List.sum_cons, zero_add] at hsum
      rw [mul_zero, zero_add]
      exact ih htail hsum
    · have rest := mul_sum_le_cost (fun o ho => (htail o ho).le) hrest
      rw [zero_mul] at rest
      exact add_pos_of_pos_of_nonneg (mul_pos hhead hpos) rest

/-- **The greedy allocation is the cheapest**, also of those that take more: what they take beyond
    it costs them no less than the cheapest offer. By induction on the offers, with the price of
    what is taken beyond as an argument, so that the rest can be compared at the price of the first
    offer. -/
theorem cost_greedy_add_le (sorted : offers.Pairwise fun o o' => o.1 ≤ o'.1)
    (hp : ∀ o ∈ offers, p ≤ o.1) (hoff : Offered offers) (hamount : 0 ≤ amount)
    (h : Alloc offers xs) (hsum : (greedy offers amount).sum ≤ xs.sum) :
    cost offers (greedy offers amount) + p * (xs.sum - (greedy offers amount).sum) ≤
      cost offers xs := by
  induction h generalizing amount p with
  | nil => simp [greedy]
  | @cons offer x offers xs hx hrest ih =>
    obtain ⟨hhead, htail⟩ := List.forall_mem_cons.mp hp
    obtain ⟨hdear, sorted⟩ := List.pairwise_cons.mp sorted
    obtain ⟨hcap, hoff⟩ := offered_cons.mp hoff
    have hleft : 0 ≤ amount - min amount offer.2 := sub_nonneg.mpr (min_le_left _ _)
    rw [greedy, List.sum_cons, List.sum_cons] at hsum ⊢
    rw [cost_cons, cost_cons]
    rcases le_or_gt x (min amount offer.2) with hless | hmore
    · -- The rest of the allocation makes up for what it takes less of the first offer.
      have step := ih sorted hdear hoff hleft (by linarith)
      have dear : 0 ≤ (offer.1 - p) * (x + xs.sum -
          (min amount offer.2 + (greedy offers (amount - min amount offer.2)).sum)) :=
        mul_nonneg (by linarith) (by linarith)
      linarith
    · -- It takes more of the first offer, so the greedy allocation is done with that.
      have hdone : min amount offer.2 = amount := by
        rcases min_choice amount offer.2 with hmin | hmin
        · exact hmin
        · rw [hmin] at hmore
          exact absurd hx.2 (not_le.mpr hmore)
      rw [hdone] at hmore ⊢
      rw [sub_self, cost_greedy_zero hoff, sum_greedy hoff le_rfl,
        min_eq_left (depth_nonneg hoff)]
      have rest : p * xs.sum ≤ cost offers xs := mul_sum_le_cost htail hrest
      have first : p * (x - amount) ≤ offer.1 * (x - amount) :=
        mul_le_mul_of_nonneg_right hhead (by linarith)
      linarith

/-- **Of all allocations of its total the greedy one is the cheapest.** -/
theorem cost_greedy_le (sorted : offers.Pairwise fun o o' => o.1 ≤ o'.1) (hoff : Offered offers)
    (hamount : 0 ≤ amount) (h : Alloc offers xs) (hsum : xs.sum = (greedy offers amount).sum) :
    cost offers (greedy offers amount) ≤ cost offers xs := by
  cases offers with
  | nil => simp
  | cons offer offers =>
    have cheapest : ∀ o ∈ offer :: offers, offer.1 ≤ o.1 := by
      refine List.forall_mem_cons.mpr ⟨le_rfl, ?_⟩
      exact (List.pairwise_cons.mp sorted).1
    have bound := cost_greedy_add_le sorted cheapest hoff hamount h hsum.ge
    rw [hsum, sub_self, mul_zero, add_zero] at bound
    exact bound

/-! ## Averages -/

/-- A part of an allocation is one. -/
theorem Alloc.scale (h : Alloc offers xs) (h0 : 0 ≤ t) (h1 : t ≤ 1) :
    Alloc offers (xs.map (t * ·)) := by
  induction h with
  | nil => exact List.Forall₂.nil
  | @cons offer x offers xs hx _ ih =>
    refine List.Forall₂.cons ⟨mul_nonneg h0 hx.1, ?_⟩ ih
    exact (mul_le_of_le_one_left hx.1 h1).trans hx.2

omit [LinearOrder α] [IsStrictOrderedRing α] in
/-- And it costs the same part. -/
theorem cost_scale : cost offers (xs.map (t * ·)) = t * cost offers xs := by
  induction offers generalizing xs with
  | nil => simp
  | cons offer offers ih =>
    cases xs with
    | nil => simp [cost]
    | cons x xs =>
      rw [List.map_cons, cost_cons, cost_cons, ih]
      ring

/-- A larger amount takes no less. -/
theorem sum_greedy_mono (hoff : Offered offers) (hamount : 0 ≤ amount)
    (hle : amount ≤ amount') : (greedy offers amount).sum ≤ (greedy offers amount').sum := by
  rw [sum_greedy hoff hamount, sum_greedy hoff (hamount.trans hle)]
  exact min_le_min_right _ hle

/-- **Where the offers get dearer the average price does not fall with the amount.** The larger
    allocation, scaled down to the smaller total, is an allocation of that total at the larger
    one's average, and the greedy one is no dearer. -/
theorem average_mono (sorted : offers.Pairwise fun o o' => o.1 ≤ o'.1) (hoff : Offered offers)
    (hamount : 0 ≤ amount) (hle : amount ≤ amount') (htaken : 0 < (greedy offers amount).sum) :
    cost offers (greedy offers amount) / (greedy offers amount).sum ≤
      cost offers (greedy offers amount') / (greedy offers amount').sum := by
  have hmore := sum_greedy_mono hoff hamount hle
  have htaken' : 0 < (greedy offers amount').sum := htaken.trans_le hmore
  -- The larger allocation, scaled down to the smaller total.
  have scaled := (alloc_greedy hoff (hamount.trans hle)).scale
    (div_nonneg htaken.le htaken'.le) ((div_le_one htaken').mpr hmore)
  have total : ((greedy offers amount').map
      ((greedy offers amount).sum / (greedy offers amount').sum * ·)).sum =
        (greedy offers amount).sum := by
    rw [List.sum_map_mul_left, List.map_id', div_mul_cancel₀ _ htaken'.ne']
  have bound := cost_greedy_le sorted hoff hamount scaled total
  rw [cost_scale] at bound
  rw [div_le_div_iff₀ htaken htaken']
  calc cost offers (greedy offers amount) * (greedy offers amount').sum
      ≤ (greedy offers amount).sum / (greedy offers amount').sum *
          cost offers (greedy offers amount') * (greedy offers amount').sum :=
        mul_le_mul_of_nonneg_right bound htaken'.le
    _ = cost offers (greedy offers amount') * (greedy offers amount).sum := by
        rw [div_mul_eq_mul_div, div_mul_cancel₀ _ htaken'.ne', mul_comm]

/-! ## Offers that get cheaper -/

/-- The same offers at the opposite prices. -/
def flip (offers : List (α × α)) : List (α × α) := offers.map fun o => (-o.1, o.2)

omit [IsStrictOrderedRing α] in
/-- The prices do not matter to what is taken. -/
theorem greedy_flip : greedy (flip offers) amount = greedy offers amount := by
  induction offers generalizing amount with
  | nil => rfl
  | cons offer offers ih => exact congrArg _ ih

omit [LinearOrder α] [IsStrictOrderedRing α] in
/-- With opposite prices the cost is the opposite, -/
theorem cost_flip : cost (flip offers) xs = -cost offers xs := by
  induction offers generalizing xs with
  | nil => simp [flip]
  | cons offer offers ih =>
    cases xs with
    | nil => simp [flip, cost]
    | cons x xs =>
      show -offer.1 * x + cost (flip offers) xs = _
      rw [ih, cost_cons]
      ring

omit [IsStrictOrderedRing α] in
theorem alloc_flip : Alloc (flip offers) xs ↔ Alloc offers xs := by
  unfold Alloc flip
  rw [List.forall₂_map_left_iff]

omit [IsStrictOrderedRing α] in
theorem offered_flip : Offered (flip offers) ↔ Offered offers := by
  unfold Offered flip
  rw [List.forall_mem_map]

/-- and an order of the prices is turned around. So each fact about offers that get dearer is one
    about offers that get cheaper. -/
theorem pairwise_flip :
    (flip offers).Pairwise (fun o o' => o.1 ≤ o'.1) ↔
      offers.Pairwise fun o o' => o'.1 ≤ o.1 := by
  unfold flip
  rw [List.pairwise_map]
  simp

theorem cost_le_mul_sum (hp : ∀ o ∈ offers, o.1 ≤ p) (h : Alloc offers xs) :
    cost offers xs ≤ p * xs.sum := by
  have hp' : ∀ o ∈ flip offers, -p ≤ o.1 := by
    unfold flip
    refine List.forall_mem_map.mpr fun o ho => ?_
    exact neg_le_neg (hp o ho)
  have bound := mul_sum_le_cost hp' (alloc_flip.mpr h)
  rw [cost_flip] at bound
  linarith

/-- **Of all allocations of its total the greedy one is the dearest**, where the offers get
    cheaper. -/
theorem le_cost_greedy (sorted : offers.Pairwise fun o o' => o'.1 ≤ o.1) (hoff : Offered offers)
    (hamount : 0 ≤ amount) (h : Alloc offers xs) (hsum : xs.sum = (greedy offers amount).sum) :
    cost offers xs ≤ cost offers (greedy offers amount) := by
  have bound := cost_greedy_le (pairwise_flip.mpr sorted) (offered_flip.mpr hoff) hamount
    (alloc_flip.mpr h) (by rw [greedy_flip]; exact hsum)
  rw [greedy_flip, cost_flip, cost_flip] at bound
  linarith

/-- **Where they get cheaper it does not rise.** -/
theorem average_anti (sorted : offers.Pairwise fun o o' => o'.1 ≤ o.1) (hoff : Offered offers)
    (hamount : 0 ≤ amount) (hle : amount ≤ amount') (htaken : 0 < (greedy offers amount).sum) :
    cost offers (greedy offers amount') / (greedy offers amount').sum ≤
      cost offers (greedy offers amount) / (greedy offers amount).sum := by
  have bound := average_mono (pairwise_flip.mpr sorted) (offered_flip.mpr hoff) hamount hle
    (by rw [greedy_flip]; exact htaken)
  rw [greedy_flip, greedy_flip, cost_flip, cost_flip, neg_div, neg_div] at bound
  linarith

end Greedy
