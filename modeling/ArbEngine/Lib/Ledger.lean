import Mathlib.Algebra.BigOperators.Ring.Finset
import Mathlib.Algebra.Group.Basic
import Mathlib.Logic.Function.Basic
import Mathlib.Tactic.Common

/-!
# Ledgers

Balances of accounts, and postings that change one balance each. Accounts are any type with
decidable equality, amounts any commutative monoid: an account is typically a place together
with a good, and an amount a signed number.

A list of postings changes a balance by its `net` on that account (`postAll_apply`), whatever
the order and whatever was posted to the other accounts. Where amounts cancel, two lists of
postings are the same change exactly when they have the same nets (`postAll_eq_iff`).
-/

namespace Ledger

variable {κ M : Type} [DecidableEq κ]

section Monoid

variable [AddCommMonoid M] {b : κ → M} {p : κ × M} {ps qs : List (κ × M)} {k : κ}

/-- One posting. -/
def post (b : κ → M) (p : κ × M) : κ → M := Function.update b p.1 (b p.1 + p.2)

/-- Postings, one after another. -/
def postAll (b : κ → M) (ps : List (κ × M)) : κ → M := ps.foldl post b

/-- What postings add to one account altogether. -/
def net : List (κ × M) → κ → M
  | [], _ => 0
  | p :: ps, k => (if p.1 = k then p.2 else 0) + net ps k

@[simp] theorem net_nil : net ([] : List (κ × M)) k = 0 := rfl

@[simp] theorem net_cons : net (p :: ps) k = (if p.1 = k then p.2 else 0) + net ps k := rfl

@[simp] theorem net_append : net (ps ++ qs) k = net ps k + net qs k := by
  induction ps with
  | nil => simp
  | cons p ps ih => rw [List.cons_append, net_cons, net_cons, ih, add_assoc]

theorem post_apply : post b p k = b k + if p.1 = k then p.2 else 0 := by
  unfold post
  by_cases h : p.1 = k
  · subst h
    rw [Function.update_self, if_pos rfl]
  · rw [Function.update_of_ne (Ne.symm h), if_neg h, add_zero]

/-- **Postings change every balance by their net on it.** -/
theorem postAll_apply : postAll b ps k = b k + net ps k := by
  induction ps generalizing b with
  | nil => simp [postAll]
  | cons p ps ih =>
    show postAll (post b p) ps k = _
    rw [ih, post_apply, net_cons, add_assoc]

theorem postAll_append : postAll b (ps ++ qs) = postAll (postAll b ps) qs :=
  List.foldl_append

@[simp] theorem postAll_nil : postAll b [] = b := rfl

end Monoid

/-- **Where amounts cancel, postings are determined by their nets.** -/
theorem postAll_eq_iff [AddCommGroup M] {b : κ → M} {ps qs : List (κ × M)} :
    postAll b ps = postAll b qs ↔ ∀ k, net ps k = net qs k := by
  constructor
  · intro h k
    have hk := congrFun h k
    rw [postAll_apply, postAll_apply] at hk
    exact add_left_cancel hk
  · intro h
    funext k
    rw [postAll_apply, postAll_apply, h k]

/-! ## What the balances are worth -/

section Worth

variable [NonUnitalNonAssocSemiring M] {b : κ → M} {p : κ × M} {ps : List (κ × M)}

/-- What some accounts are worth at given prices. -/
def worth (accounts : Finset κ) (price b : κ → M) : M := ∑ k ∈ accounts, b k * price k

/-- What a posting is worth there. -/
def postingWorth (accounts : Finset κ) (price : κ → M) (p : κ × M) : M :=
  if p.1 ∈ accounts then p.2 * price p.1 else 0

variable {accounts : Finset κ} {price : κ → M}

theorem worth_post : worth accounts price (post b p) =
    worth accounts price b + postingWorth accounts price p := by
  unfold worth postingWorth
  rw [← Finset.sum_ite_eq accounts p.1 fun k => p.2 * price k, ← Finset.sum_add_distrib]
  refine Finset.sum_congr rfl fun k _ => ?_
  rw [post_apply, add_mul, ite_mul, zero_mul]

/-- **Postings change what the accounts are worth by what they are worth.** -/
theorem worth_postAll : worth accounts price (postAll b ps) =
    worth accounts price b + (ps.map (postingWorth accounts price)).sum := by
  induction ps generalizing b with
  | nil => exact (add_zero _).symm
  | cons p ps ih =>
    show worth accounts price (postAll (post b p) ps) = _
    rw [ih, worth_post, List.map_cons, List.sum_cons, add_assoc]

end Worth

end Ledger
