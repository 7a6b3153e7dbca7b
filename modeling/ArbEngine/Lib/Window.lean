import Mathlib.Data.List.DropRight
import Mathlib.Tactic.Common

/-!
# The last entries of a stream

`push cap window x` puts `x` at the end of a window that keeps `cap` entries, the oldest first.
After any stream of pushes the window is the end of the stream (`foldl_push_nil`).
-/

namespace Window

variable {α : Type} {cap : ℕ}

def push (cap : ℕ) (window : List α) (x : α) : List α :=
  (if cap ≤ window.length then window.tail else window) ++ [x]

theorem rtake_of_length_le {xs : List α} {n : ℕ} (h : xs.length ≤ n) : xs.rtake n = xs := by
  rw [List.rtake, Nat.sub_eq_zero_of_le h, List.drop_zero]

theorem length_rtake (xs : List α) (n : ℕ) : (xs.rtake n).length = min n xs.length := by
  rw [List.rtake, List.length_drop]
  omega

/-- The window slides. -/
theorem push_rtake (xs : List α) (x : α) :
    push (cap + 1) (xs.rtake (cap + 1)) x = (xs ++ [x]).rtake (cap + 1) := by
  rw [List.rtake_concat_succ, push, length_rtake]
  congr 1
  split
  · rename_i full
    rw [List.rtake, List.rtake, List.tail_drop]
    congr 1
    omega
  · rename_i room
    rw [rtake_of_length_le (by omega), rtake_of_length_le (by omega)]

theorem foldl_push_rtake (xs ys : List α) :
    ys.foldl (push (cap + 1)) (xs.rtake (cap + 1)) = (xs ++ ys).rtake (cap + 1) := by
  induction ys generalizing xs with
  | nil => rw [List.foldl_nil, List.append_nil]
  | cons y ys ih => rw [List.foldl_cons, push_rtake, ih, List.append_assoc, List.singleton_append]

/-- **A window that starts empty** holds the end of the stream. -/
theorem foldl_push_nil (ys : List α) : ys.foldl (push (cap + 1)) [] = ys.rtake (cap + 1) := by
  have start : ys.foldl (push (cap + 1)) (List.rtake [] (cap + 1)) =
      ([] ++ ys).rtake (cap + 1) := foldl_push_rtake [] ys
  rwa [List.rtake_nil, List.nil_append] at start

/-- A replicated entry fills the window. -/
theorem rtake_append_replicate (xs : List α) (x : α) {n k : ℕ} (h : n ≤ k) :
    (xs ++ List.replicate k x).rtake n = List.replicate n x := by
  have skip : (xs ++ List.replicate k x).length - n = xs.length + (k - n) := by
    rw [List.length_append, List.length_replicate]
    omega
  rw [List.rtake, skip, List.drop_length_add_append, List.drop_replicate]
  congr 1
  omega

end Window
