import Mathlib.Data.Nat.Digits.Lemmas

/-!
# Bytes as numbers

The number that bytes stand for when the most significant comes first. Zeros in front do not
count (`value_replicate_append`), and without them the number of bytes says how large a number is
(`length_le_iff`). A number that fits is read back of its bytes (`value_bytes`).
-/

namespace BigEndian

variable {xs ys : List UInt8} {n : ℕ}

def value (bytes : List UInt8) : ℕ := Nat.ofDigits 256 (bytes.reverse.map UInt8.toNat)

@[simp] theorem value_nil : value [] = 0 := rfl

theorem value_append : value (xs ++ ys) = value xs * 256 ^ ys.length + value ys := by
  unfold value
  rw [List.reverse_append, List.map_append, Nat.ofDigits_append, List.length_map,
    List.length_reverse, Nat.mul_comm, Nat.add_comm]

@[simp] theorem value_replicate_zero (n : ℕ) : value (List.replicate n 0) = 0 := by
  unfold value
  rw [List.reverse_replicate, List.map_replicate]
  exact Nat.ofDigits_replicate_zero

/-- Zeros in front do not count. -/
theorem value_replicate_append : value (List.replicate n 0 ++ xs) = value xs := by
  rw [value_append, value_replicate_zero, Nat.zero_mul, Nat.zero_add]

theorem value_lt (xs : List UInt8) : value xs < 256 ^ xs.length := by
  have digits : ∀ d ∈ xs.reverse.map UInt8.toNat, d < 256 := by
    intro d hd
    obtain ⟨byte, -, rfl⟩ := List.mem_map.mp hd
    exact byte.toNat_lt
  have bound := Nat.ofDigits_lt_base_pow_length (by norm_num) digits
  rwa [List.length_map, List.length_reverse] at bound

/-- A number whose first byte is not zero has no shorter bytes. -/
theorem pow_le_value {byte : UInt8} (h : byte ≠ 0) : 256 ^ xs.length ≤ value (byte :: xs) := by
  have one : value [byte] = byte.toNat := by
    simp [value]
  have pos : 1 ≤ byte.toNat := by
    apply Nat.one_le_iff_ne_zero.mpr
    intro zero
    exact h (UInt8.toNat_inj.mp zero)
  rw [← List.singleton_append, value_append, one]
  exact le_add_right (Nat.le_mul_of_pos_left _ pos)

/-- **Without a zero in front, a number fits `n` bytes exactly if it has no more of them.** -/
theorem length_le_iff (h : ∀ byte ∈ xs.head?, byte ≠ 0) : xs.length ≤ n ↔ value xs < 256 ^ n := by
  constructor
  · intro short
    exact (value_lt xs).trans_le (Nat.pow_le_pow_right (by norm_num) short)
  · intro small
    cases xs with
    | nil => exact Nat.zero_le n
    | cons byte rest =>
      have least : 256 ^ rest.length ≤ value (byte :: rest) := pow_le_value (h byte rfl)
      exact (Nat.pow_lt_pow_iff_right (by norm_num)).mp (least.trans_lt small)

/-! ## Writing a number -/

/-- The last `n` bytes of a number. -/
def bytes : ℕ → ℕ → List UInt8
  | 0, _ => []
  | n + 1, v => bytes n (v / 256) ++ [UInt8.ofNat (v % 256)]

@[simp] theorem length_bytes (n v : ℕ) : (bytes n v).length = n := by
  induction n generalizing v with
  | zero => rfl
  | succ n ih => rw [bytes, List.length_append, ih, List.length_singleton]

theorem value_bytes {v : ℕ} (h : v < 256 ^ n) : value (bytes n v) = v := by
  induction n generalizing v with
  | zero =>
    rw [pow_zero, Nat.lt_one_iff] at h
    rw [h]
    rfl
  | succ n ih =>
    have high : v / 256 < 256 ^ n := Nat.div_lt_of_lt_mul (by rwa [pow_succ'] at h)
    have low : value [UInt8.ofNat (v % 256)] = v % 256 := by simp [value]
    rw [bytes, value_append, ih high, low, List.length_singleton, pow_one]
    exact Nat.div_add_mod' v 256

end BigEndian
