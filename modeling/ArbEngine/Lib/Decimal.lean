import Mathlib.Algebra.Order.Field.Rat
import Mathlib.Algebra.Order.Floor.Semifield
import Mathlib.Data.List.TakeWhile
import Mathlib.Data.Nat.Find
import Mathlib.Data.Rat.Floor
import Mathlib.Tactic.Linarith
import Mathlib.Tactic.Positivity
import Mathlib.Tactic.FieldSimp
import Mathlib.Tactic.Ring

/-!
# Decimal numerals and bounded decimals

A `Numeral` is a decimal number as it is written, with any number of digits; `read` is a reader
of such texts, and `read_text` says that it reads each of them as its value.

A `DecimalFormat` keeps a number as a mantissa below a bound and a scale up to a maximum. What
does not fit is rounded: to the largest scale at which the whole mantissa fits, halves away from
zero. What fits is kept (`round_of_represents`), and a number that overflows the mantissa once it
is scaled up still does so after rounding (`le_of_round`).
-/

/-! ## Numerals -/

/-- The number that a list of digits denotes. -/
def digitsValue (digits : List Char) : ℕ :=
  digits.foldl (fun n c => 10 * n + (c.toNat - 48)) 0

/-- The number with these digits before and after the point. -/
def magnitude (whole fraction : List Char) : ℚ :=
  digitsValue (whole ++ fraction) / 10 ^ fraction.length

/-- A decimal numeral: an optional sign, and digits with at most one point among them. -/
structure Numeral where
  negative : Option Bool
  whole : List Char
  fraction : Option (List Char)
  digits : ∀ c ∈ whole ++ fraction.getD [], c.isDigit
  nonempty : whole ++ fraction.getD [] ≠ []

namespace Numeral

/-- The numeral without its sign. -/
def unsigned (n : Numeral) : List Char :=
  n.whole ++ match n.fraction with
    | none => []
    | some fraction => '.' :: fraction

/-- The numeral as it is written. -/
def text (n : Numeral) : List Char :=
  match n.negative with
  | none => n.unsigned
  | some false => '+' :: n.unsigned
  | some true => '-' :: n.unsigned

/-- The number that it denotes. -/
def value (n : Numeral) : ℚ :=
  let x := magnitude n.whole (n.fraction.getD [])
  if n.negative = some true then -x else x

/-! ### Reading -/

/-- A reader of digits with at most one point among them; there has to be a digit. -/
def readUnsigned (cs : List Char) : Option ℚ :=
  let whole := cs.takeWhile Char.isDigit
  match cs.dropWhile Char.isDigit with
  | [] => if whole = [] then none else some (magnitude whole [])
  | '.' :: fraction =>
      if fraction.all Char.isDigit && whole ++ fraction ≠ [] then some (magnitude whole fraction)
      else none
  | _ => none

/-- A reader of numerals: the sign is optional, and either one may be written. -/
def read : List Char → Option ℚ
  | '+' :: cs => readUnsigned cs
  | '-' :: cs => (readUnsigned cs).map Neg.neg
  | cs => readUnsigned cs

/-- Without a sign the digits are read. -/
theorem read_of_unsigned {cs : List Char} (plus : cs.head? ≠ some '+')
    (minus : cs.head? ≠ some '-') : read cs = readUnsigned cs := by
  unfold read
  split
  · exact absurd rfl plus
  · exact absurd rfl minus
  · rfl

/-- The digits before the point are taken as long as there are any, and then comes the point or the
    end. -/
theorem readUnsigned_unsigned (n : Numeral) :
    readUnsigned n.unsigned = some (magnitude n.whole (n.fraction.getD [])) := by
  obtain ⟨negative, whole, fraction, digits, nonempty⟩ := n
  have wholeDigits : ∀ c ∈ whole, c.isDigit = true :=
    fun c hc => digits c (List.mem_append_left _ hc)
  unfold readUnsigned unsigned
  cases fraction with
  | none =>
    dsimp only
    rw [List.append_nil, List.takeWhile_eq_self_iff.mpr wholeDigits,
      List.dropWhile_eq_nil_iff.mpr wholeDigits]
    have some_digit : whole ≠ [] := by simpa using nonempty
    rw [Option.getD_none]
    exact if_neg some_digit
  | some fraction =>
    have fractionDigits : fraction.all Char.isDigit = true :=
      List.all_eq_true.mpr fun c hc => digits c (List.mem_append_right _ hc)
    dsimp only
    rw [List.takeWhile_append_of_pos wholeDigits, List.dropWhile_append_of_pos wholeDigits,
      List.takeWhile_cons_of_neg (by decide), List.dropWhile_cons_of_neg (by decide),
      List.append_nil]
    have some_digit : whole ++ fraction ≠ [] := nonempty
    simp [fractionDigits, some_digit]

/-- The text of the digits starts with a digit or the point. -/
theorem head?_unsigned (n : Numeral) {c : Char} (h : n.unsigned.head? = some c) :
    c.isDigit = true ∨ c = '.' := by
  obtain ⟨negative, whole, fraction, digits, nonempty⟩ := n
  unfold unsigned at h
  cases whole with
  | cons d whole =>
    obtain rfl : d = c := Option.some.inj h
    exact .inl (digits d (List.mem_append_left _ List.mem_cons_self))
  | nil =>
    cases fraction with
    | none => exact absurd rfl nonempty
    | some fraction =>
      obtain rfl : '.' = c := Option.some.inj h
      exact .inr rfl

/-- **A numeral is read as its value.** -/
theorem read_text (n : Numeral) : read n.text = some n.value := by
  have unsigned := n.readUnsigned_unsigned
  unfold text value
  cases sign : n.negative with
  | none =>
    have digitFirst : ∀ c, n.unsigned.head? = some c → c.isDigit = true ∨ c = '.' :=
      fun c => n.head?_unsigned
    dsimp only
    rw [read_of_unsigned, unsigned]
    · rfl
    · intro plus
      exact absurd (digitFirst _ plus) (by decide)
    · intro minus
      exact absurd (digitFirst _ minus) (by decide)
  | some negative =>
    cases negative with
    | false => exact unsigned
    | true =>
      show (readUnsigned n.unsigned).map Neg.neg = _
      rw [unsigned]
      rfl

end Numeral

/-- The text denotes the number. -/
def Denotes (s : String) (v : ℚ) : Prop := ∃ n : Numeral, n.text = s.toList ∧ n.value = v

/-- A text that denotes a number is read as that number. -/
theorem Denotes.read {s : String} {v : ℚ} (h : Denotes s v) : Numeral.read s.toList = some v := by
  obtain ⟨n, htext, rfl⟩ := h
  rw [← htext]
  exact n.read_text

/-! ## Bounded decimals -/

/-- Mantissas lie below `bound`, and scales go up to `maxScale`. -/
structure DecimalFormat where
  bound : ℕ
  maxScale : ℕ

namespace DecimalFormat

variable {f : DecimalFormat} {v x r : ℚ} {d k : ℕ}

/-- A number that the format holds, exactly. -/
def Represents (f : DecimalFormat) (v : ℚ) : Prop :=
  ∃ m s : ℕ, m < f.bound ∧ s ≤ f.maxScale ∧ |v| = m / 10 ^ s

/-- The largest scale at which the mantissa of the truncated number fits. -/
def scale (f : DecimalFormat) (x : ℚ) : ℕ :=
  Nat.findGreatest (fun k => ⌊x * 10 ^ k⌋₊ < f.bound) f.maxScale

def withSign (v x : ℚ) : ℚ := if v < 0 then -x else x

/-- The nearest number of the format at the scale of `v`. A mantissa that reaches the bound by
    rounding loses its last digit, if it has one after the point. -/
def round (f : DecimalFormat) (v : ℚ) : Option ℚ :=
  let k := f.scale |v|
  let m := ⌊|v| * 10 ^ k + 1 / 2⌋₊
  if f.bound ≤ ⌊|v|⌋₊ then none
  else if m < f.bound then some (withSign v (m / 10 ^ k))
  else if k = 0 then none
  else some (withSign v (((m + 4) / 10 : ℕ) / 10 ^ (k - 1)))

theorem abs_withSign (v : ℚ) (hx : 0 ≤ x) : |withSign v x| = x := by
  unfold withSign
  split
  · rw [abs_neg, abs_of_nonneg hx]
  · exact abs_of_nonneg hx

theorem withSign_abs (v : ℚ) : withSign v |v| = v := by
  unfold withSign
  split
  · rename_i negative
    rw [abs_of_neg negative, neg_neg]
  · rename_i nonneg
    exact abs_of_nonneg (not_lt.mp nonneg)

/-! ### The scale -/

/-- A larger scale makes the mantissa no smaller. -/
theorem floor_mul_pow_mono (hx : 0 ≤ x) (h : d ≤ k) : ⌊x * 10 ^ d⌋₊ ≤ ⌊x * 10 ^ k⌋₊ := by
  apply Nat.floor_mono
  apply mul_le_mul_of_nonneg_left _ hx
  exact pow_le_pow_right₀ (by norm_num) h

/-- At its scale the mantissa fits, -/
theorem floor_scale_lt (h : ⌊x⌋₊ < f.bound) : ⌊x * 10 ^ f.scale x⌋₊ < f.bound := by
  apply Nat.findGreatest_spec (P := fun k => ⌊x * 10 ^ k⌋₊ < f.bound) (Nat.zero_le f.maxScale)
  rwa [pow_zero, mul_one]

/-- and no larger scale would have done as well. -/
theorem le_scale (hd : d ≤ f.maxScale) (h : ⌊x * 10 ^ d⌋₊ < f.bound) : d ≤ f.scale x :=
  Nat.le_findGreatest hd h

theorem scale_le (f : DecimalFormat) (x : ℚ) : f.scale x ≤ f.maxScale := Nat.findGreatest_le _

/-- One digit more does not fit. -/
theorem bound_le_floor (h : f.scale x < d) (hd : d ≤ f.maxScale) : f.bound ≤ ⌊x * 10 ^ d⌋₊ :=
  not_lt.mp (Nat.findGreatest_is_greatest (P := fun k => ⌊x * 10 ^ k⌋₊ < f.bound) h hd)

/-! ### Rounding -/

/-- A number that is rounded to something is below the bound, and there are two cases: the mantissa
    fits, or it has reached the bound by rounding and loses a digit. -/
theorem round_eq_some (h : f.round v = some r) :
    ⌊|v|⌋₊ < f.bound ∧ ∃ m : ℕ, m = ⌊|v| * 10 ^ f.scale |v| + 1 / 2⌋₊ ∧
      ((m < f.bound ∧ r = withSign v (m / 10 ^ f.scale |v|)) ∨
        (f.bound ≤ m ∧ f.scale |v| ≠ 0 ∧
          r = withSign v (((m + 4) / 10 : ℕ) / 10 ^ (f.scale |v| - 1)))) := by
  unfold round at h
  dsimp only at h
  split at h
  · cases h
  · rename_i small
    refine ⟨not_le.mp small, _, rfl, ?_⟩
    split at h
    · rename_i fits
      exact .inl ⟨fits, (Option.some.inj h).symm⟩
    · rename_i exceeds
      split at h
      · cases h
      · rename_i more
        exact .inr ⟨not_lt.mp exceeds, more, (Option.some.inj h).symm⟩

/-- **What fits is kept.** Its own mantissa fits at its own scale, and scaling it up to the scale
    of the format adds zeros only, so nothing is rounded. -/
theorem round_of_represents (h : f.Represents v) : f.round v = some v := by
  obtain ⟨m, s, hm, hs, hv⟩ := h
  have scaled : |v| * 10 ^ s = m := by
    rw [hv]
    field_simp
  have most : s ≤ f.scale |v| := by
    apply le_scale hs
    rwa [scaled, Nat.floor_natCast]
  obtain ⟨e, he⟩ := Nat.exists_eq_add_of_le most
  have whole : |v| * 10 ^ f.scale |v| = (m * 10 ^ e : ℕ) := by
    rw [he, pow_add, ← mul_assoc, scaled]
    push_cast
    rfl
  have small : ⌊|v|⌋₊ < f.bound := by
    have less := floor_mul_pow_mono (abs_nonneg v) (Nat.zero_le s)
    rw [pow_zero, mul_one, scaled, Nat.floor_natCast] at less
    exact less.trans_lt hm
  have fits : m * 10 ^ e < f.bound := by
    have kept := floor_scale_lt small
    rwa [whole, Nat.floor_natCast] at kept
  have half : ⌊((m * 10 ^ e : ℕ) : ℚ) + 1 / 2⌋₊ = m * 10 ^ e := by
    rw [Nat.floor_eq_iff (by positivity)]
    constructor
    · linarith
    · linarith
  unfold round
  dsimp only
  rw [if_neg (not_le.mpr small), whole, half, if_pos fits, ← whole, mul_div_assoc,
    div_self (by positivity), mul_one, withSign_abs]

/-- Rounding gives numbers of the format: the mantissa fits, at a scale that is allowed. -/
theorem represents_of_round (h : f.round v = some r) : f.Represents r := by
  obtain ⟨small, m, hm, ⟨fits, rfl⟩ | ⟨exceeds, more, rfl⟩⟩ := round_eq_some h
  · exact ⟨m, _, fits, f.scale_le _, abs_withSign v (by positivity)⟩
  · refine ⟨(m + 4) / 10, _, ?_, (Nat.sub_le _ _).trans (f.scale_le _),
      abs_withSign v (by positivity)⟩
    have kept := floor_scale_lt small
    have least : m ≤ ⌊|v| * 10 ^ f.scale |v|⌋₊ + 1 := by
      rw [hm, ← Nat.floor_add_one (by positivity)]
      apply Nat.floor_mono
      linarith
    omega

/-- **What overflows once it is scaled up** still does so after rounding, where the last digit of
    the bound makes its tenth round up. -/
theorem le_of_round (digit : 6 ≤ f.bound % 10) (hd : d ≤ f.maxScale) (h : f.round v = some r)
    (exceeds : (f.bound : ℚ) ≤ |v| * 10 ^ d) : (f.bound : ℚ) ≤ |r| * 10 ^ d := by
  obtain ⟨small, m, hm, cases⟩ := round_eq_some h
  have kept := floor_scale_lt small
  have less : f.scale |v| < d := by
    by_contra more
    have mono := floor_mul_pow_mono (abs_nonneg v) (not_lt.mp more)
    have reached := Nat.le_floor exceeds
    omega
  obtain ⟨e, rfl⟩ := Nat.exists_eq_add_of_lt less
  -- The mantissa has at least a tenth of the bound.
  have tenth : f.bound ≤ 10 * m := by
    have next : (f.bound : ℚ) ≤ |v| * 10 ^ (f.scale |v| + 1) :=
      (Nat.le_floor_iff (by positivity)).mp (bound_le_floor (Nat.lt_succ_self _) (by omega))
    have above := Nat.lt_floor_add_one (|v| * 10 ^ f.scale |v| + 1 / 2)
    rw [← hm] at above
    rw [pow_succ, ← mul_assoc] at next
    have cast : (f.bound : ℚ) < (10 * m + 5 : ℕ) := by
      push_cast
      linarith
    have whole := Nat.cast_lt.mp cast
    omega
  rcases cases with ⟨-, rfl⟩ | ⟨reached, more, rfl⟩
  · rw [abs_withSign v (by positivity)]
    have power : (m : ℚ) / 10 ^ f.scale |v| * 10 ^ (f.scale |v| + e + 1) =
        (10 * m * 10 ^ e : ℕ) := by
      rw [pow_succ, pow_add]
      push_cast
      field_simp
    rw [power, Nat.cast_le]
    exact tenth.trans (Nat.le_mul_of_pos_right _ (by positivity))
  · rw [abs_withSign v (by positivity)]
    obtain ⟨k, hk⟩ := Nat.exists_eq_succ_of_ne_zero more
    rw [hk]
    have power : (((m + 4) / 10 : ℕ) : ℚ) / 10 ^ (k.succ - 1) * 10 ^ (k.succ + e + 1) =
        (100 * ((m + 4) / 10) * 10 ^ e : ℕ) := by
      rw [Nat.succ_sub_one, Nat.succ_eq_add_one, pow_succ, pow_add, pow_succ]
      push_cast
      field_simp
      ring
    rw [power, Nat.cast_le]
    have enough : f.bound ≤ 100 * ((m + 4) / 10) := by omega
    exact enough.trans (Nat.le_mul_of_pos_right _ (by positivity))

/-- A number of the format, scaled up by a power of ten, is one again where it fits. -/
theorem represents_mul_pow (h : f.Represents v) (fits : |v| * 10 ^ d < f.bound) :
    f.Represents (v * 10 ^ d) := by
  obtain ⟨m, s, hm, hs, hv⟩ := h
  have power : |v * 10 ^ d| = |v| * 10 ^ d := by
    rw [abs_mul, abs_of_pos (by positivity : (0 : ℚ) < 10 ^ d)]
  rw [Represents, power]
  rcases le_total d s with less | more
  · obtain ⟨e, rfl⟩ := Nat.exists_eq_add_of_le less
    refine ⟨m, e, hm, by omega, ?_⟩
    rw [hv, pow_add]
    field_simp
  · obtain ⟨e, rfl⟩ := Nat.exists_eq_add_of_le more
    have whole : |v| * 10 ^ (s + e) = (m * 10 ^ e : ℕ) := by
      rw [hv, pow_add]
      push_cast
      field_simp
    rw [whole] at fits ⊢
    exact ⟨m * 10 ^ e, 0, Nat.cast_lt.mp fits, Nat.zero_le _, by rw [pow_zero, div_one]⟩

end DecimalFormat
