import ArbEngine.Lib.Decimal

/-!
# Writing decimals

A number that a `DecimalFormat` holds is written with as few digits behind the point as it needs,
and `value_written` says that what is written denotes it: a reader of numerals gets the number
back (`read_written`), and two numbers are never written alike.
-/

/-! ## Digits -/

theorem digitsValue_eq (digits : List Char) : digitsValue digits = Nat.ofDigitChars 10 digits 0 :=
  rfl

theorem digitsValue_append (xs ys : List Char) :
    digitsValue (xs ++ ys) = digitsValue xs * 10 ^ ys.length + digitsValue ys := by
  simp only [digitsValue_eq]
  rw [Nat.ofDigitChars_append, Nat.ofDigitChars_eq_ofDigitChars_zero (l := ys), Nat.mul_comm]

@[simp] theorem digitsValue_toDigits (n : ℕ) : digitsValue (Nat.toDigits 10 n) = n := by
  simp only [digitsValue_eq]
  rw [Nat.ofDigitChars_ten_toDigits]

/-- The digits of a number, with zeros before them up to a width. -/
def paddedDigits (width n : ℕ) : List Char :=
  List.replicate (width - (Nat.toDigits 10 n).length) '0' ++ Nat.toDigits 10 n

@[simp] theorem digitsValue_paddedDigits (width n : ℕ) :
    digitsValue (paddedDigits width n) = n := by
  have zeros : digitsValue (List.replicate (width - (Nat.toDigits 10 n).length) '0') = 0 := by
    simp only [digitsValue_eq]
    rw [Nat.ofDigitChars_replicate_zero, Nat.mul_zero]
  rw [paddedDigits, digitsValue_append, zeros, digitsValue_toDigits, Nat.zero_mul, Nat.zero_add]

theorem length_paddedDigits {width n : ℕ} (pos : 0 < width) (h : n < 10 ^ width) :
    (paddedDigits width n).length = width := by
  have fits := (Nat.length_toDigits_le_iff (by decide) pos).mpr h
  rw [paddedDigits, List.length_append, List.length_replicate]
  omega

theorem isDigit_paddedDigits {width n : ℕ} {c : Char} (h : c ∈ paddedDigits width n) :
    c.isDigit = true := by
  rcases List.mem_append.mp h with zero | digit
  · rw [List.eq_of_mem_replicate zero]
    rfl
  · exact Nat.isDigit_of_mem_toDigits (by decide) (by decide) digit

theorem isDigit_toDigits {n : ℕ} {c : Char} (h : c ∈ Nat.toDigits 10 n) : c.isDigit = true :=
  Nat.isDigit_of_mem_toDigits (by decide) (by decide) h

/-! ## Numerals -/

namespace Numeral

/-- The numeral with this mantissa and this many digits behind the point. -/
def ofScaled (negative : Bool) (m s : ℕ) : Numeral where
  negative := if negative then some true else none
  whole := Nat.toDigits 10 (m / 10 ^ s)
  fraction := if s = 0 then none else some (paddedDigits s (m % 10 ^ s))
  digits := by
    intro c hc
    rcases List.mem_append.mp hc with whole | fraction
    · exact isDigit_toDigits whole
    · split at fraction
      · cases fraction
      · exact isDigit_paddedDigits fraction
  nonempty := by simp

theorem magnitude_ofScaled (negative : Bool) (m s : ℕ) :
    magnitude (ofScaled negative m s).whole ((ofScaled negative m s).fraction.getD []) =
      m / 10 ^ s := by
  unfold ofScaled
  dsimp only
  by_cases none : s = 0
  · rw [if_pos none, Option.getD_none, magnitude, List.append_nil, digitsValue_toDigits, none]
    simp
  · have small : m % 10 ^ s < 10 ^ s := Nat.mod_lt _ (by positivity)
    rw [if_neg none, Option.getD_some, magnitude, digitsValue_append, digitsValue_toDigits,
      digitsValue_paddedDigits, length_paddedDigits (by omega) small, Nat.div_add_mod']

theorem value_ofScaled (negative : Bool) (m s : ℕ) :
    (ofScaled negative m s).value = if negative then -(m / 10 ^ s : ℚ) else m / 10 ^ s := by
  unfold value
  rw [magnitude_ofScaled]
  cases negative <;> rfl

theorem mem_unsigned {n : Numeral} {c : Char} (h : c ∈ n.unsigned) :
    c.isDigit = true ∨ c = '.' := by
  obtain ⟨negative, whole, fraction, digits, nonempty⟩ := n
  rcases List.mem_append.mp h with inWhole | inFraction
  · exact .inl (digits c (List.mem_append_left _ inWhole))
  · cases fraction with
    | none => cases inFraction
    | some fraction =>
      rcases List.mem_cons.mp inFraction with point | digit
      · exact .inr point
      · exact .inl (digits c (List.mem_append_right _ digit))

/-- No plus sign is written. -/
theorem mem_text_ofScaled {negative : Bool} {m s : ℕ} {c : Char}
    (h : c ∈ (ofScaled negative m s).text) : c.isDigit = true ∨ c = '.' ∨ c = '-' := by
  cases negative with
  | false => exact (mem_unsigned h).imp id .inl
  | true =>
    rcases List.mem_cons.mp h with minus | later
    · exact .inr (.inr minus)
    · exact (mem_unsigned later).imp id .inl

/-- A numeral is written with digits, a sign and a point. -/
theorem mem_text {n : Numeral} {c : Char} (h : c ∈ n.text) :
    c.isDigit = true ∨ c = '.' ∨ c = '+' ∨ c = '-' := by
  have signed : ∀ sign : Char, c ∈ sign :: n.unsigned → c.isDigit = true ∨ c = '.' ∨ c = sign := by
    intro sign hc
    rcases List.mem_cons.mp hc with first | later
    · exact .inr (.inr first)
    · exact (mem_unsigned later).imp id .inl
  unfold text at h
  split at h
  · exact (mem_unsigned h).imp id .inl
  · exact (signed '+' h).imp id (Or.imp id .inl)
  · exact (signed '-' h).imp id (Or.imp id .inr)

end Numeral

/-! ## The numbers of a format -/

namespace DecimalFormat

variable {f : DecimalFormat} {x : ℚ}

/-- The fewest digits behind the point with which the number is whole. -/
def fewestDigits (f : DecimalFormat) (x : ℚ) : ℕ :=
  ((List.range f.maxScale).find? fun s => (x * 10 ^ s).den = 1).getD f.maxScale

/-- The number as it is written. -/
def written (f : DecimalFormat) (x : ℚ) : Numeral :=
  let s := f.fewestDigits x
  Numeral.ofScaled (x < 0) (|x| * 10 ^ s).num.toNat s

theorem den_mul_pow_of_represents (h : f.Represents x) :
    ∃ s ≤ f.maxScale, (x * 10 ^ s).den = 1 := by
  obtain ⟨m, s, -, hs, hx⟩ := h
  refine ⟨s, hs, ?_⟩
  have scaled : |x| * 10 ^ s = m := by
    rw [hx]
    field_simp
  rcases abs_choice x with same | opposite
  · rw [← same, scaled, Rat.den_natCast]
  · have : x * 10 ^ s = -(m : ℚ) := by
      rw [← scaled, opposite]
      ring
    rw [this, Rat.den_neg_eq_den, Rat.den_natCast]

/-- More digits than needed do no harm. -/
theorem den_mul_pow_mono {s t : ℕ} (h : (x * 10 ^ s).den = 1) (hst : s ≤ t) :
    (x * 10 ^ t).den = 1 := by
  obtain ⟨e, rfl⟩ := Nat.exists_eq_add_of_le hst
  have units : ((x * 10 ^ s).num : ℚ) = x * 10 ^ s := Rat.coe_int_num_of_den_eq_one h
  have : x * 10 ^ (s + e) = ((x * 10 ^ s).num * 10 ^ e : ℤ) := by
    push_cast
    rw [units, pow_add, mul_assoc]
  rw [this, Rat.den_intCast]

theorem den_fewestDigits (h : f.Represents x) : (x * 10 ^ f.fewestDigits x).den = 1 := by
  obtain ⟨s, hs, whole⟩ := den_mul_pow_of_represents h
  unfold fewestDigits
  cases found : (List.range f.maxScale).find? fun s => (x * 10 ^ s).den = 1 with
  | some t =>
    have := List.find?_some found
    simpa using this
  | none => exact den_mul_pow_mono whole hs

/-- **What is written denotes the number.** -/
theorem value_written (h : f.Represents x) : (f.written x).value = x := by
  have pos : (0 : ℚ) < 10 ^ f.fewestDigits x := by positivity
  have whole : (|x| * 10 ^ f.fewestDigits x).den = 1 := by
    have same : |x| * 10 ^ f.fewestDigits x = |x * 10 ^ f.fewestDigits x| := by
      rw [abs_mul, abs_of_pos pos]
    rw [same, Rat.abs_def, ← Rat.coe_int_num_of_den_eq_one (den_fewestDigits h)]
    simp
  have nonneg : 0 ≤ (|x| * 10 ^ f.fewestDigits x).num := Rat.num_nonneg.mpr (by positivity)
  have mantissa : (((|x| * 10 ^ f.fewestDigits x).num.toNat : ℕ) : ℚ) =
      |x| * 10 ^ f.fewestDigits x := by
    rw [← Int.cast_natCast, Int.toNat_of_nonneg nonneg, Rat.coe_int_num_of_den_eq_one whole]
  rw [written, Numeral.value_ofScaled, mantissa, mul_div_cancel_right₀ _ pos.ne']
  by_cases negative : x < 0
  · simp [negative, abs_of_neg negative]
  · simp [negative, abs_of_nonneg (not_lt.mp negative)]

theorem read_written (h : f.Represents x) : Numeral.read (f.written x).text = some x := by
  rw [Numeral.read_text, value_written h]

theorem denotes_written (h : f.Represents x) : Denotes (String.ofList (f.written x).text) x :=
  ⟨f.written x, (String.toList_ofList).symm, value_written h⟩

end DecimalFormat
