import ArbEngine.Core.Types
import ArbEngine.Lib.Decimal

/-!
# Which amounts are read from a text

`from_human` reads a number of any length into a `Decimal` first, which rounds what it cannot
hold, and multiplies before it looks at the digits that are left. An amount that is beyond a
`Decimal` in its smallest unit takes the call down, and digits that were rounded away are not
missed (`fromHuman_acceptsExactly_iff`).
-/

namespace ArbEngine

/-- The mantissa and the scale of a `Decimal`. -/
def rustDecimal : DecimalFormat where
  bound := 2 ^ 96
  maxScale := maxDecimalScale

/-- A number that is an amount: whole in the smallest unit, and a word of it. -/
def IsAmount (v : ℚ) (decimals : ℕ) : Prop :=
  0 ≤ v ∧ (v * 10 ^ decimals).den = 1 ∧ v * 10 ^ decimals < 2 ^ 256

/-- **Exactly the amounts are accepted**, each as its number of smallest units. -/
structure AcceptsExactly (answer : Outcome TokenAmount) (v : ℚ) (decimals : ℕ) : Prop where
  answers : answer ≠ .panic
  accepts : (∃ t, answer = .ok t) ↔ IsAmount v decimals
  raw : ∀ t, answer = .ok t → (t.raw.toNat : ℚ) = v * 10 ^ decimals

/-- What reading the number as a `Decimal` does no harm to: the `Decimal` fits in the smallest
    unit, and is the number itself or no amount; or there is none, and the number is none. -/
def ReadSafely (v : ℚ) (decimals : ℕ) : Prop :=
  match rustDecimal.round v with
  | none => ¬ IsAmount v decimals
  | some r =>
      |r| * 10 ^ decimals < 2 ^ 96 ∧ (r ≠ v → ¬ (0 ≤ r ∧ (r * 10 ^ decimals).den = 1))

namespace TokenAmount

variable {v r : ℚ} {d : ℕ} {symbol : Option String} {t : TokenAmount}

/-- Whole amounts are read alike by both readers, of a natural number and of a `Decimal`. Both
    multiply before they look at anything, so both panic on the same amounts. -/
theorem fromHumanWhole_eq {amount : ℕ} (h : amount < 2 ^ 96) :
    fromHumanWhole amount d symbol = fromDecimal amount d symbol := by
  have whole : (amount : ℚ) * 10 ^ d = (amount * 10 ^ d : ℕ) := by
    push_cast
    rfl
  have fits : (2 ^ 96 : ℚ) ≤ |(amount : ℚ) * 10 ^ d| ↔ 2 ^ 96 ≤ amount * 10 ^ d := by
    rw [whole, abs_of_nonneg (Nat.cast_nonneg _)]
    exact_mod_cast Iff.rfl
  unfold fromHumanWhole fromDecimal
  rw [if_neg (not_le.mpr h)]
  simp only [fits]
  split
  · rfl
  · have integer : ((amount : ℚ) * 10 ^ d).den = 1 := by rw [whole, Rat.den_natCast]
    have nonneg : ¬ (amount : ℚ) * 10 ^ d < 0 := not_lt.mpr (by positivity)
    rw [if_neg (not_not.mpr integer), if_neg nonneg, whole, Rat.num_natCast, Int.toNat_natCast]

theorem abs_mul_pow (r : ℚ) (d : ℕ) : |r * 10 ^ d| = |r| * 10 ^ d := by
  rw [abs_mul, abs_of_pos (by positivity : (0 : ℚ) < 10 ^ d)]

/-- The power of ten for up to eighteen decimals is a machine word, so it is never what goes wrong.
    -/
theorem multiplier_lt (hd : d ≤ 18) : 10 ^ d < 2 ^ 64 :=
  (Nat.pow_le_pow_right (by norm_num) hd).trans_lt (by norm_num)

/-- The product of a `Decimal` with the power of ten is a `Decimal`: it is never rounded. -/
theorem product_represents (hr : rustDecimal.round v = some r) (fits : |r| * 10 ^ d < 2 ^ 96) :
    rustDecimal.Represents (r * 10 ^ d) := by
  apply DecimalFormat.represents_mul_pow (DecimalFormat.represents_of_round hr)
  have bound : ((rustDecimal.bound : ℕ) : ℚ) = 2 ^ 96 := by norm_num [rustDecimal]
  rwa [bound]

/-- **A call panics exactly where the product is beyond the mantissa.** The multiplication of
    `Decimal`s is unchecked in the source, and it comes before every check. -/
theorem fromDecimal_eq_panic_iff (hd : d ≤ 18) :
    fromDecimal r d symbol = .panic ↔ 2 ^ 96 ≤ |r| * 10 ^ d := by
  have multiplier := not_le.mpr (multiplier_lt hd)
  unfold fromDecimal
  dsimp only
  rw [abs_mul_pow]
  split
  · rename_i exceeds
    exact iff_of_true rfl (exceeds.resolve_left multiplier)
  · rename_i fits
    refine iff_of_false ?_ fun exceeds => fits (.inr exceeds)
    split
    · simp
    · split <;> simp

/-- A number keeps its sign in the smallest unit. -/
theorem mul_pow_neg_iff : r * 10 ^ d < 0 ↔ r < 0 := by
  have pos : (0 : ℚ) < 10 ^ d := by positivity
  constructor
  · intro h
    by_contra nonneg
    exact absurd h (not_lt.mpr (mul_nonneg (not_lt.mp nonneg) pos.le))
  · intro h
    exact mul_neg_of_neg_of_pos h pos

/-- A number that is whole and not negative is that many units. The branches are those of the
    source in their order: the overflow, a fraction that is left, a negative number, and the
    answer. -/
theorem fromDecimal_eq_ok_iff (hd : d ≤ 18) :
    fromDecimal r d symbol = .ok t ↔
      |r| * 10 ^ d < 2 ^ 96 ∧ 0 ≤ r ∧ (r * 10 ^ d).den = 1 ∧
        t = { raw := BitVec.ofNat 256 (r * 10 ^ d).num.toNat, decimals := d, symbol } := by
  have multiplier := not_le.mpr (multiplier_lt hd)
  unfold fromDecimal
  dsimp only
  rw [abs_mul_pow]
  split
  · -- it panics
    rename_i exceeds
    have large := exceeds.resolve_left multiplier
    exact iff_of_false (by simp) fun ok => absurd ok.1 (not_lt.mpr large)
  · rename_i fits
    have small : |r| * 10 ^ d < 2 ^ 96 := not_le.mp fun exceeds => fits (.inr exceeds)
    split
    · -- digits behind the smallest unit are refused
      rename_i fraction
      exact iff_of_false (by simp) fun ok => fraction ok.2.2.1
    · rename_i whole
      split
      · rename_i negative
        exact iff_of_false (by simp) fun ok => absurd (mul_pow_neg_iff.mp negative)
          (not_lt.mpr ok.2.1)
      · rename_i nonneg
        rw [mul_pow_neg_iff, not_lt] at nonneg
        rw [Outcome.ok.injEq, eq_comm]
        exact ⟨fun same => ⟨small, nonneg, not_not.mp whole, same⟩, fun ok => ok.2.2.2⟩

/-- The units of an amount that fits a `Decimal` are a word. -/
theorem fromDecimal_raw (hd : d ≤ 18) (h : fromDecimal r d symbol = .ok t) :
    (t.raw.toNat : ℚ) = r * 10 ^ d := by
  obtain ⟨fits, nonneg, whole, rfl⟩ := (fromDecimal_eq_ok_iff hd).mp h
  have units : (r * 10 ^ d).num = r * 10 ^ d := Rat.coe_int_num_of_den_eq_one whole
  have pos : 0 ≤ (r * 10 ^ d).num := Rat.num_nonneg.mpr (by positivity)
  obtain ⟨n, hn⟩ := Int.eq_ofNat_of_zero_le pos
  have cast : r * 10 ^ d = n := by
    rw [← units, hn]
    rfl
  have small : n < 2 ^ 256 := by
    rw [← abs_mul_pow, cast, abs_of_nonneg (Nat.cast_nonneg n)] at fits
    have less : n < 2 ^ 96 := by exact_mod_cast fits
    omega
  show (((BitVec.ofNat 256 (r * 10 ^ d).num.toNat).toNat : ℕ) : ℚ) = r * 10 ^ d
  rw [hn, cast, Int.toNat_natCast, BitVec.toNat_ofNat, Nat.mod_eq_of_lt small]

/-- An amount that no `Decimal` holds overflows in its smallest unit: it is whole there, and a
    whole number below the bound is a mantissa. -/
theorem le_mul_of_not_represents (hd : d ≤ 18) (amount : IsAmount v d)
    (h : ¬ rustDecimal.Represents v) : (rustDecimal.bound : ℚ) ≤ |v| * 10 ^ d := by
  obtain ⟨nonneg, whole, -⟩ := amount
  have units : (v * 10 ^ d).num = v * 10 ^ d := Rat.coe_int_num_of_den_eq_one whole
  have pos : 0 ≤ (v * 10 ^ d).num := Rat.num_nonneg.mpr (by positivity)
  obtain ⟨n, hn⟩ := Int.eq_ofNat_of_zero_le pos
  have cast : |v| * 10 ^ d = n := by
    rw [abs_of_nonneg nonneg, ← units, hn]
    rfl
  rw [cast, Nat.cast_le]
  by_contra less
  refine h ⟨n, d, not_le.mp less, hd.trans (by decide), ?_⟩
  rw [← cast]
  field_simp

/-- A number that was rounded is accepted only as something else. Had it been an amount, it would
    be beyond the bound in its smallest unit, and so would what it was rounded to. -/
theorem not_isAmount_of_rounded (hd : d ≤ 18) (hr : rustDecimal.round v = some r) (hne : r ≠ v)
    (fits : |r| * 10 ^ d < 2 ^ 96) : ¬ IsAmount v d := by
  intro amount
  have lost : ¬ rustDecimal.Represents v := by
    intro kept
    rw [DecimalFormat.round_of_represents kept] at hr
    exact hne (Option.some.inj hr).symm
  have large := DecimalFormat.le_of_round (by decide) (hd.trans (by decide)) hr
    (le_mul_of_not_represents hd amount lost)
  have bound : ((rustDecimal.bound : ℕ) : ℚ) = 2 ^ 96 := by norm_num [rustDecimal]
  rw [bound] at large
  exact absurd fits (not_lt.mpr large)

/-- What reading does to a number that has become a `Decimal`. It is answered exactly where the
    product fits, and the answer is about another number where it was rounded and is still
    accepted. -/
theorem fromDecimal_acceptsExactly_iff (hd : d ≤ 18) (hr : rustDecimal.round v = some r) :
    AcceptsExactly (fromDecimal r d symbol) v d ↔
      |r| * 10 ^ d < 2 ^ 96 ∧ (r ≠ v → ¬ (0 ≤ r ∧ (r * 10 ^ d).den = 1)) := by
  have pos : (0 : ℚ) < 10 ^ d := by positivity
  constructor
  · -- exactness fails by a panic, or by an amount that was read from a rounded number
    intro exact_
    have fits : |r| * 10 ^ d < 2 ^ 96 := by
      by_contra exceeds
      exact exact_.answers ((fromDecimal_eq_panic_iff hd).mpr (not_lt.mp exceeds))
    refine ⟨fits, fun hne amount => hne ?_⟩
    have ok : fromDecimal r d symbol = .ok _ :=
      (fromDecimal_eq_ok_iff hd).mpr ⟨fits, amount.1, amount.2, rfl⟩
    have units := (fromDecimal_raw hd ok).symm.trans (exact_.raw _ ok)
    exact mul_right_cancel₀ pos.ne' units
  · rintro ⟨fits, safe⟩
    have answers : fromDecimal r d symbol ≠ .panic := by
      intro panics
      exact absurd ((fromDecimal_eq_panic_iff hd).mp panics) (not_le.mpr fits)
    by_cases same : r = v
    · subst same
      refine ⟨answers, ?accepts, fun t => fromDecimal_raw hd⟩
      constructor
      · rintro ⟨t, ok⟩
        obtain ⟨-, nonneg, whole, -⟩ := (fromDecimal_eq_ok_iff hd).mp ok
        refine ⟨nonneg, whole, ?_⟩
        rw [abs_of_nonneg nonneg] at fits
        exact fits.trans (by norm_num)
      · rintro ⟨nonneg, whole, -⟩
        exact ⟨_, (fromDecimal_eq_ok_iff hd).mpr ⟨fits, nonneg, whole, rfl⟩⟩
    · -- a number that was rounded is refused, and what was written was no amount either
      have refused : ∀ t, fromDecimal r d symbol ≠ .ok t := by
        intro t ok
        obtain ⟨-, nonneg, whole, -⟩ := (fromDecimal_eq_ok_iff hd).mp ok
        exact safe same ⟨nonneg, whole⟩
      have none := not_isAmount_of_rounded hd hr same fits
      exact
        { answers
          accepts := iff_of_false (fun ⟨t, ok⟩ => refused t ok) none
          raw := fun t ok => absurd ok (refused t) }

/-- **When exactly the amounts are accepted**: reading the number as a `Decimal` does no harm. Of
    the reader of texts it is used that it rounds what is written, or has no answer for what is too
    large. -/
theorem fromHuman_acceptsExactly_iff (fromStr : String → Option ℚ)
    (rounds : ∀ s v, Denotes s v → fromStr s = rustDecimal.round v) (s : String) (v : ℚ)
    (denotes : Denotes s v) (d : ℕ) (hd : d ≤ 18) (symbol : Option String) :
    AcceptsExactly (fromHuman fromStr s d symbol) v d ↔ ReadSafely v d := by
  unfold fromHuman ReadSafely
  rw [rounds s v denotes]
  cases hr : rustDecimal.round v with
  | none =>
    constructor
    · -- without a `Decimal` there is an error, so there must be no amount
      intro exact_ amount
      obtain ⟨t, ok⟩ := exact_.accepts.mpr amount
      cases ok
    · intro none
      exact
        { answers := fun panics => nomatch panics
          accepts := iff_of_false (fun ⟨t, ok⟩ => nomatch ok) none
          raw := fun t ok => nomatch ok }
  | some r => exact fromDecimal_acceptsExactly_iff hd hr

/-- A reader of numerals that rounds what it reads. -/
def readDecimal (s : String) : Option ℚ := (Numeral.read s.toList).bind rustDecimal.round

/-- It does what is asked of a reader of texts. -/
theorem readDecimal_rounds (s : String) (v : ℚ) (h : Denotes s v) :
    readDecimal s = rustDecimal.round v := by
  rw [readDecimal, h.read, Option.bind_some]

theorem denotes_oneAndAHalf : Denotes "1.5" (3 / 2) := by
  refine ⟨⟨none, ['1'], some ['5'], by simp, by simp⟩, rfl, ?_⟩
  have digits : digitsValue (['1'] ++ ['5']) = 15 := rfl
  show magnitude ['1'] ['5'] = 3 / 2
  rw [magnitude, digits]
  norm_num

/-- One and a half ether. -/
theorem fromHuman_oneAndAHalf :
    AcceptsExactly (fromHuman readDecimal "1.5" 18 none) (3 / 2) 18 := by
  apply (fromHuman_acceptsExactly_iff readDecimal readDecimal_rounds "1.5" (3 / 2)
    denotes_oneAndAHalf 18 le_rfl none).mpr
  have kept : rustDecimal.round (3 / 2) = some (3 / 2) := by
    apply DecimalFormat.round_of_represents
    exact ⟨15, 1, by norm_num [rustDecimal], by decide, by norm_num⟩
  rw [ReadSafely, kept]
  norm_num

theorem denotes_manyCoins : Denotes "100000000000" 100000000000 := by
  refine ⟨⟨none, "100000000000".toList, none, by simp, by simp⟩, rfl, ?_⟩
  have digits : digitsValue ("100000000000".toList ++ []) = 100000000000 := rfl
  show magnitude "100000000000".toList [] = 100000000000
  rw [magnitude, digits]
  norm_num

/-- A hundred billion coins of eighteen decimals take the call down. -/
theorem fromHuman_manyCoins :
    ¬ ∀ fromStr, (∀ s v, Denotes s v → fromStr s = rustDecimal.round v) →
        ∀ s v, Denotes s v → ∀ d symbol, d ≤ 18 →
          AcceptsExactly (fromHuman fromStr s d symbol) v d := by
  intro accepts
  have exact_ := accepts readDecimal readDecimal_rounds _ _ denotes_manyCoins 18 none le_rfl
  have kept : readDecimal "100000000000" = some 100000000000 := by
    rw [readDecimal_rounds _ _ denotes_manyCoins]
    apply DecimalFormat.round_of_represents
    exact ⟨100000000000, 0, by norm_num [rustDecimal], by decide, by norm_num⟩
  apply exact_.answers
  rw [fromHuman, kept]
  exact (fromDecimal_eq_panic_iff le_rfl).mpr (by norm_num)

end TokenAmount
end ArbEngine
