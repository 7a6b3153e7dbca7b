import ArbEngine.Core.Amounts
import ArbEngine.Proof.Core.FromHuman
import ArbEngine.Proof.Inventory.Amounts

/-!
# Amounts that go out as texts

An amount leaves the program as the text of what `to_human` makes of it, and an amount that comes
in is read by `from_human`. `to_human` loses what is beyond the mantissa of a `Decimal`, and
nothing else is lost on the way: an amount below that is read back (`readBack_iff`), and so is
every amount that came in as a text (`readBack_of_fromHuman`).
-/

namespace ArbEngine

/-- `decimalText` writes the `Decimal`s that `from_str` reads. -/
theorem decimalText_eq (x : ℚ) : decimalText x = String.ofList (rustDecimal.written x).text := rfl

theorem denotes_decimalText {x : ℚ} (h : rustDecimal.Represents x) : Denotes (decimalText x) x :=
  DecimalFormat.denotes_written h

theorem read_decimalText {x : ℚ} (h : rustDecimal.Represents x) :
    Numeral.read (decimalText x).toList = some x :=
  (denotes_decimalText h).read

namespace TokenAmount

variable {t : TokenAmount}

/-- What `to_human` answers is a `Decimal`. -/
theorem represents_human (scale : t.decimals ≤ maxDecimalScale) :
    rustDecimal.Represents t.human := by
  by_cases fits : t.raw.toNat < 2 ^ 96
  · refine ⟨t.raw.toNat, t.decimals, fits, scale, ?_⟩
    rw [human, parseDecimal_eq_some fits, Option.getD_some, abs_of_nonneg (by positivity)]
  · refine ⟨0, 0, by decide, Nat.zero_le _, ?_⟩
    rw [human_of_large fits]
    simp

theorem human_nonneg (t : TokenAmount) : 0 ≤ t.human := by
  by_cases fits : t.raw.toNat < 2 ^ 96
  · rw [human, parseDecimal_eq_some fits, Option.getD_some]
    positivity
  · exact (human_of_large fits).ge

/-- An amount made of a `Decimal` is that `Decimal` again. -/
theorem human_of_fromDecimal {r : ℚ} {d : ℕ} {symbol : Option String} (scale : d ≤ 18)
    (h : fromDecimal r d symbol = .ok t) :
    t.decimals = d ∧ t.raw.toNat < 2 ^ 96 ∧ t.human = r := by
  have units := fromDecimal_raw scale h
  obtain ⟨small, nonneg, -, made⟩ := (fromDecimal_eq_ok_iff scale).mp h
  have decimals : t.decimals = d := by rw [made]
  have fits : t.raw.toNat < 2 ^ 96 := by
    rw [abs_of_nonneg nonneg, ← units] at small
    exact_mod_cast small
  refine ⟨decimals, fits, mul_right_cancel₀ (by positivity : (0 : ℚ) < 10 ^ d).ne' ?_⟩
  rw [← units, ← decimals, human_mul_pow fits]

/-- The amount is written, and what is written is read. -/
def readBack (fromStr : String → Option ℚ) (t : TokenAmount) : Outcome TokenAmount := do
  let amount ← t.toHuman
  fromHuman fromStr (decimalText amount) t.decimals t.symbol

section

variable (fromStr : String → Option ℚ)
  (rounds : ∀ s v, Denotes s v → fromStr s = rustDecimal.round v)

include rounds

theorem fromStr_decimalText {x : ℚ} (h : rustDecimal.Represents x) :
    fromStr (decimalText x) = some x := by
  rw [rounds _ _ (denotes_decimalText h), DecimalFormat.round_of_represents h]

theorem readBack_eq (scale : t.decimals ≤ 18) :
    readBack fromStr t = fromDecimal t.human t.decimals t.symbol := by
  have fits : t.decimals ≤ maxDecimalScale := scale.trans (by decide)
  rw [readBack, toHuman_eq_ok fits, Outcome.ok_bind, fromHuman,
    fromStr_decimalText fromStr rounds (represents_human fits)]
  rfl

/-- **An amount is read back exactly where `to_human` can hold it.** -/
theorem readBack_iff (t : TokenAmount) (scale : t.decimals ≤ 18) :
    readBack fromStr t = .ok t ↔ t.raw.toNat < 2 ^ 96 := by
  rw [readBack_eq fromStr rounds scale]
  constructor
  · intro back
    by_contra large
    have zero := fromDecimal_raw scale back
    rw [human_of_large large, zero_mul] at zero
    have : t.raw.toNat = 0 := by exact_mod_cast zero
    omega
  · intro fits
    have units : t.human * 10 ^ t.decimals = t.raw.toNat := human_mul_pow fits
    have small : |t.human| * 10 ^ t.decimals < 2 ^ 96 := by
      rw [abs_of_nonneg t.human_nonneg, units]
      exact_mod_cast fits
    rw [fromDecimal_eq_ok_iff scale]
    refine ⟨small, t.human_nonneg, ?_, ?_⟩
    · rw [units, Rat.den_natCast]
    · obtain ⟨raw, decimals, symbol⟩ := t
      dsimp only at units ⊢
      rw [units, Rat.num_natCast, Int.toNat_natCast, BitVec.ofNat_toNat, BitVec.setWidth_eq]

/-- An amount that came in as a text can go out as one. -/
theorem readBack_of_fromHuman {s : String} {d : ℕ} {symbol : Option String} (scale : d ≤ 18)
    (h : fromHuman fromStr s d symbol = .ok t) : readBack fromStr t = .ok t := by
  obtain ⟨r, -, h⟩ := Outcome.bind_eq_ok.mp h
  obtain ⟨decimals, fits, -⟩ := human_of_fromDecimal scale h
  exact (readBack_iff fromStr rounds t (decimals ▸ scale)).mpr fits

end

/-- **Which amounts survive being written and read**: those that `to_human` can hold, and every
    amount that was read from a text is one of them. -/
theorem amounts_survive_texts (fromStr : String → Option ℚ)
    (rounds : ∀ s v, Denotes s v → fromStr s = rustDecimal.round v) :
    (∀ t : TokenAmount, t.decimals ≤ 18 → (readBack fromStr t = .ok t ↔ t.raw.toNat < 2 ^ 96)) ∧
      ∀ (s : String) (d : ℕ) (symbol : Option String) (t : TokenAmount), d ≤ 18 →
        fromHuman fromStr s d symbol = .ok t → readBack fromStr t = .ok t :=
  ⟨readBack_iff fromStr rounds, fun _ _ _ _ scale => readBack_of_fromHuman fromStr rounds scale⟩

/-- One and a half coins of eight decimals, on the way out and back. -/
theorem sample_amount_survives :
    readBack readDecimal { raw := 150000000, decimals := 8, symbol := none } =
      .ok { raw := 150000000, decimals := 8, symbol := none } :=
  ((amounts_survive_texts readDecimal readDecimal_rounds).1 _ (by decide)).mpr (by decide)

end TokenAmount
end ArbEngine
