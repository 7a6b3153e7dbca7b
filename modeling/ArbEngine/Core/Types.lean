import Mathlib.Algebra.Order.Field.Rat
import Mathlib.Algebra.Order.Floor.Ring
import Mathlib.Data.Rat.Floor
import ArbEngine.Lib.Outcome
import ArbEngine.Lib.Word

/-!
# Core types (`core/src/types.rs`)

The primitive words and the token amount. Prices, sizes and every other `f64` or `Decimal`
of the source are exact rationals here; amounts that the source keeps in machine words
stay in machine words.
-/

namespace ArbEngine

abbrev U256 := BitVec 256
abbrev U128 := BitVec 128
abbrev U32 := BitVec 32

/-- A 20-byte account address. -/
abbrev Address := BitVec 160

/-- A raw on-ledger amount together with the number of decimals it is read with. -/
structure TokenAmount where
  raw : U256
  decimals : ℕ
  symbol : Option String
deriving DecidableEq, Repr

/-- The largest scale a `Decimal` can carry; `set_scale` refuses anything above it. -/
def maxDecimalScale : ℕ := 28

/-- `Decimal::from_str` on the digits of an integer: the mantissa has 96 bits, and an
    integer beyond them does not parse. -/
def parseDecimal (raw : U256) : Option ℚ :=
  if raw.toNat < 2 ^ 96 then some raw.toNat else none

/-- `TokenAmount::to_human`: parse, fall back to zero, move the decimal point. -/
def TokenAmount.toHuman (t : TokenAmount) : Outcome ℚ :=
  if t.decimals ≤ maxDecimalScale then
    .ok ((parseDecimal t.raw).getD 0 / 10 ^ t.decimals)
  else
    .panic

/-- The amount `to_human` reads, where it reads one. -/
def TokenAmount.human (t : TokenAmount) : ℚ := (parseDecimal t.raw).getD 0 / 10 ^ t.decimals

/-- `TokenAmount::from_human` on the text of a whole number: the text must parse, and the
    product with the power of ten must fit the mantissa of a `Decimal` again. -/
def TokenAmount.fromHumanWhole (amount decimals : ℕ) (symbol : Option String) :
    Outcome TokenAmount :=
  if 2 ^ 96 ≤ amount then .err "Decimal conversion error"
  else if 2 ^ 64 ≤ 10 ^ decimals ∨ 2 ^ 96 ≤ amount * 10 ^ decimals then .panic
  else .ok { raw := BitVec.ofNat 256 (amount * 10 ^ decimals), decimals, symbol }

/-- `TokenAmount::from_human` once the text is a `Decimal`: the product with the power of ten must
    fit the mantissa, have no digit after the point, and be no negative number. -/
def TokenAmount.fromDecimal (dec : ℚ) (decimals : ℕ) (symbol : Option String) :
    Outcome TokenAmount :=
  let rawDec := dec * 10 ^ decimals
  if 2 ^ 64 ≤ 10 ^ decimals ∨ 2 ^ 96 ≤ |rawDec| then .panic
  else if rawDec.den ≠ 1 then .err "Decimal conversion error"
  else if rawDec < 0 then .err "Decimal conversion error"
  else .ok { raw := BitVec.ofNat 256 rawDec.num.toNat, decimals, symbol }

/-- `TokenAmount::from_human`; `fromStr` is `Decimal::from_str`. -/
def TokenAmount.fromHuman (fromStr : String → Option ℚ) (amount : String) (decimals : ℕ)
    (symbol : Option String) : Outcome TokenAmount := do
  let dec ← Outcome.okOr "Decimal conversion error" (fromStr amount)
  fromDecimal dec decimals symbol

/-- `f64::round`: halves go away from zero. -/
def roundHalfAway (x : ℚ) : ℤ := if 0 ≤ x then ⌊x + 1 / 2⌋ else -⌊-x + 1 / 2⌋

theorem TokenAmount.toHuman_eq_ok {t : TokenAmount} (h : t.decimals ≤ maxDecimalScale) :
    t.toHuman = .ok t.human := by
  rw [toHuman, if_pos h, human]

end ArbEngine
