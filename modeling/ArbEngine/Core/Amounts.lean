import ArbEngine.Core.Types
import ArbEngine.Lib.DecimalText

/-!
# Amounts: arithmetic and texts (`core/src/types.rs`)

Amounts are added and multiplied as machine words, which wrap around. A `Decimal` goes into a
text by `normalize` and `to_string`: with as few digits behind the point as it needs.
-/

namespace ArbEngine

namespace TokenAmount

/-- `Add`: only amounts of one scale are added. -/
def add (a b : TokenAmount) : Outcome TokenAmount :=
  if a.decimals ≠ b.decimals then
    .err ("Mismatched decimals for operation: " ++ toString a.decimals ++ " vs " ++
      toString b.decimals)
  else
    .ok { raw := a.raw + b.raw, decimals := a.decimals, symbol := a.symbol.or b.symbol }

/-- `Mul<u64>` -/
def mul (a : TokenAmount) (factor : BitVec 64) : TokenAmount :=
  { a with raw := a.raw * factor.setWidth 256 }

end TokenAmount

/-- `Decimal::normalize` and `Decimal::to_string` -/
def decimalText (x : ℚ) : String :=
  let decimal : DecimalFormat := { bound := 2 ^ 96, maxScale := maxDecimalScale }
  String.ofList (decimal.written x).text

end ArbEngine
