import Mathlib.Algebra.Order.Field.Rat

/-!
# Signals (`strategy/src/signal.rs`)
-/

namespace ArbEngine

inductive Direction where
  | buyCexSellDex
  | buyDexSellCex
deriving DecidableEq, Repr

structure Signal where
  signalId : String
  pair : String
  direction : Direction
  cexPrice : ℚ
  dexPrice : ℚ
  spreadBps : ℚ
  size : ℚ
  expectedGrossPnl : ℚ
  expectedFees : ℚ
  expectedNetPnl : ℚ
  score : ℚ
  timestamp : ℚ
  expiry : ℚ
  inventoryOk : Bool
  withinLimits : Bool
deriving DecidableEq, Repr

namespace Signal

def isValid (s : Signal) (now : ℚ) : Bool :=
  now < s.expiry && s.inventoryOk && s.withinLimits && 0 < s.expectedNetPnl && 0 < s.score

def ageSeconds (s : Signal) (now : ℚ) : ℚ := now - s.timestamp

end Signal

/-- `pair.split('/')` -/
def splitPair (pair : String) : List String := (pair.toList.splitOn '/').map String.ofList

end ArbEngine
