import ArbEngine.Pricing.Pool

/-!
# The price impact analyzer (`pricing/src/bin/impact_analyzer.rs`)

The search for the largest amount whose price impact stays within a limit. How two `Decimal`s are
divided is a parameter of the impact: `decimalDiv` is the code's own division, `exactDiv` takes
every quotient for the rational number it is.
-/

namespace ArbEngine

namespace UniswapV2Pair

def exactDiv (a b : ℚ) : Outcome ℚ := .ok (a / b)

def spotPriceBy (div : ℚ → ℚ → Outcome ℚ) (p : UniswapV2Pair) (tokenIn : Token) : Outcome ℚ := do
  let (reserveIn, reserveOut) ← p.getReservesOrdered tokenIn
  let rInD ← u256ToDecimal reserveIn tokenIn.decimals
  let rOutD ← u256ToDecimal reserveOut (p.otherToken tokenIn).decimals
  if rInD = 0 then return 0 else div rOutD rInD

def executionPriceBy (div : ℚ → ℚ → Outcome ℚ) (p : UniswapV2Pair) (amountIn : U256)
    (tokenIn : Token) : Outcome ℚ := do
  let amountOut ← p.getAmountOut amountIn tokenIn
  let aInD ← u256ToDecimal amountIn tokenIn.decimals
  let aOutD ← u256ToDecimal amountOut (p.otherToken tokenIn).decimals
  if aInD = 0 then return 0 else div aOutD aInD

/-- `get_price_impact`, for any division. -/
def priceImpactBy (div : ℚ → ℚ → Outcome ℚ) (p : UniswapV2Pair) (amountIn : U256)
    (tokenIn : Token) : Outcome ℚ := do
  let spot ← p.spotPriceBy div tokenIn
  let exec ← p.executionPriceBy div amountIn tokenIn
  if spot = 0 then return 0 else div (spot - exec) spot

end UniswapV2Pair

/-- A V3 pool divides nothing that depends on the amount. -/
def Pool.priceImpactBy (div : ℚ → ℚ → Outcome ℚ) (pool : Pool) (amountIn : U256)
    (tokenIn : Token) : Outcome ℚ :=
  match pool with
  | .v2 p => p.priceImpactBy div amountIn tokenIn
  | .v3 p => p.getPriceImpact amountIn tokenIn

/-- The variables of the search. -/
structure ImpactSearch where
  low : U256
  high : U256
  best : U256
deriving DecidableEq, Repr

namespace PriceImpactAnalyzer

/-- `high = mid - 1`; a subtraction that would go below zero shows as a panic. -/
def searchBelow (s : ImpactSearch) (mid : U256) : Outcome ImpactSearch := do
  let high ← Outcome.unwrap (Word.checkedSub mid 1#256)
  return { s with high }

/-- One iteration; `impact` is the price impact of an amount. -/
def searchRound (impact : U256 → Outcome ℚ) (target : ℚ) (s : ImpactSearch) :
    Outcome ImpactSearch :=
  -- `U256 + U256` wraps.
  let mid := (s.low + s.high) / 2#256
  if mid = 0#256 then .ok { s with low := 1#256 }
  else
    match impact mid with
    | .ok impact =>
        if impact ≤ target then .ok { s with best := mid, low := mid + 1#256 }
        else searchBelow s mid
    | .err _ => searchBelow s mid
    | .panic => .panic

def searchRounds (impact : U256 → Outcome ℚ) (target : ℚ) :
    ℕ → ImpactSearch → Outcome ImpactSearch
  | 0, s => .ok s
  | n + 1, s =>
      if s.high < s.low then .ok s
      else do
        let s ← searchRound impact target s
        searchRounds impact target n s

/-- The reserve of the token, where there is one. -/
def searchHigh (pool : Pool) (tokenIn : Token) : U256 :=
  match pool with
  | .v2 p =>
      match p.getReservesOrdered tokenIn with
      | .ok (res, _) => res
      | _ => BitVec.ofNat 256 (10 ^ 30)
  | .v3 _ => BitVec.ofNat 256 (10 ^ 30)

/-- The variables after the loop. -/
def impactSearch (div : ℚ → ℚ → Outcome ℚ) (pool : Pool) (tokenIn : Token) (maxImpactPct : ℚ) :
    Outcome ImpactSearch :=
  searchRounds (fun amount => pool.priceImpactBy div amount tokenIn) (maxImpactPct / 100) 128
    { low := 1#256, high := searchHigh pool tokenIn, best := 0#256 }

def findMaxSizeForImpact (div : ℚ → ℚ → Outcome ℚ) (pool : Pool) (tokenIn : Token)
    (maxImpactPct : ℚ) : Outcome U256 := do
  let s ← impactSearch div pool tokenIn maxImpactPct
  return s.best

end PriceImpactAnalyzer

end ArbEngine
