import ArbEngine.Core.Types

/-!
# Uniswap V2 pairs (`pricing/src/amm.rs`)

The constant-product half of the pricing engine. Reserves and amounts are 256-bit words and
every intermediate product is checked, exactly where the source checks it: a quote that
overflows is an error with the source's text, not a wrapped number. `10000 - fee_bps` is the
one unchecked subtraction; it is a `u32` one and panics when the fee exceeds 100%.
-/

namespace ArbEngine

structure Token where
  address : Address
  decimals : ℕ
  symbol : String
deriving DecidableEq, Repr

structure UniswapV2Pair where
  address : Address
  token0 : Token
  token1 : Token
  reserve0 : U256
  reserve1 : U256
  feeBps : U32
deriving DecidableEq, Repr

namespace UniswapV2Pair

/-- The reserve of the token asked about first, the other one second. -/
def getReservesOrdered (p : UniswapV2Pair) (tokenIn : Token) : Outcome (U256 × U256) :=
  if tokenIn.address = p.token0.address then
    .ok (p.reserve0, p.reserve1)
  else if tokenIn.address = p.token1.address then
    .ok (p.reserve1, p.reserve0)
  else
    .err "Token not in pair"

/-- `U256::from(10000 - self.fee_bps)` -/
def feeMultiplier (p : UniswapV2Pair) : Outcome U256 := do
  let kept ← Outcome.unwrap (Word.checkedSub 10000#32 p.feeBps)
  return kept.setWidth 256

def getAmountOut (p : UniswapV2Pair) (amountIn : U256) (tokenIn : Token) : Outcome U256 := do
  let (reserveIn, reserveOut) ← p.getReservesOrdered tokenIn
  if amountIn = 0#256 ∨ reserveIn = 0#256 ∨ reserveOut = 0#256 then
    return 0#256
  let feeMultiplier ← p.feeMultiplier
  let amountInWithFee ← Outcome.okOr "Overflow calculating amount_in_with_fee"
    (Word.checkedMul amountIn feeMultiplier)
  let numerator ← Outcome.okOr "Overflow calculating numerator"
    (Word.checkedMul amountInWithFee reserveOut)
  let denominatorBase ← Outcome.okOr "Overflow calculating denominator base"
    (Word.checkedMul reserveIn 10000#256)
  let denominator ← Outcome.okOr "Overflow calculating denominator"
    (Word.checkedAdd denominatorBase amountInWithFee)
  if denominator = 0#256 then
    .err "Denominator is zero"
  else
    return numerator / denominator

def getAmountIn (p : UniswapV2Pair) (amountOut : U256) (tokenOut : Token) : Outcome U256 := do
  -- The pair is asked for the reserves ordered by `tokenOut`, so the token that is to be
  -- bought is the one whose reserve is bound to `reserveIn`.
  let (reserveIn, reserveOut) ← p.getReservesOrdered tokenOut
  if amountOut = 0#256 ∨ reserveOut ≤ amountOut then
    .err "Insufficient liquidity"
  else
    let numerator ← Outcome.okOr "Overflow in numerator"
      ((Word.checkedMul reserveIn amountOut).bind fun x => Word.checkedMul x 10000#256)
    let feeMultiplier ← p.feeMultiplier
    let denominator ← Outcome.okOr "Overflow or underflow in denominator"
      ((Word.checkedSub reserveOut amountOut).bind fun x => Word.checkedMul x feeMultiplier)
    if denominator = 0#256 then
      .err "Denominator is zero"
    else
      return Word.saturatingAdd (numerator / denominator) 1#256

def simulateSwap (p : UniswapV2Pair) (amountIn : U256) (tokenIn : Token) :
    Outcome UniswapV2Pair := do
  let amountOut ← p.getAmountOut amountIn tokenIn
  if tokenIn.address = p.token0.address then
    let reserve0 ← Outcome.okOr "Overflow adding reserve0" (Word.checkedAdd p.reserve0 amountIn)
    let reserve1 ← Outcome.okOr "Underflow subtracting reserve1"
      (Word.checkedSub p.reserve1 amountOut)
    return { p with reserve0 := reserve0, reserve1 := reserve1 }
  else if tokenIn.address = p.token1.address then
    let reserve1 ← Outcome.okOr "Overflow adding reserve1" (Word.checkedAdd p.reserve1 amountIn)
    let reserve0 ← Outcome.okOr "Underflow subtracting reserve0"
      (Word.checkedSub p.reserve0 amountOut)
    return { p with reserve0 := reserve0, reserve1 := reserve1 }
  else
    .err "Token not in pair"

/-! ## Prices -/

/-- An integer that does not parse counts as zero; the power of ten is a `u64`. -/
def u256ToDecimal (val : U256) (decimals : ℕ) : Outcome ℚ :=
  if 10 ^ decimals < 2 ^ 64 then .ok ((parseDecimal val).getD 0 / 10 ^ decimals) else .panic

/-- `/` on two `Decimal`s, the second one not zero: the quotient must fit the mantissa. -/
def decimalDiv (a b : ℚ) : Outcome ℚ := if |a / b| < 2 ^ 96 then .ok (a / b) else .panic

/-- `token_out`, the other one of the two. -/
def otherToken (p : UniswapV2Pair) (tokenIn : Token) : Token :=
  if tokenIn.address = p.token0.address then p.token1 else p.token0

def getSpotPrice (p : UniswapV2Pair) (tokenIn : Token) : Outcome ℚ := do
  let (reserveIn, reserveOut) ← p.getReservesOrdered tokenIn
  let rInD ← u256ToDecimal reserveIn tokenIn.decimals
  let rOutD ← u256ToDecimal reserveOut (p.otherToken tokenIn).decimals
  if rInD = 0 then return 0 else decimalDiv rOutD rInD

def getExecutionPrice (p : UniswapV2Pair) (amountIn : U256) (tokenIn : Token) : Outcome ℚ := do
  let amountOut ← p.getAmountOut amountIn tokenIn
  let aInD ← u256ToDecimal amountIn tokenIn.decimals
  let aOutD ← u256ToDecimal amountOut (p.otherToken tokenIn).decimals
  if aInD = 0 then return 0 else decimalDiv aOutD aInD

def getPriceImpact (p : UniswapV2Pair) (amountIn : U256) (tokenIn : Token) : Outcome ℚ := do
  let spot ← p.getSpotPrice tokenIn
  let exec ← p.getExecutionPrice amountIn tokenIn
  if spot = 0 then return 0 else decimalDiv (spot - exec) spot

end UniswapV2Pair

end ArbEngine
