import Mathlib.Data.List.AList
import Mathlib.Data.List.Sort
import ArbEngine.Lib.Loop
import ArbEngine.Pricing.Amm

/-!
# Uniswap V3 pools (`pricing/src/amm.rs`)

The concentrated-liquidity half of the pricing engine: a swap walks from price to price,
crossing initialised ticks, inside a `while` loop that runs until the input is used up.

Prices and liquidity are unsigned words. The signed words of the source (`i128` amounts,
`i32` ticks) are integers, and every place where the source could leave their range is a
check that panics. `checked_*(..).unwrap()` panics as well; `checked_*(..).unwrap_or(..)`
does not, and its fallbacks are kept.

The two conversions between ticks and prices are `f64` code. They are a parameter of the
model: any pair of monotone functions, `TickMath`.
-/

namespace ArbEngine

structure TickData where
  liquidityNet : ℤ
  liquidityGross : U128
deriving DecidableEq, Repr

instance : Inhabited TickData := ⟨{ liquidityNet := 0, liquidityGross := 0#128 }⟩

structure UniswapV3Pool where
  address : Address
  token0 : Token
  token1 : Token
  liquidity : U128
  sqrtPriceX96 : U256
  tick : ℤ
  fee : U32
  tickSpacing : ℤ
  ticks : AList fun _ : ℤ => TickData

structure SwapState where
  amountSpecifiedRemaining : ℤ
  amountCalculated : ℤ
  sqrtPriceX96 : U256
  tick : ℤ
  liquidity : U128
deriving DecidableEq, Repr

/-- The `f64` conversions `get_sqrt_ratio_at_tick` and `get_tick_at_sqrt_ratio` go through. -/
structure TickMath where
  ratioAtTick : ℤ → U128
  tickAtRatio : U128 → ℤ
  ratio_mono : ∀ {s t : ℤ}, s ≤ t → ratioAtTick s ≤ ratioAtTick t
  tick_mono : ∀ {p q : U128}, p ≤ q → tickAtRatio p ≤ tickAtRatio q

/-! ## Machine words -/

/-- `x.to::<u128>()` -/
def toU128 (x : U256) : Outcome U128 :=
  if x.toNat < 2 ^ 128 then .ok (x.setWidth 128) else .panic

/-- `a / b` on words. -/
def wordDiv {w : ℕ} (a b : BitVec w) : Outcome (BitVec w) :=
  if b = 0#w then .panic else .ok (a / b)

/-- `a.div_ceil(b)` -/
def divCeil (a b : U128) : U128 :=
  a / b + if a % b = 0#128 then 0#128 else 1#128

/-- An `i128` result. -/
def toI128 (z : ℤ) : Outcome ℤ :=
  if -2 ^ 127 ≤ z ∧ z < 2 ^ 127 then .ok z else .panic

/-- An `i32` result. -/
def toI32 (z : ℤ) : Outcome ℤ :=
  if -2 ^ 31 ≤ z ∧ z < 2 ^ 31 then .ok z else .panic

/-- `U256::from(z)` for an `i128`. -/
def u256FromI128 (z : ℤ) : Outcome U256 :=
  if 0 ≤ z then .ok (BitVec.ofInt 256 z) else .panic

namespace UniswapV3Pool

/-! ## Ticks -/

/-- The tick the loop aims at when no initialised tick is left in its direction. -/
def boundaryTick (zeroForOne : Bool) : ℤ := if zeroForOne then -887272 else 887272

def getNextTick (p : UniswapV3Pool) (currentTick : ℤ) (zeroForOne : Bool) : ℤ × Bool :=
  let initializedTicks := p.ticks.keys.insertionSort (· ≤ ·)
  if zeroForOne then
    match initializedTicks.reverse.find? (· ≤ currentTick) with
    | some t => (t, true)
    | none => (-887272, false)
  else
    match initializedTicks.find? (currentTick < ·) with
    | some t => (t, true)
    | none => (887272, false)

def getSqrtRatioAtTick (m : TickMath) (tick : ℤ) : Outcome U256 :=
  .ok ((m.ratioAtTick tick).setWidth 256)

def getTickAtSqrtRatio (m : TickMath) (sqrtP : U256) : Outcome ℤ := do
  let p ← toU128 sqrtP
  return m.tickAtRatio p

/-! ## One step along the curve -/

def q96 : U256 := 1#256 <<< 96

/-- `amount_remaining as u128 * (1_000_000 - fee_pips as u128) / 1_000_000` -/
def lessFee (remaining : U128) (feePips : U32) : Outcome U128 := do
  let kept ← Outcome.unwrap (Word.checkedSub 1000000#128 (feePips.setWidth 128))
  let product ← Outcome.unwrap (Word.checkedMul remaining kept)
  return product / 1000000#128

/-- `hi.checked_sub(lo).unwrap_or(U256::ZERO)` -/
def gap (hi lo : U256) : U256 := (Word.checkedSub hi lo).getD 0#256

/-- The amount of the first token between two prices `diff` apart. -/
def amount0Between (liquidity diff sqrtPStart sqrtPTarget : U256) : Outcome U256 :=
  let num := (Word.checkedMul ((Word.checkedMul liquidity diff).getD 0#256) q96).getD 0#256
  let den := (Word.checkedMul sqrtPStart sqrtPTarget).getD 1#256
  wordDiv num den

/-- The amount of the second token between two prices `diff` apart. -/
def amount1Between (liquidity diff : U256) : Outcome U256 :=
  wordDiv ((Word.checkedMul liquidity diff).getD 0#256) q96

/-- What it takes to move the price all the way. -/
def amountInMax (sqrtPStart sqrtPTarget liquidity : U256) : Outcome U256 :=
  if sqrtPTarget ≤ sqrtPStart then
    amount0Between liquidity (gap sqrtPStart sqrtPTarget) sqrtPStart sqrtPTarget
  else
    amount1Between liquidity (gap sqrtPTarget sqrtPStart)

/-- What is paid out when the price moves all the way. -/
def amountOutMax (sqrtPStart sqrtPTarget liquidity : U256) : Outcome U256 :=
  if sqrtPTarget ≤ sqrtPStart then
    amount1Between liquidity (gap sqrtPStart sqrtPTarget)
  else
    amount0Between liquidity (gap sqrtPTarget sqrtPStart) sqrtPStart sqrtPTarget

/-- The price an input of `amount` moves to when it does not reach the target. -/
def sqrtPNext (zeroForOne : Bool) (sqrtPStart liquidity amount : U256) : Outcome U256 :=
  if zeroForOne then do
    let a ← Outcome.unwrap (Word.checkedMul liquidity sqrtPStart)
    let num ← Outcome.unwrap (Word.checkedMul a q96)
    let b ← Outcome.unwrap (Word.checkedMul liquidity q96)
    let c ← Outcome.unwrap (Word.checkedMul amount sqrtPStart)
    let den ← Outcome.unwrap (Word.checkedAdd b c)
    wordDiv num den
  else do
    let a ← Outcome.unwrap (Word.checkedMul amount q96)
    let moved ← wordDiv a liquidity
    -- `U256 + U256` wraps.
    return sqrtPStart + moved

/-- What is paid out on the way to such a price. -/
def amountOutTo (zeroForOne : Bool) (sqrtPStart next liquidity : U256) : Outcome U256 :=
  if zeroForOne then do
    let diff ← Outcome.unwrap (Word.checkedSub sqrtPStart next)
    let num ← Outcome.unwrap (Word.checkedMul liquidity diff)
    wordDiv num q96
  else do
    let diff ← Outcome.unwrap (Word.checkedSub next sqrtPStart)
    let a ← Outcome.unwrap (Word.checkedMul liquidity diff)
    let num ← Outcome.unwrap (Word.checkedMul a q96)
    let den ← Outcome.unwrap (Word.checkedMul sqrtPStart next)
    wordDiv num den

/-- The new price, the input used, the output paid and the fee kept. -/
def computeSwapStep (sqrtPStart sqrtPTarget : U256) (liquidity : U128) (amountRemaining : ℤ)
    (feePips : U32) : Outcome (U256 × U128 × U128 × U128) := do
  -- The direction of a step is read off the two prices, not off the swap.
  let zeroForOne : Bool := sqrtPTarget ≤ sqrtPStart
  let remaining : U128 := BitVec.ofInt 128 amountRemaining
  let amountRemainingLessFee ← lessFee remaining feePips
  let liquidityU256 : U256 := liquidity.setWidth 256
  let inMax ← amountInMax sqrtPStart sqrtPTarget liquidityU256
  let inMax ← toU128 inMax
  if inMax ≤ amountRemainingLessFee then
    let amountOut ← amountOutMax sqrtPStart sqrtPTarget liquidityU256
    let product ← Outcome.unwrap (Word.checkedMul inMax (feePips.setWidth 128))
    let amountOut ← toU128 amountOut
    return (sqrtPTarget, inMax, amountOut, divCeil product 1000000#128)
  else
    let lessFeeU256 : U256 := amountRemainingLessFee.setWidth 256
    let next ← sqrtPNext zeroForOne sqrtPStart liquidityU256 lessFeeU256
    let amountOut ← amountOutTo zeroForOne sqrtPStart next liquidityU256
    let amountOut ← toU128 amountOut
    let feeAmount ← Outcome.unwrap (Word.checkedSub remaining amountRemainingLessFee)
    return (next, amountRemainingLessFee, amountOut, feeAmount)

/-! ## The loop -/

/-- Crossing an initialised tick; the same in both directions. -/
def crossLiquidity (liquidity : U128) (liquidityNet : ℤ) : U128 :=
  if liquidityNet < 0 then
    (Word.checkedSub liquidity (BitVec.ofNat 128 liquidityNet.natAbs)).getD 0#128
  else
    (Word.checkedAdd liquidity (BitVec.ofInt 128 liquidityNet)).getD liquidity

/-- `state.tick` after crossing: `tick_next - 1` going down, `tick_next` going up. -/
def crossTick (zeroForOne : Bool) (tickNext : ℤ) : Outcome ℤ :=
  if zeroForOne then toI32 (tickNext - 1) else .ok tickNext

/-- The body of the loop, for the next tick it has found. -/
def swapIteration (m : TickMath) (p : UniswapV3Pool) (zeroForOne : Bool) (next : ℤ × Bool)
    (s : SwapState) : Outcome SwapState := do
  let target ← getSqrtRatioAtTick m next.1
  let (price, amountInStep, amountOutStep, feeAmount) ←
    computeSwapStep s.sqrtPriceX96 target s.liquidity s.amountSpecifiedRemaining p.fee
  let paid ← Outcome.unwrap (Word.checkedAdd amountInStep feeAmount)
  let remaining ← toI128 (s.amountSpecifiedRemaining - paid.toInt)
  let calculated ← toI128 (s.amountCalculated + amountOutStep.toInt)
  if price = target ∧ next.2 = true then
    let tickData := (p.ticks.lookup next.1).getD default
    let tick ← crossTick zeroForOne next.1
    return { amountSpecifiedRemaining := remaining, amountCalculated := calculated,
             sqrtPriceX96 := price, tick := tick,
             liquidity := crossLiquidity s.liquidity tickData.liquidityNet }
  else
    let tick ← getTickAtSqrtRatio m price
    return { amountSpecifiedRemaining := remaining, amountCalculated := calculated,
             sqrtPriceX96 := price, tick := tick, liquidity := s.liquidity }

/-- `state.amount_specified_remaining > 0` -/
def inputLeft (s : SwapState) : Bool := 0 < s.amountSpecifiedRemaining

/-- The body of the loop. -/
def swapBody (m : TickMath) (p : UniswapV3Pool) (zeroForOne : Bool) (s : SwapState) :
    Outcome SwapState :=
  swapIteration m p zeroForOne (p.getNextTick s.tick zeroForOne) s

/-- `token_in.address == self.token0.address` -/
def zeroForOne (p : UniswapV3Pool) (tokenIn : Token) : Bool :=
  tokenIn.address = p.token0.address

/-- The state the loop starts from. -/
def startState (p : UniswapV3Pool) (amountSpecified : ℤ) : SwapState where
  amountSpecifiedRemaining := amountSpecified
  amountCalculated := 0
  sqrtPriceX96 := p.sqrtPriceX96
  tick := p.tick
  liquidity := p.liquidity

/-- `get_amount_out`, with its loop cut off after `fuel` iterations; `none` says that it was
    still running then. -/
def getAmountOut (m : TickMath) (p : UniswapV3Pool) (fuel : ℕ) (amountIn : U256)
    (tokenIn : Token) : Option (Outcome U256) :=
  if amountIn = 0#256 then
    some (.ok 0#256)
  else
    match toI128 amountIn.toNat with
    | .ok amountSpecified =>
        (Loop.run inputLeft (swapBody m p (p.zeroForOne tokenIn)) fuel
          (p.startState amountSpecified)).map fun o =>
            o >>= fun s => u256FromI128 s.amountCalculated
    | .err msg => some (.err msg)
    | .panic => some .panic

/-! ## Prices -/

/-- The price at which the pool stands; `from_f64_retain` refuses what no `Decimal` can hold. -/
def getSpotPrice (p : UniswapV3Pool) (tokenIn : Token) : Outcome ℚ :=
  let price : ℚ := (p.sqrtPriceX96.toNat / 2 ^ 96) ^ 2
  if price = 0 then .ok 0
  else
    let adj : ℚ := 10 ^ ((p.token0.decimals : ℤ) - p.token1.decimals)
    let finalPrice :=
      if tokenIn.address = p.token0.address then price * adj else 1 / price * (1 / adj)
    if |finalPrice| < 2 ^ 96 then .ok finalPrice
    else .err "Failed to convert price to Decimal"

/-- The amount is not looked at. -/
def getExecutionPrice (p : UniswapV3Pool) (_amountIn : U256) (tokenIn : Token) : Outcome ℚ :=
  p.getSpotPrice tokenIn

def getPriceImpact (p : UniswapV3Pool) (amountIn : U256) (tokenIn : Token) : Outcome ℚ := do
  let spot ← p.getSpotPrice tokenIn
  let exec ← p.getExecutionPrice amountIn tokenIn
  if spot = 0 then return 0 else UniswapV2Pair.decimalDiv (spot - exec) spot

end UniswapV3Pool

end ArbEngine
