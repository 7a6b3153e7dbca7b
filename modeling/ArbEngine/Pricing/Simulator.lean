import ArbEngine.Chain.Contracts
import ArbEngine.Pricing.Engine

/-!
# Simulated swaps (`pricing/src/simulator.rs`, `pricing/src/engine.rs`)

The simulator has a fork of the chain carry out the call of a router and reads what comes back. A
route goes through the V2 router by the addresses of its tokens; which pools it was made of is not
said. `scan_for_arbitrage` reports the loops that gain in the simulation, too.
-/

namespace ArbEngine

/-- A call that the fork carries out, without a gas limit of its own. -/
structure ForkCall where
  sender : Address
  router : Address
  input : List UInt8
deriving DecidableEq, Repr

/-- The node of the fork, and how the ABI library describes bytes it cannot decode. -/
structure ForkNode where
  estimateGas : ForkCall → Except String ℕ
  call : ForkCall → Except String (List UInt8)
  decodeError : List UInt8 → String

/-- What the comparison reports: both amounts, how far they are apart, and whether they are equal.
    -/
structure ComparisonResult where
  calculated : U256
  simulated : U256
  difference : U256
  isMatch : Bool
deriving DecidableEq, Repr

namespace ForkNode

/-- What comes back of a swap that has gone through. -/
def swapped (amountOut : U256) (gasUsed : ℕ) : SimulationResult where
  success := true
  amountOut
  gasUsed
  error := none

/-- What is reported of a swap that has not. -/
def failed (gasUsed : ℕ) (error : String) : SimulationResult where
  success := false
  amountOut := 0
  gasUsed
  error := some error

/-- The call of the V2 router for a path; any output will do, at any time. -/
def v2Call (router : Address) (amountIn : U256) (path : List Address) (sender : Address) :
    ForkCall where
  sender
  router
  input := Contracts.swapExactTokensForTokens.encodeCall {
    amountIn, amountOutMin := 0, path, recipient := sender, deadline := BitVec.allOnes 256 }

/-- A failed estimate of the gas counts as zero here, while a failed call is an error of the whole
    simulation. What comes back is the last of the amounts along the path. -/
def simulateV2Swap (node : ForkNode) (router : Address) (amountIn : U256) (path : List Address)
    (sender : Address) : Outcome SimulationResult :=
  let tx := v2Call router amountIn path sender
  let gasUsed := (node.estimateGas tx).toOption.getD 0
  match node.call tx with
  | .error e => .err e
  | .ok resultBytes =>
      match Contracts.swapExactTokensForTokens.results.decode resultBytes with
      | some res => .ok (swapped (res.getLast?.getD 0) gasUsed)
      | none => .ok (failed gasUsed (node.decodeError resultBytes))

/-- Of a route only its tokens go into the call. -/
def simulateRoute (node : ForkNode) (routerAddress : Address) (route : Route) (amountIn : U256)
    (sender : Address) : Outcome SimulationResult :=
  node.simulateV2Swap routerAddress amountIn (route.path.map Token.address) sender

/-- The call of a swap through one pool; the fee of a V3 pool must fit the 24 bits of its field. -/
def poolCall (pool : Pool) (routerAddress : Address) (amountIn : U256) (tokenIn : Token)
    (sender : Address) : Outcome ForkCall :=
  let (token0, token1) := pool.tokens
  let tokenOut := if tokenIn.address = token0.address then token1 else token0
  match pool with
  | .v2 _ => .ok (v2Call routerAddress amountIn [tokenIn.address, tokenOut.address] sender)
  | .v3 v3 => do
      Outcome.guardPanic (v3.fee.toNat < 2 ^ 24)
      return {
        sender, router := routerAddress
        input := Contracts.exactInputSingle.encodeCall {
          tokenIn := tokenIn.address, tokenOut := tokenOut.address, fee := v3.fee.setWidth 24
          recipient := sender, deadline := BitVec.allOnes 256, amount := amountIn, limit := 0
          sqrtPriceLimitX96 := 0 } }

/-- What the router of a pool returns. -/
def decodePool (node : ForkNode) (pool : Pool) (gasUsed : ℕ) (resultBytes : List UInt8) :
    SimulationResult :=
  match pool with
  | .v2 _ =>
      match Contracts.swapExactTokensForTokens.results.decode resultBytes with
      | some amounts => swapped (amounts.getLast?.getD 0) gasUsed
      | none => failed gasUsed ("V2 decode error: " ++ node.decodeError resultBytes)
  | .v3 _ =>
      match Contracts.exactInputSingle.results.decode resultBytes with
      | some amountOut => swapped amountOut gasUsed
      | none => failed gasUsed ("V3 decode error: " ++ node.decodeError resultBytes)

/-- A swap through one pool. Here a failed estimate or a failed call makes an unsuccessful result
    and no error. -/
def simulatePoolSwap (node : ForkNode) (pool : Pool) (routerAddress : Address) (amountIn : U256)
    (tokenIn : Token) (sender : Address) : Outcome SimulationResult := do
  let tx ← poolCall pool routerAddress amountIn tokenIn sender
  match node.estimateGas tx with
  | .error e => return failed 0 ("Gas estimation failed: " ++ e)
  | .ok gasUsed =>
      match node.call tx with
      | .error e => return failed gasUsed ("Execution failed: " ++ e)
      | .ok resultBytes => return node.decodePool pool gasUsed resultBytes

/-- How far the calculation is from the simulation; `debug` writes the error of a simulation. -/
def compareSimulationVsCalculation (m : TickMath) (node : ForkNode) (fuel : ℕ)
    (debug : Option String → String) (pool : Pool) (routerAddress : Address) (amountIn : U256)
    (tokenIn : Token) (sender : Address) : Fueled ComparisonResult := do
  let calculated ← pool.getAmountOut m fuel amountIn tokenIn
  let simResult ←
    Fueled.ended (node.simulatePoolSwap pool routerAddress amountIn tokenIn sender)
  if simResult.success then
    let simulated := simResult.amountOut
    return {
      calculated, simulated
      difference := if simulated < calculated then calculated - simulated
        else simulated - calculated
      isMatch := calculated = simulated }
  else
    Fueled.ended (.err ("Simulation failed during comparison: " ++ debug simResult.error))

end ForkNode

namespace PricingEngine

/-- The body of the loop of `scan_for_arbitrage`; the clock is read for each report. -/
def pushConfirmed (node : ForkNode) (amountIn : U256) (routerAddress sender : Address)
    (clock : ℕ → ℕ) (opportunities : List Quote) (route : Route) : List Quote :=
  match node.simulateRoute routerAddress route amountIn sender with
  | .ok simResult =>
      if simResult.success ∧ amountIn < simResult.amountOut then
        opportunities ++ [{
          route, amountIn, expectedOutput := simResult.amountOut
          simulatedOutput := simResult.amountOut, gasEstimate := simResult.gasUsed
          timestamp := clock opportunities.length }]
      else opportunities
  | _ => opportunities

/-- The loops of up to three hops that pay by the calculation, each simulated. Without a router
    there is nothing to report. -/
def scanForArbitrage (m : TickMath) (e : PricingEngine) (fuel : ℕ) (node : ForkNode)
    (tokenIn : Token) (amountIn : U256) (routerAddress sender : Address) (clock : ℕ → ℕ) :
    Fueled (List Quote) :=
  match e.router with
  | none => pure []
  | some router => do
      let loops ← router.findArbitrageLoops m fuel tokenIn amountIn 3
      return loops.foldl (pushConfirmed node amountIn routerAddress sender clock) []

end PricingEngine

end ArbEngine
