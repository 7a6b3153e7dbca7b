import Mathlib.Data.Finmap
import ArbEngine.Pricing.Router

/-!
# The pricing engine (`pricing/src/engine.rs`)

The engine holds its pools by address and a router over a copy of them. What a call reads from
the chain, what the simulator answers and in which order the pools come out of the hash map are
given to it.
-/

namespace ArbEngine

abbrev PoolMap := Finmap fun _ : Address => Pool

/-- `pools.values()`, in no order. -/
def PoolMap.values (pools : PoolMap) : Multiset Pool := pools.entries.map Sigma.snd

/-- In which order a run goes through the values of a hash map. -/
structure IterationOrder where
  list : Multiset Pool → List Pool
  exact : ∀ values, (list values : Multiset Pool) = values

structure SimulationResult where
  success : Bool
  amountOut : U256
  gasUsed : ℕ
  error : Option String
deriving DecidableEq, Repr

structure Quote where
  route : Route
  amountIn : U256
  expectedOutput : U256
  simulatedOutput : U256
  gasEstimate : ℕ
  timestamp : ℕ

/-- Within a thousandth of what was expected. -/
def Quote.isValid (q : Quote) : Bool :=
  let diff :=
    if q.simulatedOutput < q.expectedOutput then q.expectedOutput - q.simulatedOutput
    else q.simulatedOutput - q.expectedOutput
  match Word.checkedMul diff 1000#256 with
  | some scaledDiff => scaledDiff < q.expectedOutput
  | none => false

structure PricingEngine where
  pools : PoolMap
  router : Option RouteFinder

/-- What a quote finds out: how a route does in the simulator, the clock, and how an error of the
    simulator is written. -/
structure SimulatorEnv where
  simulateRoute : Route → U256 → Outcome SimulationResult
  timestamp : ℕ
  debug : Option String → String

namespace PricingEngine

def new : PricingEngine where
  pools := ∅
  router := none

/-- The router over the pools as they are. -/
def withRouter (pools : PoolMap) (order : IterationOrder) : PricingEngine where
  pools := pools
  router := some (RouteFinder.new (order.list pools.values))

/-- The loop of `load_pools`: each pool is inserted as soon as it is read, and the first one that
    cannot be read ends it. -/
def insertRead (pools : PoolMap) :
    List (Address × Except String Pool) → Except String Unit × PoolMap
  | [] => (.ok (), pools)
  | (addr, .ok pair) :: poolAddresses => insertRead (pools.insert addr pair) poolAddresses
  | (_, .error msg) :: _ => (.error msg, pools)

def loadPools (e : PricingEngine) (poolAddresses : List (Address × Except String Pool))
    (order : IterationOrder) : Except String Unit × PricingEngine :=
  match insertRead e.pools poolAddresses with
  | (.error msg, pools) => (.error msg, { e with pools })
  | (.ok (), pools) => (.ok (), withRouter pools order)

def refreshPool (e : PricingEngine) (address : Address) (read : Except String Pool)
    (order : IterationOrder) : Except String Unit × PricingEngine :=
  if address ∈ e.pools then
    match read with
    | .error msg => (.error msg, e)
    | .ok newPair => (.ok (), withRouter (e.pools.insert address newPair) order)
  else (.ok (), e)

def getQuote (m : TickMath) (e : PricingEngine) (fuel : ℕ) (env : SimulatorEnv)
    (tokenIn tokenOut : Token) (amountIn : U256) (gasPriceGwei : BitVec 64) : Fueled Quote := do
  let router ← Fueled.ended (Outcome.okOr "Router not initialized" e.router)
  let (route, netOutput) ←
    router.findBestRoute m fuel tokenIn tokenOut amountIn gasPriceGwei 3
  let simResult ← Fueled.ended (env.simulateRoute route amountIn)
  if simResult.success then
    return {
      route, amountIn, expectedOutput := netOutput, simulatedOutput := simResult.amountOut
      gasEstimate := simResult.gasUsed, timestamp := env.timestamp }
  else Fueled.ended (.err ("Simulation failed: " ++ env.debug simResult.error))

end PricingEngine

end ArbEngine
