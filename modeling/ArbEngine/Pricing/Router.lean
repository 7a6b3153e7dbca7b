import Mathlib.Data.Finset.Insert
import ArbEngine.Lib.Fueled
import ArbEngine.Pricing.Pool

/-!
# Route enumeration (`pricing/src/router.rs`)

`find_all_routes` is a backtracking search. It shares one set of visited addresses and one
pair of stacks between all its branches: what a branch pushes it pops again, and the routes it
completes are appended to one list of results. All four are threaded through the recursion
here as `Search`.

The graph is a hash map from addresses to arcs; an address without an entry has none.

The routes are ranked by what is left of their output once the gas is paid for
(`compare_routes`), where the cost of the gas can be told in the token that comes out. Routes that
come back to where they start (`find_arbitrage_loops`) are kept if they pay more than they take.
-/

namespace ArbEngine

structure Route where
  pools : List Pool
  path : List Token

structure RouteFinder where
  pools : List Pool
  graph : Address → List (Pool × Token)

/-- The visited set, the two stacks (their tops at the end) and the routes found so far. -/
structure Search where
  visited : Finset Address
  pathTokens : List Token
  pathPools : List Pool
  results : List Route

namespace RouteFinder

/-- `graph.entry(address).or_insert_with(Vec::new).push(arc)` -/
def addArc (graph : Address → List (Pool × Token)) (address : Address) (arc : Pool × Token) :
    Address → List (Pool × Token) :=
  fun a => if a = address then graph a ++ [arc] else graph a

def buildGraph (pools : List Pool) : Address → List (Pool × Token) :=
  pools.foldl
    (fun graph pool =>
      let (t0, t1) := pool.tokens
      addArc (addArc graph t0.address (pool, t1)) t1.address (pool, t0))
    fun _ => []

def new (pools : List Pool) : RouteFinder where
  pools := pools
  graph := buildGraph pools

def dfs (graph : Address → List (Pool × Token)) (targetToken : Token) :
    ℕ → Token → Search → Search
  | hopsRemaining, currentToken, s =>
      if currentToken.address = targetToken.address then
        if s.pathPools.isEmpty then s
        else { s with results := s.results ++ [{ pools := s.pathPools, path := s.pathTokens }] }
      else
        match hopsRemaining with
        | 0 => s
        | hops + 1 =>
            (graph currentToken.address).foldl
              (fun s arc =>
                let (pool, nextToken) := arc
                if nextToken.address ∈ s.visited then s
                else
                  let s := dfs graph targetToken hops nextToken
                    { s with visited := insert nextToken.address s.visited
                             pathTokens := s.pathTokens ++ [nextToken]
                             pathPools := s.pathPools ++ [pool] }
                  { s with visited := s.visited.erase nextToken.address
                           pathTokens := s.pathTokens.dropLast
                           pathPools := s.pathPools.dropLast })
              s

def findAllRoutes (f : RouteFinder) (tokenIn tokenOut : Token) (maxHops : ℕ) : List Route :=
  (dfs f.graph tokenOut maxHops tokenIn
    { visited := {tokenIn.address}
      pathTokens := [tokenIn]
      pathPools := []
      results := [] }).results

end RouteFinder

/-! ## Ranking -/

namespace Route

/-- The pools of a route, each at the token of the path that goes into it. -/
def outputAlong (m : TickMath) (fuel : ℕ) : List Pool → List Token → U256 → Fueled U256
  | [], _, currentAmount => pure currentAmount
  | _ :: _, [], _ => .ended .panic
  | pool :: pools, tokenIn :: path, currentAmount => do
      let currentAmount ← pool.getAmountOut m fuel currentAmount tokenIn
      outputAlong m fuel pools path currentAmount

def getOutput (m : TickMath) (r : Route) (fuel : ℕ) (amountIn : U256) : Fueled U256 :=
  outputAlong m fuel r.pools r.path amountIn

/-- What goes into each pool of the route, and what comes out of the last one. -/
def amountsAlong (m : TickMath) (fuel : ℕ) :
    List Pool → List Token → U256 → Fueled (List U256)
  | [], _, currentAmount => pure [currentAmount]
  | _ :: _, [], _ => .ended .panic
  | pool :: pools, tokenIn :: path, currentAmount => do
      let nextAmount ← pool.getAmountOut m fuel currentAmount tokenIn
      let amounts ← amountsAlong m fuel pools path nextAmount
      return currentAmount :: amounts

def getIntermediateAmounts (m : TickMath) (r : Route) (fuel : ℕ) (amountIn : U256) :
    Fueled (List U256) :=
  amountsAlong m fuel r.pools r.path amountIn

def estimateGas (r : Route) : ℕ := 150000 + 100000 * r.pools.length

end Route

structure RouteAnalysis where
  route : Route
  grossOutput : U256
  gasEstimate : ℕ
  gasCostEth : U256
  gasCostToken : Option U256
  netOutput : U256

namespace RouteFinder

def isEther (token : Token) : Bool := token.symbol = "WETH" ∨ token.symbol = "ETH"

/-- The price of gas in a token is that of the first pool it shares with ether. -/
def convertEthToTokenCost (m : TickMath) (f : RouteFinder) (fuel : ℕ) (gasCostEth : U256)
    (tokenOut : Token) : Fueled (Option U256) :=
  if isEther tokenOut then pure (some gasCostEth)
  else
    match (f.graph tokenOut.address).find? fun arc => isEther arc.2 with
    | some (pool, neighborToken) =>
        Fueled.discardErr (pool.getAmountOut m fuel gasCostEth neighborToken)
    | none => pure none

/-- What the gas of a route costs in wei. -/
def gasCostEth (route : Route) (gasPriceGwei : BitVec 64) : U256 :=
  let gasPriceWei := gasPriceGwei.setWidth 256 * 1000000000#256
  BitVec.ofNat 256 route.estimateGas * gasPriceWei

/-- The body of the loop of `compare_routes`. -/
def analyse (m : TickMath) (f : RouteFinder) (fuel : ℕ) (tokenOut : Token) (amountIn : U256)
    (gasPriceGwei : BitVec 64) (route : Route) : Fueled RouteAnalysis := do
  let grossOutput ← (route.getOutput m fuel amountIn).unwrapOr 0#256
  let gasCostEth := gasCostEth route gasPriceGwei
  let gasCostToken ← f.convertEthToTokenCost m fuel gasCostEth tokenOut
  return {
    route, grossOutput, gasEstimate := route.estimateGas, gasCostEth, gasCostToken
    netOutput :=
      match gasCostToken with
      | some cost => Word.saturatingSub grossOutput cost
      | none => grossOutput }

def analyseAll (m : TickMath) (f : RouteFinder) (fuel : ℕ) (tokenOut : Token) (amountIn : U256)
    (gasPriceGwei : BitVec 64) : List Route → Fueled (List RouteAnalysis)
  | [] => pure []
  | route :: routes => do
      let analysis ← f.analyse m fuel tokenOut amountIn gasPriceGwei route
      let results ← f.analyseAll m fuel tokenOut amountIn gasPriceGwei routes
      return analysis :: results

def compareRoutes (m : TickMath) (f : RouteFinder) (fuel : ℕ) (tokenIn tokenOut : Token)
    (amountIn : U256) (gasPriceGwei : BitVec 64) (maxHops : ℕ) : Fueled (List RouteAnalysis) :=
  f.analyseAll m fuel tokenOut amountIn gasPriceGwei (f.findAllRoutes tokenIn tokenOut maxHops)

/-- `max_by_key` on the net output: of several that are largest it is the last. -/
def maxByNetOutput : List RouteAnalysis → Option RouteAnalysis
  | [] => none
  | first :: rest =>
      some (rest.foldl (fun best a => if best.netOutput ≤ a.netOutput then a else best) first)

def findBestRoute (m : TickMath) (f : RouteFinder) (fuel : ℕ) (tokenIn tokenOut : Token)
    (amountIn : U256) (gasPriceGwei : BitVec 64) (maxHops : ℕ) : Fueled (Route × U256) := do
  let analyses ← f.compareRoutes m fuel tokenIn tokenOut amountIn gasPriceGwei maxHops
  let best ← Fueled.ended (Outcome.okOr "No route found" (maxByNetOutput analyses))
  return (best.route, best.netOutput)

/-! ## Loops -/

/-- The route that takes an arc out of `tokenIn` and comes back along `subRoute`. -/
def fullRoute (tokenIn : Token) (pool : Pool) (subRoute : Route) : Route where
  pools := pool :: subRoute.pools
  path := tokenIn :: subRoute.path

/-- The body of the inner loop of `find_arbitrage_loops`. -/
def pushProfitable (m : TickMath) (fuel : ℕ) (tokenIn : Token) (amountIn : U256) (pool : Pool)
    (arbitrageOps : List Route) (subRoute : Route) : Fueled (List Route) := do
  let amountOut ← ((fullRoute tokenIn pool subRoute).getOutput m fuel amountIn).discardErr
  return match amountOut with
    | some amountOut =>
        if amountIn < amountOut then arbitrageOps ++ [fullRoute tokenIn pool subRoute]
        else arbitrageOps
    | none => arbitrageOps

def findArbitrageLoops (m : TickMath) (f : RouteFinder) (fuel : ℕ) (tokenIn : Token)
    (amountIn : U256) (maxHops : ℕ) : Fueled (List Route) :=
  (f.graph tokenIn.address).foldlM
    (fun arbitrageOps arc =>
      let (pool, nextToken) := arc
      if 1 < maxHops then
        (f.findAllRoutes nextToken tokenIn (maxHops - 1)).foldlM
          (pushProfitable m fuel tokenIn amountIn pool) arbitrageOps
      else pure arbitrageOps)
    []

end RouteFinder

end ArbEngine
