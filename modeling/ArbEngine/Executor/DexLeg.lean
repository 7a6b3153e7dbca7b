import ArbEngine.Executor.Submission
import ArbEngine.Lib.Binary64
import ArbEngine.Pricing.Pool

/-!
# The DEX leg outside the simulation (`executor/src/engine.rs`)

`execute_dex_leg` looks its tokens, pool and router up, works out what to pay in and the least
amount to accept, makes sure of the allowance, and submits a swap. What the chain node, the
relay and the token contract answer are arguments; what becomes of a submission in time is in
`Submission`.

The quote of a V3 pool may never come back; the leg is `none` then. A lookup that fails is the
text of the error the leg reports.
-/

namespace ArbEngine

/-- What the executor has for its DEX legs; `parseAddress` is `Address::from_string`. -/
structure DexVenue where
  hasChainClient : Bool
  walletAddress : Option Address
  tokenAddresses : String → Option Address
  pools : String → Option Pool
  parseAddress : String → Option Address

/-- Where a swap goes: its tokens, the pool of the pair if there is one, and the router. -/
structure SwapRoute where
  wallet : Address
  tokenIn : Address
  tokenOut : Address
  pool : Option Pool
  router : Address

/-- The calldata of a swap. -/
inductive SwapCall where
  | exactInputSingle (tokenIn tokenOut : Address) (fee : ℕ) (recipient : Address) (deadline : ℕ)
      (amountIn amountOutMinimum sqrtPriceLimitX96 : U256)
  | swapExactTokensForTokens (amountIn amountOutMin : U256) (path : List Address)
      (recipient : Address) (deadline : ℕ)
deriving DecidableEq, Repr

/-- The least output the router accepts. -/
def SwapCall.amountOutMin : SwapCall → U256
  | .exactInputSingle _ _ _ _ _ _ amountOutMinimum _ => amountOutMinimum
  | .swapExactTokensForTokens _ amountOutMin _ _ _ => amountOutMin

/-- What the token contract answers: the allowance there is, and the status of an approval. -/
structure AllowanceEnv where
  current : Except String U256
  approve : Except String Bool

/-- How the submission of a swap ends. -/
inductive SwapAnswer where
  | signFailed (msg : String)
  | bundleFailed (msg : String)
  | bundle (txHash : String) (targetBlock : ℕ) (included : Bool)
  | txFailed (msg : String)
  | receipt (txHash : String) (status : Bool)
deriving DecidableEq, Repr

def filledLeg (signal : Signal) (expectedFillSize : ℚ) (txHash : String) : LegResult where
  success := true
  price := signal.dexPrice
  filled := expectedFillSize
  orderId := none
  txHash := some txHash
  error := none

/-- What the leg reports of a submission. -/
def SwapAnswer.report (signal : Signal) (expectedFillSize : ℚ) : SwapAnswer → LegResult
  | .signFailed msg => LegResult.failure ("Failed to sign tx for bundle: " ++ msg)
  | .bundleFailed msg => LegResult.failure ("Bundle submission failed: " ++ msg)
  | .bundle txHash targetBlock included =>
      if included then filledLeg signal expectedFillSize txHash else bundleMissed targetBlock
  | .txFailed msg => LegResult.failure ("Tx Failed: " ++ msg)
  | .receipt txHash status =>
      if status then filledLeg signal expectedFillSize txHash else dexReverted txHash

structure DexEnv where
  now : ℕ
  allowance : AllowanceEnv
  submit : SwapAnswer

namespace DexVenue

def tokensOf (direction : Direction) (base quote : String) : String × String :=
  match direction with
  | .buyCexSellDex => (base, quote)
  | .buyDexSellCex => (quote, base)

/-- `matches!(pool, Some(Pool::V3(_)))` -/
def isV3 : Option Pool → Bool
  | some (.v3 _) => true
  | _ => false

def route (v : DexVenue) (config : ExecutorConfig) (signal : Signal) : Except String SwapRoute :=
  if !v.hasChainClient then .error "ChainClient missing"
  else
    match v.walletAddress with
    | none => .error "Wallet missing"
    | some wallet =>
        match splitPair signal.pair with
        | [baseSym, quoteSym] =>
            let (tokenInSym, tokenOutSym) := tokensOf signal.direction baseSym quoteSym
            match v.tokenAddresses tokenInSym with
            | none => .error ("Token not found: " ++ tokenInSym)
            | some tokenIn =>
                match v.tokenAddresses tokenOutSym with
                | none => .error ("Token not found: " ++ tokenOutSym)
                | some tokenOut =>
                    let pool := v.pools signal.pair
                    -- a router that is not configured reads as an empty one
                    let routerAddr :=
                      if isV3 pool then config.dexRouterV3.getD ""
                      else config.dexRouterAddress.getD ""
                    if routerAddr = "" then .error "Router address missing"
                    else
                      match v.parseAddress routerAddr with
                      | none => .error "Invalid router address"
                      | some router => .ok { wallet, tokenIn, tokenOut, pool, router }
        | _ => .error "Invalid pair fmt"

/-! ## Amounts -/

/-- The pool's own entry for a token: its first one if the addresses agree. -/
def tokenRef (pool : Pool) (token : Address) : Token :=
  let (t0, t1) := pool.tokens
  if t0.address = token then t0 else t1

/-- `x.round() as u128`: a negative value becomes zero and a large one the largest. -/
def roundU128 (x : ℚ) : U256 := BitVec.ofNat 256 (min (roundHalfAway x).toNat (2 ^ 128 - 1))

/-- What is paid in, in raw units. The size and the price are doubles, and so is every product
    on the way; `10f64.powi(decimals)` is a power of ten itself up to 22 decimals. -/
def amountIn (route : SwapRoute) (signal : Signal) (size : ℚ) : U256 :=
  let decimals : ℕ :=
    match route.pool with
    | some p => (tokenRef p route.tokenIn).decimals
    -- without a pool nobody knows the decimals
    | none => 18
  let unit := Binary64.nearest (10 ^ decimals)
  if signal.direction = .buyDexSellCex then
    let usdtCost := Binary64.nearest (size * signal.dexPrice)
    roundU128 (Binary64.nearest (usdtCost * unit))
  else roundU128 (Binary64.nearest (size * unit))

/-- `(slippage_tolerance * 10000.0) as u64`, which cuts off the product of two doubles: 0.0029
    gives 28. -/
def toleranceFloor (config : ExecutorConfig) : ℕ :=
  ⌊Binary64.nearest (config.slippageTolerance * 10000)⌋.toNat

/-- The tolerance as the cast to `u64` leaves it, and 50 more for a V3 pool; an addition beyond
    `u64` panics. -/
def toleranceBps (config : ExecutorConfig) (pool : Pool) : Outcome ℕ :=
  let bps := min (toleranceFloor config) (2 ^ 64 - 1)
  match pool with
  | .v2 _ => .ok bps
  | .v3 _ => if bps + 50 < 2 ^ 64 then .ok (bps + 50) else .panic

/-- A quote less the tolerance; a product that overflows counts as zero. -/
def lessTolerance (expected : U256) (bps : ℕ) : U256 :=
  let factor := BitVec.ofNat 256 (10000 - bps)
  (Word.checkedMul expected factor).getD 0#256 / 10000#256

/-- The least output to accept; without a pool or a quote it is one unit. -/
def amountOutMin (m : TickMath) (config : ExecutorConfig) (fuel : ℕ) (route : SwapRoute)
    (amountIn : U256) : Option (Outcome U256) :=
  match route.pool with
  | none => some (.ok 1#256)
  | some p =>
      (p.getAmountOut m fuel amountIn (tokenRef p route.tokenIn)).map fun
        | .ok expected => do
            let bps ← toleranceBps config p
            return lessTolerance expected bps
        -- without a quote any output will do
        | .err _ => .ok 1#256
        | .panic => .panic

/-! ## The swap -/

/-- The reset of an allowance that is too small is not waited for with any consequence. -/
def ensureAllowance (env : AllowanceEnv) (amount : U256) : Except String Unit :=
  match env.current with
  | .error e => .error e
  | .ok currentAllowance =>
      if currentAllowance < amount then
        match env.approve with
        | .error e => .error ("Approve failed: " ++ e)
        | .ok status => if status then .ok () else .error "Approve reverted on-chain"
      else .ok ()

/-- The fee of a V3 pool must fit the 24 bits of its field. -/
def swapCall (route : SwapRoute) (now : ℕ) (amountIn amountOutMin : U256) : Outcome SwapCall :=
  let deadline := now + 300
  match route.pool with
  | some (.v3 p) => do
      Outcome.guardPanic (p.fee.toNat < 2 ^ 24)
      return .exactInputSingle route.tokenIn route.tokenOut p.fee.toNat route.wallet deadline
        amountIn amountOutMin 0#256
  | _ => .ok (.swapExactTokensForTokens amountIn amountOutMin [route.tokenIn, route.tokenOut]
      route.wallet deadline)

/-- The leg with the swap it has submitted, if it came that far. -/
def executeDexLeg (m : TickMath) (v : DexVenue) (config : ExecutorConfig) (fuel : ℕ)
    (env : DexEnv) (signal : Signal) (size : ℚ) :
    Option (Outcome (LegResult × Option SwapCall)) :=
  if config.simulationMode then some (.ok (simulateDexLeg signal size, none))
  else
    match v.route config signal with
    | .error msg => some (.ok (LegResult.failure msg, none))
    | .ok route =>
        let amountIn := amountIn route signal size
        (amountOutMin m config fuel route amountIn).map fun o => do
          let amountOutMin ← o
          match ensureAllowance env.allowance amountIn with
          | .error e => return (LegResult.failure ("Allowance failed: " ++ e), none)
          | .ok _ =>
              let call ← swapCall route env.now amountIn amountOutMin
              -- what the chain paid is not looked at
              return (SwapAnswer.report signal size env.submit, some call)

end DexVenue

end ArbEngine
