import ArbEngine.Chain.Builder
import ArbEngine.Chain.Contracts
import ArbEngine.Lib.Asking
import ArbEngine.Pricing.Engine

/-!
# Reading pools from the chain (`pricing/src/amm.rs`, `pricing/src/engine.rs`)

`from_chain` puts a pool together from what its contract and those of its tokens answer, each to a
call of its own. What the node answers, after the retries of the client, depends on when it is
asked. A pool is first read as a V2 pair and, if that fails anywhere, as a V3 pool; what a token
does not answer is made up.
-/

namespace ArbEngine

/-- A call as it reaches the node; without a block it is about the latest one. -/
structure EthCall where
  toAddress : Address
  value : U256
  input : List UInt8
  block : Option (BitVec 64)
deriving DecidableEq, Repr

/-- `ChainClient::call` sends the target, the value and the data of a request. -/
def TransactionRequest.ethCall (tx : TransactionRequest) (block : Option (BitVec 64)) :
    EthCall where
  toAddress := tx.toAddress
  value := tx.value.raw
  input := tx.data
  block

/-- The answers of a node, and `String::from_utf8_lossy`. -/
structure EthNode where
  call : ℕ → EthCall → Except ChainError (List UInt8)
  text : List UInt8 → String

inductive ReadError where
  | call (context : Option String) (e : ChainError)
  | decode
deriving DecidableEq, Repr

/-- `format!("{:?}", address)`. -/
def debugAddress (a : Address) : String :=
  "Address(0x" ++ String.ofList
    ((List.range 40).map fun i => Nat.digitChar (a.toNat / 16 ^ (39 - i) % 16)) ++ ")"

namespace UniswapV2Pair

def makeReq (toAddress : Address) (data : List UInt8) : TransactionRequest where
  toAddress
  fromAddress := none
  value := { raw := 0, decimals := 18, symbol := none }
  data
  nonce := none
  gasLimit := none
  maxFeePerGas := none
  maxPriorityFee := none
  chainId := 42161

end UniswapV2Pair

namespace EthNode

variable {Results : Type}

/-- What the function of a contract answers, in bytes. -/
def ask (node : EthNode) (context : Option String) (address : Address)
    (f : Abi.Function Unit Results) (block : Option (BitVec 64)) : Asking ReadError (List UInt8) :=
  Asking.ask fun i =>
    (node.call i ((UniswapV2Pair.makeReq address (f.encodeCall ())).ethCall block)).mapError
      (.call context)

/-- What it answers. -/
def read (node : EthNode) (context : Option String) (address : Address)
    (f : Abi.Function Unit Results) (block : Option (BitVec 64)) : Asking ReadError Results := do
  let bytes ← node.ask context address f block
  Asking.found .decode (f.results.decode bytes)

end EthNode

namespace UniswapV2Pair

/-- A call that fails reads as no bytes, which are neither a number nor a text. -/
def fetchTokenDetails (node : EthNode) (addr : Address) (block : Option (BitVec 64)) :
    Asking ReadError Token := do
  let dRes ← Asking.getD (node.ask none addr Contracts.decimals block) []
  let decimals := (Contracts.decimals.results.decode dRes).getD 18#8
  let sRes ← Asking.getD (node.ask none addr Contracts.symbol block) []
  let symbol := ((Contracts.symbol.results.decode sRes).map node.text).getD "UNK"
  return { address := addr, decimals := decimals.toNat, symbol }

def fromChain (node : EthNode) (address : Address) (block : Option (BitVec 64)) :
    Asking ReadError UniswapV2Pair := do
  let t0Addr ← node.read (some "Failed to fetch token0") address Contracts.token0 block
  let t1Addr ← node.read (some "Failed to fetch token1") address Contracts.token1 block
  let token0 ← fetchTokenDetails node t0Addr block
  let token1 ← fetchTokenDetails node t1Addr block
  let reserves ← node.read (some "Failed to fetch reserves") address Contracts.getReserves block
  return {
    address, token0, token1
    reserve0 := reserves.reserve0.setWidth 256
    reserve1 := reserves.reserve1.setWidth 256
    feeBps := 30 }

end UniswapV2Pair

namespace UniswapV3Pool

/-- A pool is read without its ticks. -/
def fromChain (node : EthNode) (address : Address) (block : Option (BitVec 64)) :
    Asking ReadError UniswapV3Pool := do
  let t0 ← node.read none address Contracts.token0 block
  let t1 ← node.read none address Contracts.token1 block
  let token0 ← UniswapV2Pair.fetchTokenDetails node t0 block
  let token1 ← UniswapV2Pair.fetchTokenDetails node t1 block
  let liq ← node.read none address Contracts.liquidity block
  let s0 ← node.read none address Contracts.slot0 block
  let fee ← node.read none address Contracts.fee block
  let ts ← node.read none address Contracts.tickSpacing block
  return {
    address, token0, token1
    liquidity := liq
    sqrtPriceX96 := s0.sqrtPriceX96.setWidth 256
    tick := s0.tick.toInt
    fee := fee.setWidth 32
    tickSpacing := ts.toInt
    ticks := ∅ }

end UniswapV3Pool

def Pool.fromChain (node : EthNode) (address : Address) (block : Option (BitVec 64)) :
    Asking String Pool := fun i =>
  match UniswapV2Pair.fromChain node address block i with
  | .ok v2Pair j => .ok (.v2 v2Pair) j
  | .error _ j =>
      match UniswapV3Pool.fromChain node address block j with
      | .ok v3Pool k => .ok (.v3 v3Pool) k
      | .error _ k =>
          .error ("Address " ++ debugAddress address ++ " is not a valid V2 or V3 pool") k

namespace PricingEngine

/-- The reads of `load_pools` from a moment on, and the moment at which they are done. -/
def readPools (node : EthNode) : List Address → ℕ → List (Address × Except String Pool) × ℕ
  | [], i => ([], i)
  | addr :: poolAddresses, i =>
      match Pool.fromChain node addr none i with
      | .ok pair j =>
          let (reads, k) := readPools node poolAddresses j
          ((addr, .ok pair) :: reads, k)
      | .error msg j => ([(addr, .error msg)], j)

/-- `load_pools` at a moment. -/
def loadPoolsAt (e : PricingEngine) (node : EthNode) (poolAddresses : List Address)
    (order : IterationOrder) (i : ℕ) : Except String Unit × PricingEngine :=
  e.loadPools (readPools node poolAddresses i).1 order

end PricingEngine

end ArbEngine
