import ArbEngine.Core.Types

/-!
# The mempool monitor (`pricing/src/monitor.rs`)

A pending transaction that calls one of five router functions becomes a swap. Decoding calldata
is the work of the ABI library: a transaction carries the call its calldata decodes to, if it is
one of the five.
-/

namespace ArbEngine

structure ParsedSwap where
  txHash : BitVec 256
  router : Address
  dex : String
  method : String
  tokenIn : Option Address
  tokenOut : Option Address
  amountIn : U256
  minAmountOut : U256
  deadline : U256
  sender : Address
  gasPrice : Option U128
deriving DecidableEq, Repr

inductive MonitorEvent where
  | mempoolSwap (swap : ParsedSwap)
  | poolUpdate (poolAddress : Address) (blockNumber : ℕ)
deriving DecidableEq, Repr

/-- The calls that are looked for, with the arguments that are read. -/
inductive RouterCall where
  | swapExactTokensForTokens (amountIn amountOutMin : U256) (path : List Address)
      (deadline : U256)
  | swapExactETHForTokens (amountOutMin : U256) (path : List Address) (deadline : U256)
  | swapExactTokensForETH (amountIn amountOutMin : U256) (path : List Address) (deadline : U256)
  | exactInputSingle (tokenIn tokenOut : Address) (deadline amountIn amountOutMinimum : U256)
  | exactOutputSingle (tokenIn tokenOut : Address) (deadline amountOut amountInMaximum : U256)
deriving DecidableEq, Repr

structure PendingTransaction where
  hash : BitVec 256
  sender : Address
  toAddress : Option Address
  value : U256
  gasPrice : Option U128
  call : Option RouterCall
deriving DecidableEq, Repr

namespace MempoolMonitor

/-- Every amount is taken as it stands in the calldata. -/
def parseCall (tx : PendingTransaction) (router : Address) : RouterCall → ParsedSwap
  | .swapExactTokensForTokens amountIn amountOutMin path deadline =>
      { txHash := tx.hash, router, dex := "UniswapV2", method := "swapExactTokensForTokens"
        tokenIn := path.head?, tokenOut := path.getLast?, amountIn, minAmountOut := amountOutMin
        deadline, sender := tx.sender, gasPrice := tx.gasPrice }
  | .swapExactETHForTokens amountOutMin path deadline =>
      { txHash := tx.hash, router, dex := "UniswapV2", method := "swapExactETHForTokens"
        tokenIn := none, tokenOut := path.getLast?, amountIn := tx.value
        minAmountOut := amountOutMin, deadline, sender := tx.sender, gasPrice := tx.gasPrice }
  | .swapExactTokensForETH amountIn amountOutMin path deadline =>
      { txHash := tx.hash, router, dex := "UniswapV2", method := "swapExactTokensForETH"
        tokenIn := path.head?, tokenOut := none, amountIn, minAmountOut := amountOutMin
        deadline, sender := tx.sender, gasPrice := tx.gasPrice }
  | .exactInputSingle tokenIn tokenOut deadline amountIn amountOutMinimum =>
      { txHash := tx.hash, router, dex := "UniswapV3", method := "exactInputSingle"
        tokenIn := some tokenIn, tokenOut := some tokenOut, amountIn
        minAmountOut := amountOutMinimum, deadline, sender := tx.sender, gasPrice := tx.gasPrice }
  | .exactOutputSingle tokenIn tokenOut deadline amountOut amountInMaximum =>
      { txHash := tx.hash, router, dex := "UniswapV3", method := "exactOutputSingle"
        tokenIn := some tokenIn, tokenOut := some tokenOut, amountIn := amountInMaximum
        minAmountOut := amountOut, deadline, sender := tx.sender, gasPrice := tx.gasPrice }

def parseTransaction (tx : PendingTransaction) : Option ParsedSwap := do
  let router ← tx.toAddress
  let call ← tx.call
  return parseCall tx router call

end MempoolMonitor

/-! ## Calldata -/

/-- What the ABI library generates for a function: its selector, and the decoder of its calldata
    into the arguments that are read. -/
structure SolCall (Args : Type) where
  selector : List UInt8
  abiDecode : List UInt8 → Option Args

/-- The arguments, where the calldata starts with the selector and decodes. -/
def SolCall.read {Args : Type} (c : SolCall Args) (input : List UInt8) : Option Args :=
  if input.take 4 = c.selector then c.abiDecode input else none

/-- The five functions, with their arguments in the order of their declarations. -/
structure RouterAbi where
  swapExactTokensForTokensCall : SolCall (U256 × U256 × List Address × U256)
  swapExactETHForTokensCall : SolCall (U256 × List Address × U256)
  swapExactTokensForETHCall : SolCall (U256 × U256 × List Address × U256)
  exactInputSingleCall : SolCall (Address × Address × U256 × U256 × U256)
  exactOutputSingleCall : SolCall (Address × Address × U256 × U256 × U256)

/-- A transaction as it is pending, with its calldata. -/
structure Transaction where
  hash : BitVec 256
  sender : Address
  toAddress : Option Address
  value : U256
  gasPrice : Option U128
  input : List UInt8
deriving DecidableEq, Repr

namespace MempoolMonitor

/-- The functions are tried in this order. -/
def decodeCall (abi : RouterAbi) (input : List UInt8) : Option RouterCall :=
  if input.length < 4 then none
  else
    ((abi.swapExactTokensForTokensCall.read input).map
        fun (amountIn, amountOutMin, path, deadline) =>
          .swapExactTokensForTokens amountIn amountOutMin path deadline) <|>
      ((abi.swapExactETHForTokensCall.read input).map fun (amountOutMin, path, deadline) =>
        .swapExactETHForTokens amountOutMin path deadline) <|>
      ((abi.swapExactTokensForETHCall.read input).map
        fun (amountIn, amountOutMin, path, deadline) =>
          .swapExactTokensForETH amountIn amountOutMin path deadline) <|>
      ((abi.exactInputSingleCall.read input).map
        fun (tokenIn, tokenOut, deadline, amountIn, amountOutMinimum) =>
          .exactInputSingle tokenIn tokenOut deadline amountIn amountOutMinimum) <|>
      ((abi.exactOutputSingleCall.read input).map
        fun (tokenIn, tokenOut, deadline, amountOut, amountInMaximum) =>
          .exactOutputSingle tokenIn tokenOut deadline amountOut amountInMaximum)

/-- The transaction with its calldata decoded. -/
def pending (abi : RouterAbi) (tx : Transaction) : PendingTransaction where
  hash := tx.hash
  sender := tx.sender
  toAddress := tx.toAddress
  value := tx.value
  gasPrice := tx.gasPrice
  call := decodeCall abi tx.input

/-- `parse_transaction` on the calldata. -/
def parseInput (abi : RouterAbi) (tx : Transaction) : Option ParsedSwap :=
  parseTransaction (pending abi tx)

end MempoolMonitor

end ArbEngine
