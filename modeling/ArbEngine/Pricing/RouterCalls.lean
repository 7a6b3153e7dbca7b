import ArbEngine.Chain.Contracts
import ArbEngine.Chain.Signing
import ArbEngine.Pricing.Monitor

/-!
# Router calls on the wire (`pricing/src/monitor.rs`)

The five functions the monitor looks for, as their calldata is written and read, and a signed
transaction as the monitor is given it. A path longer than memory is not written by anybody.
-/

namespace ArbEngine

/-- A call of one of the five functions, with all of its arguments. -/
inductive RouterInput where
  | swapExactTokensForTokens (args : Contracts.SwapExactTokensArgs)
  | swapExactETHForTokens (args : Contracts.SwapExactETHArgs)
  | swapExactTokensForETH (args : Contracts.SwapExactTokensArgs)
  | exactInputSingle (params : Contracts.ExactSingleParams)
  | exactOutputSingle (params : Contracts.ExactSingleParams)
deriving DecidableEq, Repr

namespace RouterInput

def abiEncode : RouterInput → List UInt8
  | .swapExactTokensForTokens args => Contracts.swapExactTokensForTokens.encodeCall args
  | .swapExactETHForTokens args => Contracts.swapExactETHForTokens.encodeCall args
  | .swapExactTokensForETH args => Contracts.swapExactTokensForETH.encodeCall args
  | .exactInputSingle params => Contracts.exactInputSingle.encodeCall params
  | .exactOutputSingle params => Contracts.exactOutputSingle.encodeCall params

/-- What the monitor reads of it. -/
def call : RouterInput → RouterCall
  | .swapExactTokensForTokens c =>
      .swapExactTokensForTokens c.amountIn c.amountOutMin c.path c.deadline
  | .swapExactETHForTokens c => .swapExactETHForTokens c.amountOutMin c.path c.deadline
  | .swapExactTokensForETH c =>
      .swapExactTokensForETH c.amountIn c.amountOutMin c.path c.deadline
  | .exactInputSingle p => .exactInputSingle p.tokenIn p.tokenOut p.deadline p.amount p.limit
  | .exactOutputSingle p => .exactOutputSingle p.tokenIn p.tokenOut p.deadline p.amount p.limit

end RouterInput

/-- The decoder of a function, of which `view` is read. -/
def SolCall.ofFunction {Args Results View : Type} (f : Abi.Function Args Results)
    (view : Args → View) : SolCall View where
  selector := f.selector
  abiDecode input := (f.decodeCall input).map view

def routerAbi : RouterAbi where
  swapExactTokensForTokensCall :=
    .ofFunction Contracts.swapExactTokensForTokens fun c =>
      (c.amountIn, c.amountOutMin, c.path, c.deadline)
  swapExactETHForTokensCall :=
    .ofFunction Contracts.swapExactETHForTokens fun c => (c.amountOutMin, c.path, c.deadline)
  swapExactTokensForETHCall :=
    .ofFunction Contracts.swapExactTokensForETH fun c =>
      (c.amountIn, c.amountOutMin, c.path, c.deadline)
  exactInputSingleCall :=
    .ofFunction Contracts.exactInputSingle fun p =>
      (p.tokenIn, p.tokenOut, p.deadline, p.amount, p.limit)
  exactOutputSingleCall :=
    .ofFunction Contracts.exactOutputSingle fun p =>
      (p.tokenIn, p.tokenOut, p.deadline, p.amount, p.limit)

/-- A signed transaction with its sender, once it is pending; a transaction with a fee cap has no
    gas price. -/
def TxEip1559.pending (tx : TxEip1559) (hash : B256) (sender : Address) : Transaction where
  hash
  sender
  toAddress := some tx.toAddress
  value := tx.value
  gasPrice := none
  input := tx.input

end ArbEngine
