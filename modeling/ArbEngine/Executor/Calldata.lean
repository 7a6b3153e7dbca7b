import ArbEngine.Executor.Allowance
import ArbEngine.Pricing.RouterCalls

/-!
# The transactions of a DEX leg (`executor/src/engine.rs`)

What `execute_dex_leg` and `ensure_allowance` hand to the transaction builder.
-/

namespace ArbEngine

/-- The call of the router, as it is encoded. -/
def SwapCall.input : SwapCall → RouterInput
  | .exactInputSingle tokenIn tokenOut fee recipient deadline amountIn amountOutMinimum
      sqrtPriceLimitX96 =>
      .exactInputSingle {
        tokenIn, tokenOut, fee := BitVec.ofNat 24 fee, recipient
        deadline := BitVec.ofNat 256 deadline, amount := amountIn, limit := amountOutMinimum
        sqrtPriceLimitX96 := sqrtPriceLimitX96.setWidth 160 }
  | .swapExactTokensForTokens amountIn amountOutMin path recipient deadline =>
      .swapExactTokensForTokens {
        amountIn, amountOutMin, path, recipient, deadline := BitVec.ofNat 256 deadline }

namespace TransactionBuilder

/-- The builder of a swap. -/
def ofSwap (route : SwapRoute) (call : SwapCall) : TransactionBuilder :=
  { new route.wallet with
    toAddress := some route.router
    data := call.input.abiEncode
    gasLimit := some 500000
    priority := "high" }

/-- The builder of an approval, and of the reset before it. -/
def ofApproval (wallet token spender : Address) (amount : U256) : TransactionBuilder :=
  { new wallet with
    toAddress := some token
    data := Contracts.approve.encodeCall { spender, amount }
    gasLimit := some 100000 }

end TransactionBuilder

end ArbEngine
