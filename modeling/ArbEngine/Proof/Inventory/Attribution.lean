import ArbEngine.Inventory.Predictive

/-!
# Which token a swap is attributed to

A parsed swap that names no token stands for ether on that side, and the rebalancer reads it as
WETH. Only one function takes ether and only one pays it out, but the path of a call may be
empty, and then it names no token either (`missingMeansEth_iff`).
-/

namespace ArbEngine

/-- What a call trades: ether itself, or a token. -/
inductive TradedAsset where
  | ether
  | token (address : Address)
deriving DecidableEq, Repr

namespace RouterCall

/-- The path of the call, if it takes one. -/
def path : RouterCall → Option (List Address)
  | .swapExactTokensForTokens _ _ path _ => some path
  | .swapExactETHForTokens _ path _ => some path
  | .swapExactTokensForETH _ _ path _ => some path
  | .exactInputSingle .. => none
  | .exactOutputSingle .. => none

/-- What goes in: nothing, for tokens along an empty path. -/
def input : RouterCall → Option TradedAsset
  | .swapExactTokensForTokens _ _ path _ => path.head?.map .token
  | .swapExactETHForTokens .. => some .ether
  | .swapExactTokensForETH _ _ path _ => path.head?.map .token
  | .exactInputSingle tokenIn .. => some (.token tokenIn)
  | .exactOutputSingle tokenIn .. => some (.token tokenIn)

/-- What comes out. -/
def output : RouterCall → Option TradedAsset
  | .swapExactTokensForTokens _ _ path _ => path.getLast?.map .token
  | .swapExactETHForTokens _ path _ => path.getLast?.map .token
  | .swapExactTokensForETH .. => some .ether
  | .exactInputSingle _ tokenOut .. => some (.token tokenOut)
  | .exactOutputSingle _ tokenOut .. => some (.token tokenOut)

end RouterCall

namespace PredictiveRebalancer

/-- The address that `assets_from_swap` looks up for one side of a swap. -/
def attributed (r : PredictiveRebalancer) (side : Option Address) : Address :=
  side.getD r.wethAddress

theorem resolve_eq (r : PredictiveRebalancer) (side : Option Address) :
    r.resolve side = r.addressToToken (r.attributed side) := by
  cases side with
  | none => rfl
  | some a => rfl

end PredictiveRebalancer

namespace MempoolMonitor

/-- Ether, or the token at this address. -/
def IsEthOr (weth : Address) (traded : Option TradedAsset) : Prop :=
  traded = some .ether ∨ traded = some (.token weth)

/-- **A missing token means ether**: only the function that takes (pays) ether leaves the input
    (output) out, and no rebalancer attributes anything else to WETH. -/
structure MissingMeansEth (call : RouterCall) (swap : ParsedSwap) : Prop where
  noInput : swap.tokenIn = none → swap.method = "swapExactETHForTokens"
  noOutput : swap.tokenOut = none → swap.method = "swapExactTokensForETH"
  input : ∀ r : PredictiveRebalancer, r.attributed swap.tokenIn = r.wethAddress →
    IsEthOr r.wethAddress call.input
  output : ∀ r : PredictiveRebalancer, r.attributed swap.tokenOut = r.wethAddress →
    IsEthOr r.wethAddress call.output

variable {abi : RouterAbi} {tx : PendingTransaction} {router : Address} {call : RouterCall}
  {path : List Address}

theorem isEthOr_named {r : PredictiveRebalancer} {address : Address}
    (same : r.attributed (some address) = r.wethAddress) :
    IsEthOr r.wethAddress (some (.token address)) :=
  .inr (congrArg (fun a => some (TradedAsset.token a)) same)

theorem isEthOr_token {r : PredictiveRebalancer} {side : Option Address}
    (same : r.attributed side = r.wethAddress) (named : side ≠ none) :
    IsEthOr r.wethAddress (side.map .token) := by
  cases side with
  | none => exact absurd rfl named
  | some a => exact isEthOr_named same

theorem head?_ne_none (h : path ≠ []) : path.head? ≠ none := by
  simp [h]

theorem getLast?_ne_none (h : path ≠ []) : path.getLast? ≠ none := by
  simp [h]

/-- A path that names a token names both of them. -/
theorem missingMeansEth_of_path (h : call.path ≠ some []) :
    MissingMeansEth call (parseCall tx router call) := by
  cases call with
  | swapExactTokensForTokens amountIn amountOutMin path deadline =>
    have named : path ≠ [] := fun empty => h (congrArg some empty)
    exact
      { noInput := fun none => absurd none (head?_ne_none named)
        noOutput := fun none => absurd none (getLast?_ne_none named)
        input := fun _ same => isEthOr_token same (head?_ne_none named)
        output := fun _ same => isEthOr_token same (getLast?_ne_none named) }
  | swapExactETHForTokens amountOutMin path deadline =>
    have named : path ≠ [] := fun empty => h (congrArg some empty)
    exact
      { noInput := fun _ => rfl
        noOutput := fun none => absurd none (getLast?_ne_none named)
        input := fun _ _ => .inl rfl
        output := fun _ same => isEthOr_token same (getLast?_ne_none named) }
  | swapExactTokensForETH amountIn amountOutMin path deadline =>
    have named : path ≠ [] := fun empty => h (congrArg some empty)
    exact
      { noInput := fun none => absurd none (head?_ne_none named)
        noOutput := fun _ => rfl
        input := fun _ same => isEthOr_token same (head?_ne_none named)
        output := fun _ _ => .inl rfl }
  | exactInputSingle tokenIn tokenOut deadline amountIn amountOutMinimum =>
    exact
      { noInput := fun none => nomatch none
        noOutput := fun none => nomatch none
        input := fun _ same => isEthOr_named same
        output := fun _ same => isEthOr_named same }
  | exactOutputSingle tokenIn tokenOut deadline amountOut amountInMaximum =>
    exact
      { noInput := fun none => nomatch none
        noOutput := fun none => nomatch none
        input := fun _ same => isEthOr_named same
        output := fun _ same => isEthOr_named same }

/-- An empty path names neither. -/
theorem not_missingMeansEth_of_empty (h : call.path = some []) :
    ¬ MissingMeansEth call (parseCall tx router call) := by
  intro eth
  cases call with
  | swapExactTokensForTokens amountIn amountOutMin path deadline =>
    obtain rfl : path = [] := Option.some.inj h
    exact absurd (eth.noInput rfl) (by simp [parseCall])
  | swapExactETHForTokens amountOutMin path deadline =>
    obtain rfl : path = [] := Option.some.inj h
    exact absurd (eth.noOutput rfl) (by simp [parseCall])
  | swapExactTokensForETH amountIn amountOutMin path deadline =>
    obtain rfl : path = [] := Option.some.inj h
    exact absurd (eth.noInput rfl) (by simp [parseCall])
  | exactInputSingle tokenIn tokenOut deadline amountIn amountOutMinimum => cases h
  | exactOutputSingle tokenIn tokenOut deadline amountOut amountInMaximum => cases h

theorem parseInput_eq_some (abi : RouterAbi) (tx : Transaction) (swap : ParsedSwap) :
    parseInput abi tx = some swap ↔ ∃ router call, tx.toAddress = some router ∧
      decodeCall abi tx.input = some call ∧ parseCall (pending abi tx) router call = swap := by
  unfold parseInput parseTransaction
  simp [pending, Option.bind_eq_some_iff]

/-- **When a missing token means ether**: the transaction has no recipient, or its calldata does
    not decode to a call with an empty path. -/
theorem missingMeansEth_iff (abi : RouterAbi) (tx : Transaction) :
    (∀ swap, parseInput abi tx = some swap → ∀ call, decodeCall abi tx.input = some call →
        MissingMeansEth call swap) ↔
      tx.toAddress = none ∨
        ∀ call, decodeCall abi tx.input = some call → call.path ≠ some [] := by
  constructor
  · intro eth
    by_cases nobody : tx.toAddress = none
    · exact .inl nobody
    · obtain ⟨router, hrouter⟩ := Option.ne_none_iff_exists'.mp nobody
      refine .inr fun call hcall empty => ?_
      have parsed := (parseInput_eq_some abi tx _).mpr ⟨router, call, hrouter, hcall, rfl⟩
      exact not_missingMeansEth_of_empty empty (eth _ parsed call hcall)
  · intro named swap hswap call hcall
    obtain ⟨router, call', hrouter, hcall', rfl⟩ := (parseInput_eq_some abi tx swap).mp hswap
    obtain rfl : call = call' := Option.some.inj (hcall.symm.trans hcall')
    rcases named with nobody | named
    · rw [nobody] at hrouter
      cases hrouter
    · exact missingMeansEth_of_path (named call hcall)

/-- A swap of one unit of tokens along a path without a token. -/
def emptyPathInput : List UInt8 :=
  [0x38, 0xed, 0x17, 0x39] ++ (List.replicate 31 0 ++ [1]) ++ List.replicate 32 0 ++
    (List.replicate 31 0 ++ [0xa0]) ++ List.replicate 32 0 ++ List.replicate 32 0 ++
    List.replicate 32 0

/-- The selectors of the five functions; the one input that is decoded is `emptyPathInput`. -/
def emptyPathAbi : RouterAbi where
  swapExactTokensForTokensCall :=
    { selector := [0x38, 0xed, 0x17, 0x39]
      abiDecode := fun input => if input = emptyPathInput then some (1, 0, [], 0) else none }
  swapExactETHForTokensCall := { selector := [0x7f, 0xf3, 0x6a, 0xb5], abiDecode := fun _ => none }
  swapExactTokensForETHCall := { selector := [0x18, 0xcb, 0xaf, 0xe5], abiDecode := fun _ => none }
  exactInputSingleCall := { selector := [0x41, 0x4b, 0xf3, 0x89], abiDecode := fun _ => none }
  exactOutputSingleCall := { selector := [0xdb, 0x3e, 0x21, 0x98], abiDecode := fun _ => none }

def emptyPathTransaction : Transaction where
  hash := 0
  sender := 0
  toAddress := some 0
  value := 0
  gasPrice := some 1
  input := emptyPathInput

/-- The input of a swap of tokens for tokens is taken for ether. -/
theorem emptyPath_not_eth :
    ¬ ∀ abi tx swap, parseInput abi tx = some swap →
        ∀ call, decodeCall abi tx.input = some call → MissingMeansEth call swap := by
  intro eth
  have read : emptyPathAbi.swapExactTokensForTokensCall.read emptyPathInput =
      some (1, 0, [], 0) := by
    have named : emptyPathInput.take 4 = emptyPathAbi.swapExactTokensForTokensCall.selector := rfl
    rw [SolCall.read, if_pos named]
    simp only [emptyPathAbi, if_true]
  have decoded : decodeCall emptyPathAbi emptyPathTransaction.input =
      some (.swapExactTokensForTokens 1 0 [] 0) := by
    have long : ¬ emptyPathInput.length < 4 := by
      simp only [emptyPathInput, List.length_append, List.length_replicate, List.length_cons]
      omega
    show decodeCall emptyPathAbi emptyPathInput = _
    rw [decodeCall, if_neg long, read]
    rfl
  have parsed := (parseInput_eq_some emptyPathAbi emptyPathTransaction _).mpr
    ⟨0, _, rfl, decoded, rfl⟩
  exact not_missingMeansEth_of_empty rfl (eth _ _ _ parsed _ decoded)

end MempoolMonitor
end ArbEngine
