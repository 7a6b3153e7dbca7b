import ArbEngine.Executor.Calldata
import ArbEngine.Proof.Chain.SentBytes
import ArbEngine.Proof.Executor.Proceeds
import ArbEngine.Proof.Inventory.Attribution

/-!
# The monitor sees what the executor sends

The executor writes the calldata of a swap and the monitor reads calldata out of the mempool, each
with functions of its own. A call of any of the five functions is read as it was made
(`decodeCall_abiEncode`), and calldata with another selector as none (`decodeCall_of_selector`), so
of what the wallet signs for a leg the monitor reports the swap, with the amounts the leg has
worked out, and no approval: `leg_seen_in_mempool`.

Both sides are in the repository, but they never meet there: the executor encodes with the
interfaces of `contracts.rs`, and the monitor decodes with a second list of interfaces in
`mempool.rs`. That the two lists agree, function by function, is what the theorem rests on, and
selectors that were computed differently would make its proof fail.
-/

namespace ArbEngine

/-! ## The five functions -/

namespace SolCall

variable {Args Results View : Type} {f : Abi.Function Args Results} {view : Args → View}
  {args : Args} {input : List UInt8}

/-- A function is not found in calldata that begins otherwise. -/
theorem read_of_ne {c : SolCall View} (h : input.take 4 ≠ c.selector) : c.read input = none :=
  if_neg h

/-- A call of a function is read by this function with the arguments it was made with, seen as the
    monitor wants to see them. -/
theorem read_encodeCall (short : (f.encodeCall args).length < 2 ^ 256) :
    (SolCall.ofFunction f view).read (f.encodeCall args) = some (view args) := by
  have decoded : (SolCall.ofFunction f view).abiDecode (f.encodeCall args) = some (view args) :=
    congrArg (Option.map view) (Abi.Function.decodeCall_encodeCall short)
  rw [read, decoded]
  exact if_pos Abi.Function.take_encodeCall

end SolCall

namespace RouterInput

/-- The selector of the function that is called. -/
def selector : RouterInput → List UInt8
  | .swapExactTokensForTokens _ => Contracts.swapExactTokensForTokens.selector
  | .swapExactETHForTokens _ => Contracts.swapExactETHForTokens.selector
  | .swapExactTokensForETH _ => Contracts.swapExactTokensForETH.selector
  | .exactInputSingle _ => Contracts.exactInputSingle.selector
  | .exactOutputSingle _ => Contracts.exactOutputSingle.selector

/-- Every call begins with the selector of its function. -/
theorem take_abiEncode (c : RouterInput) : c.abiEncode.take 4 = c.selector := by
  cases c <;> exact Abi.Function.take_encodeCall

/-- A call has a selector, so the monitor does not turn it away as too short. -/
theorem not_length_lt (c : RouterInput) : ¬ c.abiEncode.length < 4 := by
  have four : (c.abiEncode.take 4).length = 4 := by
    rw [take_abiEncode]
    cases c <;> rfl
  rw [List.length_take] at four
  omega

end RouterInput

namespace MempoolMonitor

/-- The selectors of the functions, in the order in which they are tried. -/
def routerSelectors : List (List UInt8) :=
  [routerAbi.swapExactTokensForTokensCall.selector, routerAbi.swapExactETHForTokensCall.selector,
    routerAbi.swapExactTokensForETHCall.selector, routerAbi.exactInputSingleCall.selector,
    routerAbi.exactOutputSingleCall.selector]

/-- No two of the functions share a selector. So the order in which the monitor tries them does not
    matter. -/
theorem routerSelectors_nodup : routerSelectors.Nodup := by decide

/-- **Calldata with another selector is no swap.** None of the five functions is found in it, and
    so the monitor reports nothing. -/
theorem decodeCall_of_selector {input : List UInt8} (other : input.take 4 ∉ routerSelectors) :
    decodeCall routerAbi input = none := by
  unfold routerSelectors at other
  simp only [List.mem_cons, List.not_mem_nil, or_false, not_or] at other
  obtain ⟨h1, h2, h3, h4, h5⟩ := other
  unfold decodeCall
  rw [SolCall.read_of_ne h1, SolCall.read_of_ne h2, SolCall.read_of_ne h3, SolCall.read_of_ne h4,
    SolCall.read_of_ne h5]
  exact ite_self _

/-- A function that is tried before the one of the call. -/
theorem read_of_selector {View : Type} {f : SolCall View} (c : RouterInput)
    (other : c.selector ≠ f.selector) : f.read c.abiEncode = none :=
  SolCall.read_of_ne (ne_of_eq_of_ne c.take_abiEncode other)

/-- **A call of one of the five functions is read as it was made.** The monitor tries them one
    after the other; the ones before fail on the selector, and the right one gives the arguments
    back. -/
theorem decodeCall_abiEncode (c : RouterInput) (short : c.abiEncode.length < 2 ^ 256) :
    decodeCall routerAbi c.abiEncode = some c.call := by
  have distinct := routerSelectors_nodup
  simp only [routerSelectors, List.nodup_cons, List.mem_cons, List.not_mem_nil, or_false,
    not_or] at distinct
  obtain ⟨⟨h12, h13, h14, h15⟩, ⟨h23, h24, h25⟩, ⟨h34, h35⟩, h45, -⟩ := distinct
  unfold decodeCall
  rw [if_neg c.not_length_lt]
  -- The functions that are tried before the one of the call have other selectors.
  cases c with
  | swapExactTokensForTokens args =>
    have here : routerAbi.swapExactTokensForTokensCall.read _ = _ := SolCall.read_encodeCall short
    rw [RouterInput.abiEncode, here]
    rfl
  | swapExactETHForTokens args =>
    have here : routerAbi.swapExactETHForTokensCall.read _ = _ := SolCall.read_encodeCall short
    rw [read_of_selector _ (Ne.symm h12), RouterInput.abiEncode, here]
    rfl
  | swapExactTokensForETH args =>
    have here : routerAbi.swapExactTokensForETHCall.read _ = _ := SolCall.read_encodeCall short
    rw [read_of_selector _ (Ne.symm h13), read_of_selector _ (Ne.symm h23), RouterInput.abiEncode,
      here]
    rfl
  | exactInputSingle params =>
    have here : routerAbi.exactInputSingleCall.read _ = _ := SolCall.read_encodeCall short
    rw [read_of_selector _ (Ne.symm h14), read_of_selector _ (Ne.symm h24),
      read_of_selector _ (Ne.symm h34), RouterInput.abiEncode, here]
    rfl
  | exactOutputSingle params =>
    have here : routerAbi.exactOutputSingleCall.read _ = _ := SolCall.read_encodeCall short
    rw [read_of_selector _ (Ne.symm h15), read_of_selector _ (Ne.symm h25),
      read_of_selector _ (Ne.symm h35), read_of_selector _ (Ne.symm h45), RouterInput.abiEncode,
      here]
    rfl

/-- A pending transaction is read by its calldata. The rest of it only goes into the report. -/
theorem parseInput_pending {tx : TxEip1559} {hash : B256} {sender : Address} :
    parseInput routerAbi (tx.pending hash sender) =
      (decodeCall routerAbi tx.input).map
        (parseCall (MempoolMonitor.pending routerAbi (tx.pending hash sender)) tx.toAddress) := by
  unfold parseInput parseTransaction
  show (decodeCall routerAbi tx.input).bind _ = _
  cases decodeCall routerAbi tx.input <;> rfl

end MempoolMonitor

/-! ## The swap of a leg -/

namespace DexVenue

variable {m : TickMath} {v : DexVenue} {config : ExecutorConfig} {fuel : ℕ} {env : DexEnv}
  {signal : Signal} {size : ℚ} {leg : LegResult} {call : SwapCall} {route : SwapRoute}
  {now : ℕ} {amount least : U256}

/-- The swap of a leg that has come as far as that. Before it, the leg may find no route, no price
    for the least it accepts, or no call, and then nothing is submitted. -/
theorem swapCall_of_executeDexLeg
    (h : executeDexLeg m v config fuel env signal size = some (.ok (leg, some call))) :
    ∃ route least, v.route config signal = .ok route ∧
      amountOutMin m config fuel route (amountIn route signal size) = some (.ok least) ∧
      swapCall route env.now (amountIn route signal size) least = .ok call := by
  unfold executeDexLeg at h
  split at h
  · cases h
  · -- the steps of the leg one after the other; each that fails ends it without a call
    cases hroute : v.route config signal with
    | error msg =>
      rw [hroute] at h
      cases h
    | ok route =>
      rw [hroute] at h
      obtain ⟨least, hleast, h⟩ := Option.map_eq_some_iff.mp h
      obtain ⟨least, rfl, h⟩ := Outcome.bind_eq_ok.mp h
      rw [Outcome.ok_bind] at h
      split at h
      · cases h
      · obtain ⟨call', hcall, h⟩ := Outcome.bind_eq_ok.mp h
        cases h
        exact ⟨route, least, rfl, hleast, hcall⟩

theorem isV3_of_not {pool : Option Pool} (h : ∀ p, pool = some (.v3 p) → False) :
    isV3 pool = false := by
  unfold isV3
  split
  · rename_i p
    exact absurd rfl (h p)
  · rfl

/-- The two calls of a swap: a pool of Uniswap V3 has a fee to name, and every other route goes
    through the router of V2 with a path of two tokens. -/
theorem swapCall_cases (h : swapCall route now amount least = .ok call) :
    (isV3 route.pool = true ∧ ∃ fee, call = .exactInputSingle route.tokenIn route.tokenOut fee
      route.wallet (now + 300) amount least 0#256) ∨
    (isV3 route.pool = false ∧ call = .swapExactTokensForTokens amount least
      [route.tokenIn, route.tokenOut] route.wallet (now + 300)) := by
  unfold swapCall at h
  split at h
  · rename_i v3
    obtain ⟨_, -, h⟩ := Outcome.bind_eq_ok.mp h
    refine .inl ⟨?_, _, (Outcome.ok.inj h).symm⟩
    rw [v3]
    rfl
  · rename_i other
    exact .inr ⟨isV3_of_not other, (Outcome.ok.inj h).symm⟩

/-- A swap is a few words, so its length fits where the encoding writes it. -/
theorem length_swapCall (h : swapCall route now amount least = .ok call) :
    call.input.abiEncode.length < 2 ^ 256 := by
  rcases swapCall_cases h with ⟨-, fee, rfl⟩ | ⟨-, rfl⟩
  · show (Contracts.exactInputSingle.selector ++ Abi.encode _).length < _
    rw [List.length_append, Abi.length_encode]
    simp [Contracts.exactInputSingle, Contracts.exactSingleParams, Abi.tail]
  · show (Contracts.swapExactTokensForTokens.selector ++ Abi.encode _).length < _
    rw [List.length_append, Abi.length_encode]
    simp [Contracts.swapExactTokensForTokens, Contracts.swapExactTokensArgs, Abi.tail]

/-- What the monitor is to report of a swap. The deadline is five minutes after the leg's clock,
    and the gas price is that of a legacy transaction, which this is not. -/
def seenSwap (hash : B256) (sender : Address) (route : SwapRoute) (now : ℕ)
    (amount least : U256) : ParsedSwap where
  txHash := hash
  router := route.router
  dex := if isV3 route.pool then "UniswapV3" else "UniswapV2"
  method := if isV3 route.pool then "exactInputSingle" else "swapExactTokensForTokens"
  tokenIn := some route.tokenIn
  tokenOut := some route.tokenOut
  amountIn := amount
  minAmountOut := least
  deadline := BitVec.ofNat 256 (now + 300)
  sender
  gasPrice := none

/-- And that is what it reports of the call of a leg, for both kinds of pools. -/
theorem parseCall_swapCall {tx : TxEip1559} {hash : B256} {sender : Address}
    (h : swapCall route now amount least = .ok call) :
    MempoolMonitor.parseCall (MempoolMonitor.pending routerAbi (tx.pending hash sender))
      route.router call.input.call = seenSwap hash sender route now amount least := by
  rcases swapCall_cases h with ⟨v3, fee, rfl⟩ | ⟨v2, rfl⟩
  · unfold seenSwap
    rw [v3]
    rfl
  · unfold seenSwap
    rw [v2]
    rfl

/-- **Of the transactions the wallet signs for a leg, the monitor reports the swap**: with its
    router and tokens, what the leg pays in and the least it accepts. An approval is no swap. -/
theorem leg_seen_in_mempool {Signature : Type} (signer : Signer Signature)
    (read : List UInt8 → Option (Address × TxEip1559)) (faithful : signer.ReadBy read)
    (m : TickMath) (v : DexVenue) (config : ExecutorConfig) (fuel : ℕ) (env : DexEnv)
    (signal : Signal) (size : ℚ) (leg : LegResult) (call : SwapCall)
    (submitted : executeDexLeg m v config fuel env signal size = some (.ok (leg, some call))) :
    ∃ route least, v.route config signal = .ok route ∧
      amountOutMin m config fuel route (amountIn route signal size) = some (.ok least) ∧
      (∀ chain signedTx,
        (TransactionBuilder.ofSwap route call).buildAndSign signer chain = .ok (.ok signedTx) →
        ∃ tx, read signedTx = some (signer.address, tx) ∧ ∀ hash,
          MempoolMonitor.parseInput routerAbi (tx.pending hash signer.address) =
            some (seenSwap hash signer.address route env.now (amountIn route signal size)
              least)) ∧
      ∀ amount chain signedTx,
        (TransactionBuilder.ofApproval route.wallet route.tokenIn route.router
          amount).buildAndSign signer chain = .ok (.ok signedTx) →
        ∃ tx, read signedTx = some (signer.address, tx) ∧ ∀ hash,
          MempoolMonitor.parseInput routerAbi (tx.pending hash signer.address) = none := by
  obtain ⟨route, least, routed, bounded, swap⟩ := swapCall_of_executeDexLeg submitted
  refine ⟨route, least, routed, bounded, ?_, ?_⟩
  · -- the swap: what is signed is what was built, and its calldata is that of the call
    intro chain signedTx signed
    obtain ⟨built, hbuild, hread⟩ := TransactionBuilder.read_of_buildAndSign faithful signed
    have asked := TransactionBuilder.asked_of_build hbuild
    have target : route.router = built.toEip1559.toAddress := Option.some.inj asked.target
    refine ⟨built.toEip1559, hread, fun hash => ?_⟩
    rw [MempoolMonitor.parseInput_pending, asked.data, ← target]
    show Option.map _ (MempoolMonitor.decodeCall routerAbi call.input.abiEncode) = _
    rw [MempoolMonitor.decodeCall_abiEncode _ (length_swapCall swap), Option.map_some,
      parseCall_swapCall swap]
  · intro amount chain signedTx signed
    obtain ⟨built, hbuild, hread⟩ := TransactionBuilder.read_of_buildAndSign faithful signed
    have asked := TransactionBuilder.asked_of_build hbuild
    refine ⟨built.toEip1559, hread, fun hash => ?_⟩
    -- The selector of `approve` is none of the five.
    have other : built.toEip1559.input.take 4 ∉ MempoolMonitor.routerSelectors := by
      rw [asked.data]
      show (Contracts.approve.encodeCall _).take 4 ∉ _
      rw [Abi.Function.take_encodeCall]
      decide
    rw [MempoolMonitor.parseInput_pending, MempoolMonitor.decodeCall_of_selector other]
    rfl

/-! ## One ether sold at 2020 -/

/-- The transaction of the sample swap. -/
def sampleSwapTx : TxEip1559 where
  chainId := 42161
  nonce := 7
  maxPriorityFeePerGas := 2000000000
  maxFeePerGas := 5120000000
  gasLimit := 500000
  toAddress := 0x7#160
  value := 0
  input := (sampleSwap 1911337395#256).input.abiEncode

/-- Signs this transaction only. -/
def sampleSwapSigner : Signer Unit where
  address := 0x5#160
  signatureHash := fun tx => if tx = sampleSwapTx then 1 else 0
  signHashSync := fun hash => if hash = 1 then .ok () else .error "refused"
  encode2718 := fun _ _ => [2, 1]

def readSampleSwap (bytes : List UInt8) : Option (Address × TxEip1559) :=
  if bytes = [2, 1] then some (0x5#160, sampleSwapTx) else none

/-- What it has signed is read back, since it has signed nothing else. -/
theorem sampleSwapSigner_read : sampleSwapSigner.ReadBy readSampleSwap := by
  intro tx signature signed
  change (if (if tx = sampleSwapTx then (1 : B256) else 0) = 1 then Except.ok ()
    else Except.error "refused") = .ok signature at signed
  by_cases same : tx = sampleSwapTx
  · rw [same]
    rfl
  · rw [if_neg same] at signed
    cases signed

/-- The leg sells one ether into a pool at 2020 and accepts five percent less than the pool offers.
    -/
theorem sampleDexVenue_swap :
    executeDexLeg UniswapV3Pool.stepMath (sampleDexVenue 2020000000000#256) sampleDexConfig 0
      sampleDexEnv (sampleSignal .buyCexSellDex) 1 =
      some (.ok (filledLeg (sampleSignal .buyCexSellDex) 1 "0xabc",
        some (sampleSwap 1911337395#256))) := by
  have quoted : (UniswapV2Pair.samplePair 1000000000000000000000#256
      2020000000000#256).getAmountOut 1000000000000000000#256
      (UniswapV2Pair.samplePair 1000000000000000000000#256 2020000000000#256).token0 =
      .ok 2011934101#256 := Outcome.toOption_eq_some.mp (by decide +kernel)
  have least : lessTolerance 2011934101#256 500 = 1911337395#256 := by decide +kernel
  rw [sampleDexVenue_leg quoted, least]

/-- The sample swap as it is pending. -/
theorem sample_leg_is_seen :
    ∃ tx, readSampleSwap [2, 1] = some (0x5#160, tx) ∧ ∀ hash,
      MempoolMonitor.parseInput routerAbi (tx.pending hash 0x5#160) =
        some (seenSwap hash 0x5#160 (sampleRoute 2020000000000#256) 0 1000000000000000000#256
          1911337395#256) := by
  obtain ⟨route, least, routed, bounded, seen, -⟩ := leg_seen_in_mempool sampleSwapSigner
    readSampleSwap sampleSwapSigner_read _ _ _ _ _ _ _ _ _ sampleDexVenue_swap
  obtain ⟨route', least', routed', bounded', here, -⟩ :=
    executeDexLeg_submitted sampleDexVenue_swap
  obtain rfl := Except.ok.inj (routed.symm.trans routed')
  obtain rfl := Except.ok.inj (routed.symm.trans (sampleDexVenue_route _))
  obtain rfl : least = least' := Outcome.ok.inj (Option.some.inj (bounded.symm.trans bounded'))
  obtain rfl : 1911337395#256 = least := here
  rw [sampleRoute_amountIn] at seen
  exact seen TransactionBuilder.transferChain [2, 1] (by decide +kernel)

end DexVenue
end ArbEngine
