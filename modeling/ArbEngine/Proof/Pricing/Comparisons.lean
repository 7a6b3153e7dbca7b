import ArbEngine.Proof.Pricing.PriceLaw
import ArbEngine.Proof.Pricing.Scans
import ArbEngine.Proof.Pricing.V2Solidity

/-!
# What a comparison of a pair measures

The calculation works on the reserves the engine has read, the simulation on those of the factory
now. With the fee of the contract both are the same function of the reserves, so what
`compare_simulation_vs_calculation` measures is how far the reserves have moved
(`comparison_measures`).
-/

namespace ArbEngine
namespace ForkNode

variable {node : ForkNode} {router sender : Address} {f : V2Factory} {m : TickMath} {fuel : ℕ}
  {debug : Option String → String} {pair : UniswapV2Pair} {tokenIn : Token} {amountIn : U256}
  {result : ComparisonResult} {simResult : SimulationResult}

/-- **A simulated swap through one pair pays what the factory's pair pays.** -/
theorem simulatePoolSwap_success (routes : node.Routes router f)
    (h : node.simulatePoolSwap (.v2 pair) router amountIn tokenIn sender = .ok simResult)
    (success : simResult.success = true) :
    ∃ reserveIn reserveOut,
      f.reserves tokenIn.address (pair.otherToken tokenIn).address =
        some (reserveIn, reserveOut) ∧
      0 < reserveIn ∧ 0 < reserveOut ∧
      simResult.amountOut.toNat =
        UniswapV2Pair.libraryAmountOut amountIn.toNat reserveIn reserveOut := by
  let path := [tokenIn.address, (pair.otherToken tokenIn).address]
  have short : path.length < 2 ^ 128 := by
    show 2 < 2 ^ 128
    norm_num
  unfold simulatePoolSwap at h
  obtain ⟨tx, htx, h⟩ := Outcome.bind_eq_ok.mp h
  obtain rfl : v2Call router amountIn path sender = tx := Outcome.ok.inj htx
  cases estimated : node.estimateGas (v2Call router amountIn path sender) with
  | error e =>
    rw [estimated] at h
    obtain rfl := Outcome.ok.inj h
    cases success
  | ok gasUsed =>
    rw [estimated] at h
    dsimp only at h
    cases called : node.call (v2Call router amountIn path sender) with
    | error e =>
      rw [called] at h
      obtain rfl := Outcome.ok.inj h
      cases success
    | ok resultBytes =>
      obtain ⟨amounts, decoded, computed⟩ := decode_call routes short called
      rw [called] at h
      dsimp only at h
      unfold decodePool at h
      rw [decoded] at h
      obtain rfl := Outcome.ok.inj h
      obtain ⟨reserveIn, reserveOut, rest, reserves, hin, hout, last, hrest⟩ :=
        V2Factory.amountsOut_cons computed
      refine ⟨reserveIn, reserveOut, reserves, hin, hout, ?_⟩
      obtain rfl := Option.some.inj last
      obtain ⟨_, rest, rfl, -, hrest⟩ := List.map_eq_cons_iff.mp hrest
      obtain ⟨amountOut, rest, rfl, value, hnil⟩ := List.map_eq_cons_iff.mp hrest
      obtain rfl := List.map_eq_nil_iff.mp hnil
      exact value

/-- **A comparison measures how far the reserves have moved**: the calculation is the quote of the
    pair, the simulation the same function of the factory's reserves, and the two match where the
    reserves do. -/
theorem comparison_measures (routes : node.Routes router f) (fee : pair.feeBps = 30#32)
    (compared : node.compareSimulationVsCalculation m fuel debug (.v2 pair) router amountIn tokenIn
      sender = .ended (.ok result)) :
    ∃ nowIn nowOut,
      f.reserves tokenIn.address (pair.otherToken tokenIn).address = some (nowIn, nowOut) ∧
      pair.getAmountOut amountIn tokenIn = .ok result.calculated ∧
      result.simulated.toNat = UniswapV2Pair.libraryAmountOut amountIn.toNat nowIn nowOut ∧
      result.difference.toNat = (result.calculated.toNat - result.simulated.toNat) +
        (result.simulated.toNat - result.calculated.toNat) ∧
      (result.isMatch = true ↔ result.calculated = result.simulated) ∧
      ((pair.reserveIn tokenIn).toNat = nowIn → (pair.reserveOut tokenIn).toNat = nowOut →
        result.isMatch = true ∧ result.difference = 0) := by
  unfold compareSimulationVsCalculation at compared
  obtain ⟨calculated, hcalculated, compared⟩ := Fueled.bind_eq_ok.mp compared
  obtain ⟨simResult, hsim, compared⟩ := Fueled.bind_eq_ok.mp compared
  have quoted : pair.getAmountOut amountIn tokenIn = .ok calculated :=
    Fueled.ended_eq_ok.mp hcalculated
  cases success : simResult.success with
  | false =>
    rw [success] at compared
    cases compared
  | true =>
    rw [if_pos success] at compared
    obtain rfl := Fueled.pure_eq_ok.mp compared
    obtain ⟨nowIn, nowOut, reserves, hin, -, simulated⟩ :=
      simulatePoolSwap_success routes (Fueled.ended_eq_ok.mp hsim) success
    refine ⟨nowIn, nowOut, reserves, quoted, simulated, ?_, decide_eq_true_iff, ?_⟩
    · exact toNat_difference simResult.amountOut calculated
    · intro sameIn sameOut
      -- 9970 of ten thousand and 997 of a thousand are the same fee.
      have kept : pair.keptBps = 9970 := by
        rw [UniswapV2Pair.keptBps, fee]
        rfl
      have value := UniswapV2Pair.getAmountOut_quote (UniswapV2Pair.getReservesOrdered_eq quoted)
        (sameIn ▸ hin) quoted
      rw [kept, UniswapV2Pair.quote_thirty_bps, sameIn, sameOut, ← simulated] at value
      have same : calculated = simResult.amountOut := BitVec.eq_of_toNat_eq value
      refine ⟨decide_eq_true same, ?_⟩
      show (if simResult.amountOut < calculated then calculated - simResult.amountOut
        else simResult.amountOut - calculated) = 0
      rw [same, ite_self, BitVec.sub_self]
      rfl

/-- A pair that was read before the price doubled. -/
def samplePairBefore : UniswapV2Pair where
  address := 0xab#160
  token0 := PricingEngine.sampleToken 0x1#160 "WETH"
  token1 := PricingEngine.sampleToken 0x2#160 "USDC"
  reserve0 := 1000000#256
  reserve1 := 1000000#256
  feeBps := 30#32

/-- The comparison finds the half that is missing. -/
theorem samplePairBefore_compared :
    ∃ result, (V2Factory.ofPairs PricingEngine.samplePairs).fork.compareSimulationVsCalculation
        UniswapV3Pool.stepMath 0 (fun _ => "None") (.v2 samplePairBefore) 0x7a#160 1000#256
        samplePairBefore.token0 0xee#160 = .ended (.ok result) ∧
      result.simulated.toNat = UniswapV2Pair.libraryAmountOut 1000 1000000 2000000 ∧
      result.difference = 996#256 := by
  have compared : (V2Factory.ofPairs PricingEngine.samplePairs).fork.compareSimulationVsCalculation
      UniswapV3Pool.stepMath 0 (fun _ => "None") (.v2 samplePairBefore) 0x7a#160 1000#256
      samplePairBefore.token0 0xee#160 = .ended (.ok {
        calculated := 996#256, simulated := 1992#256, difference := 996#256
        isMatch := false }) := by
    decide +kernel
  obtain ⟨nowIn, nowOut, reserves, -, simulated, -⟩ :=
    comparison_measures (V2Factory.fork_routes _ _) rfl compared
  have current : (V2Factory.ofPairs PricingEngine.samplePairs).reserves 0x1#160 0x2#160 =
      some (1000000, 2000000) := by
    decide +kernel
  obtain ⟨rfl, rfl⟩ := Prod.mk.inj (Option.some.inj (reserves.symm.trans current))
  exact ⟨_, compared, simulated, rfl⟩

end ForkNode
end ArbEngine
