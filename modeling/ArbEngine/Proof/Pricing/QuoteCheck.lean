import ArbEngine.Pricing.Engine
import ArbEngine.Proof.Pricing.V3Loop

/-!
# What a quote is checked against

A quote expects what the ranking of the routes says of its route, and that is the output of the
route less the gas in the token that comes out. The simulator reports the output. So a simulation
that is right to the last unit differs from what is expected by the gas, and whether the quote is
valid is a matter of how much that is (`quote_valid_iff`).
-/

namespace ArbEngine

/-- The difference of two words, whichever is larger. -/
theorem toNat_difference (a b : U256) :
    (if a < b then b - a else a - b).toNat = (b.toNat - a.toNat) + (a.toNat - b.toNat) := by
  split
  · rename_i less
    rw [BitVec.lt_def] at less
    rw [BitVec.toNat_sub_of_le (BitVec.le_def.mpr less.le)]
    omega
  · rename_i notLess
    rw [BitVec.lt_def, not_lt] at notLess
    rw [BitVec.toNat_sub_of_le (BitVec.le_def.mpr notLess)]
    omega

/-- A quote is valid where its two outputs differ by less than a thousandth of the expected one. An
    expected output of zero is never valid. -/
theorem Quote.isValid_iff (q : Quote) :
    q.isValid = true ↔
      1000 * ((q.expectedOutput.toNat - q.simulatedOutput.toNat) +
        (q.simulatedOutput.toNat - q.expectedOutput.toNat)) < q.expectedOutput.toNat := by
  obtain ⟨diff, hdiff, value⟩ : ∃ diff : U256,
      (if q.simulatedOutput < q.expectedOutput then q.expectedOutput - q.simulatedOutput
        else q.simulatedOutput - q.expectedOutput) = diff ∧
      diff.toNat = (q.expectedOutput.toNat - q.simulatedOutput.toNat) +
        (q.simulatedOutput.toNat - q.expectedOutput.toNat) :=
    ⟨_, rfl, toNat_difference _ _⟩
  have bound : q.expectedOutput.toNat < 2 ^ 256 := q.expectedOutput.isLt
  unfold isValid
  simp only [hdiff]
  rw [← value]
  cases scaled : Word.checkedMul diff 1000#256 with
  | some scaledDiff =>
    have product : scaledDiff.toNat = diff.toNat * 1000 := Word.checkedMul_eq_some.mp scaled
    simp only [decide_eq_true_eq, BitVec.lt_def, product]
    rw [mul_comm]
  | none =>
    -- A product that does not fit is larger than any word.
    refine iff_of_false Bool.false_ne_true ?_
    intro small
    have fits : diff.toNat * (1000#256).toNat < 2 ^ 256 := by
      show diff.toNat * 1000 < 2 ^ 256
      omega
    obtain ⟨product, hproduct, -⟩ := Word.checkedMul_of_lt fits
    rw [scaled] at hproduct
    cases hproduct

namespace RouteFinder

variable {m : TickMath} {f : RouteFinder} {fuel : ℕ} {tokenIn tokenOut : Token} {amountIn : U256}
  {gasPriceGwei : BitVec 64} {route : Route} {a : RouteAnalysis} {maxHops : ℕ}

/-- What the gas of a route costs in the token that comes out, where that can be told. Only the
    pools the engine has are asked, and without one nothing is taken off. -/
def gasCost (m : TickMath) (f : RouteFinder) (fuel : ℕ) (tokenOut : Token)
    (gasPriceGwei : BitVec 64) (route : Route) : ℕ :=
  match f.convertEthToTokenCost m fuel (gasCostEth route gasPriceGwei) tokenOut with
  | some (.ok (some cost)) => cost.toNat
  | _ => 0

/-- An analysis is of its route. -/
theorem analyse_route
    (h : f.analyse m fuel tokenOut amountIn gasPriceGwei route = .ended (.ok a)) :
    a.route = route := by
  unfold analyse at h
  obtain ⟨grossOutput, -, h⟩ := Fueled.bind_eq_ok.mp h
  obtain ⟨gasCostToken, -, h⟩ := Fueled.bind_eq_ok.mp h
  obtain rfl := Fueled.pure_eq_ok.mp h
  rfl

/-- **The ranking expects the output less the gas.** -/
theorem netOutput_of_analyse {gross : U256}
    (h : f.analyse m fuel tokenOut amountIn gasPriceGwei route = .ended (.ok a))
    (output : route.getOutput m fuel amountIn = .ended (.ok gross)) :
    a.netOutput.toNat = gross.toNat - f.gasCost m fuel tokenOut gasPriceGwei route := by
  unfold analyse at h
  obtain ⟨grossOutput, hgross, h⟩ := Fueled.bind_eq_ok.mp h
  obtain ⟨gasCostToken, hcost, h⟩ := Fueled.bind_eq_ok.mp h
  obtain rfl := Fueled.pure_eq_ok.mp h
  rw [output, Fueled.unwrapOr_ok, Fueled.ended_eq_ok] at hgross
  cases hgross
  unfold gasCost
  rw [hcost]
  cases gasCostToken with
  | some cost => exact Word.toNat_saturatingSub
  | none => rfl

/-- Every analysis in the list is one of a route. -/
theorem mem_analyseAll {routes : List Route} {analyses : List RouteAnalysis}
    (h : f.analyseAll m fuel tokenOut amountIn gasPriceGwei routes = .ended (.ok analyses))
    (ha : a ∈ analyses) :
    ∃ route ∈ routes, f.analyse m fuel tokenOut amountIn gasPriceGwei route = .ended (.ok a) := by
  induction routes generalizing analyses with
  | nil =>
    obtain rfl := Fueled.pure_eq_ok.mp h
    cases ha
  | cons route routes ih =>
    unfold analyseAll at h
    obtain ⟨analysis, hanalysis, h⟩ := Fueled.bind_eq_ok.mp h
    obtain ⟨results, hresults, h⟩ := Fueled.bind_eq_ok.mp h
    obtain rfl := Fueled.pure_eq_ok.mp h
    rcases List.mem_cons.mp ha with rfl | later
    · exact ⟨route, List.mem_cons_self .., hanalysis⟩
    · obtain ⟨other, hother, hfound⟩ := ih hresults later
      exact ⟨other, List.mem_cons_of_mem route hother, hfound⟩

/-- **Of several that are largest it is the last.** -/
theorem maxByNetOutput_eq_some {analyses : List RouteAnalysis}
    (h : maxByNetOutput analyses = some a) :
    ∃ before after, analyses = before ++ a :: after ∧
      (∀ b ∈ before, b.netOutput ≤ a.netOutput) ∧ ∀ b ∈ after, b.netOutput < a.netOutput := by
  -- What has been folded so far splits at the best of it.
  -- The comparison keeps the later of two that are equal, as `max_by` does.
  have fold : ∀ (rest before after : List RouteAnalysis) (best : RouteAnalysis),
      (∀ b ∈ before, b.netOutput ≤ best.netOutput) →
      (∀ b ∈ after, b.netOutput < best.netOutput) →
      rest.foldl (fun best a => if best.netOutput ≤ a.netOutput then a else best) best = a →
      ∃ before' after', before ++ best :: after ++ rest = before' ++ a :: after' ∧
        (∀ b ∈ before', b.netOutput ≤ a.netOutput) ∧
          ∀ b ∈ after', b.netOutput < a.netOutput := by
    intro rest
    induction rest with
    | nil =>
      rintro before after best hbefore hafter rfl
      exact ⟨before, after, List.append_nil _, hbefore, hafter⟩
    | cons next rest ih =>
      intro before after best hbefore hafter hfold
      rw [List.foldl_cons] at hfold
      split at hfold
      · rename_i larger
        have below : ∀ b ∈ before ++ best :: after, b.netOutput ≤ next.netOutput := by
          intro b hb
          rcases List.mem_append.mp hb with earlier | later
          · exact BitVec.le_trans (hbefore b earlier) larger
          · rcases List.mem_cons.mp later with rfl | later
            · exact larger
            · exact BitVec.le_trans (BitVec.le_of_lt (hafter b later)) larger
        obtain ⟨before', after', hsplit, h⟩ := ih _ [] next below (by simp) hfold
        exact ⟨before', after', by simpa using hsplit, h⟩
      · rename_i smaller
        have above : ∀ b ∈ after ++ [next], b.netOutput < best.netOutput := by
          intro b hb
          rcases List.mem_append.mp hb with earlier | last
          · exact hafter b earlier
          · rw [List.mem_singleton.mp last]
            exact BitVec.not_le.mp smaller
        obtain ⟨before', after', hsplit, h⟩ := ih before _ best hbefore above hfold
        exact ⟨before', after', by simpa using hsplit, h⟩
  cases analyses with
  | nil => cases h
  | cons first rest =>
    obtain ⟨before, after, hsplit, h⟩ := fold rest [] [] first (by simp) (by simp)
      (Option.some.inj h)
    exact ⟨before, after, by simpa using hsplit, h⟩

/-- The best is one of them. -/
theorem maxByNetOutput_mem {analyses : List RouteAnalysis}
    (h : maxByNetOutput analyses = some a) : a ∈ analyses := by
  obtain ⟨before, after, rfl, -, -⟩ := maxByNetOutput_eq_some h
  exact List.mem_append_right before List.mem_cons_self

/-- The best route with what the ranking expects of it. -/
theorem findBestRoute_eq_ok {net : U256}
    (h : f.findBestRoute m fuel tokenIn tokenOut amountIn gasPriceGwei maxHops =
      .ended (.ok (route, net))) :
    ∃ a, f.analyse m fuel tokenOut amountIn gasPriceGwei route = .ended (.ok a) ∧
      a.netOutput = net := by
  unfold findBestRoute at h
  obtain ⟨analyses, hanalyses, h⟩ := Fueled.bind_eq_ok.mp h
  obtain ⟨best, hbest, h⟩ := Fueled.bind_eq_ok.mp h
  obtain ⟨rfl, rfl⟩ := Prod.mk.inj (Fueled.pure_eq_ok.mp h)
  rw [Fueled.ended_eq_ok, Outcome.okOr_eq_ok] at hbest
  obtain ⟨found, -, hfound⟩ := mem_analyseAll hanalyses (maxByNetOutput_mem hbest)
  rw [analyse_route hfound]
  exact ⟨best, hfound, rfl⟩

end RouteFinder

namespace PricingEngine

variable {m : TickMath} {e : PricingEngine} {f : RouteFinder} {fuel : ℕ} {env : SimulatorEnv}
  {tokenIn tokenOut : Token} {amountIn : U256} {gasPriceGwei : BitVec 64} {q : Quote}

/-- A quote expects what the ranking expects of its route. What was simulated is not compared with
    it before the quote is returned. -/
theorem getQuote_eq_ok (router : e.router = some f)
    (h : e.getQuote m fuel env tokenIn tokenOut amountIn gasPriceGwei = .ended (.ok q)) :
    ∃ a, f.analyse m fuel tokenOut amountIn gasPriceGwei q.route = .ended (.ok a) ∧
      a.netOutput = q.expectedOutput := by
  unfold getQuote at h
  rw [router] at h
  obtain ⟨_, hrouter, h⟩ := Fueled.bind_eq_ok.mp h
  obtain rfl := Option.some.inj (Outcome.okOr_eq_ok.mp (Fueled.ended_eq_ok.mp hrouter))
  obtain ⟨⟨route, netOutput⟩, hbest, h⟩ := Fueled.bind_eq_ok.mp h
  obtain ⟨simResult, -, h⟩ := Fueled.bind_eq_ok.mp h
  split at h
  · obtain rfl := Fueled.pure_eq_ok.mp h
    exact RouteFinder.findBestRoute_eq_ok hbest
  · cases Fueled.ended_eq_ok.mp h

/-- **An accurate simulation validates exactly where the gas is worth less than a thousandth of
    what is left of the output.** -/
theorem quote_valid_iff (router : e.router = some f)
    (h : e.getQuote m fuel env tokenIn tokenOut amountIn gasPriceGwei = .ended (.ok q))
    (accurate : q.route.getOutput m fuel amountIn = .ended (.ok q.simulatedOutput))
    (positive : 0 < q.simulatedOutput.toNat) :
    q.isValid = true ↔
      1001 * f.gasCost m fuel tokenOut gasPriceGwei q.route < q.simulatedOutput.toNat := by
  obtain ⟨a, hanalysis, expected⟩ := getQuote_eq_ok router h
  have net := RouteFinder.netOutput_of_analyse hanalysis accurate
  rw [expected] at net
  rw [Quote.isValid_iff, net]
  omega

/-! ## A pool of two tokens -/

/-- A pool of equal reserves of two tokens of 18 decimals without a fee. -/
def samplePair (symbol : String) : Pool :=
  .v2 { address := 0x9#160
        token0 := { address := 0x1#160, decimals := 18, symbol := "DAI" }
        token1 := { address := 0x2#160, decimals := 18, symbol }
        reserve0 := 1000000000000000000000000#256
        reserve1 := 1000000000000000000000000#256
        feeBps := 0#32 }

/-- An engine with this pool. -/
def sampleEngine (symbol : String) : PricingEngine where
  pools := (∅ : PoolMap).insert 0x9#160 (samplePair symbol)
  router := some (RouteFinder.new [samplePair symbol])

/-- A simulator that says what the route says. -/
def accurateEnv : SimulatorEnv where
  simulateRoute route amountIn :=
    match route.getOutput UniswapV3Pool.stepMath 10 amountIn with
    | some (.ok amountOut) => .ok { success := true, amountOut, gasUsed := 120000, error := none }
    | _ => .err "connection refused"
  timestamp := 1700000000
  debug := fun _ => "None"

/-- A quote for one unit of the first token at thirty gwei. -/
def sampleQuote (symbol : String) : Fueled Quote :=
  (sampleEngine symbol).getQuote UniswapV3Pool.stepMath 10 accurateEnv
    { address := 0x1#160, decimals := 18, symbol := "DAI" }
    { address := 0x2#160, decimals := 18, symbol } 1000000000000000000#256 30#64

/-- What is read of a quote: what was expected, what was simulated, and what its route says. -/
def figures : Fueled Quote → Option (U256 × U256 × Option (Outcome U256) × Bool)
  | some (.ok q) =>
      some (q.expectedOutput, q.simulatedOutput,
        q.route.getOutput UniswapV3Pool.stepMath 10 1000000000000000000#256, q.isValid)
  | _ => none

theorem quoted_of_figures {x : Fueled Quote} {expected simulated : U256}
    {output : Option (Outcome U256)} {valid : Bool}
    (h : figures x = some (expected, simulated, output, valid)) :
    ∃ q, x = .ended (.ok q) ∧ q.expectedOutput = expected ∧ q.simulatedOutput = simulated ∧
      q.route.getOutput UniswapV3Pool.stepMath 10 1000000000000000000#256 = output ∧
        q.isValid = valid := by
  rcases x with _ | (q | msg | _)
  · cases h
  · simp only [figures, Option.some.injEq] at h
    cases h
    exact ⟨q, rfl, rfl, rfl, rfl, rfl⟩
  · cases h
  · cases h

/-- What gas costs in the second token is not known, and nothing is taken off. -/
theorem sample_quote_valid :
    ∃ q, sampleQuote "USDC" = .ended (.ok q) ∧ q.isValid = true := by
  have seen : figures (sampleQuote "USDC") = some (999999000000999999#256, 999999000000999999#256,
      some (.ok 999999000000999999#256), true) := by decide +kernel
  obtain ⟨q, hq, -, simulated, output, -⟩ := quoted_of_figures seen
  refine ⟨q, hq, (quote_valid_iff rfl hq (by rw [simulated]; exact output)
    (by rw [simulated]; decide)).mpr ?_⟩
  have free : RouteFinder.gasCost UniswapV3Pool.stepMath (RouteFinder.new [samplePair "USDC"]) 10
      { address := 0x2#160, decimals := 18, symbol := "USDC" } 30#64 q.route = 0 := by
    unfold RouteFinder.gasCost
    rfl
  rw [free, simulated]
  decide

/-- **A simulation that is right to the last unit is refused**: the second token is ether, and the
    gas is three quarters of a hundredth of it. -/
theorem sample_quote_refused :
    ∃ q, sampleQuote "WETH" = .ended (.ok q) ∧
      q.route.getOutput UniswapV3Pool.stepMath 10 1000000000000000000#256 =
        .ended (.ok q.simulatedOutput) ∧
      0 < q.simulatedOutput.toNat ∧ q.isValid = false := by
  have seen : figures (sampleQuote "WETH") = some (992499000000999999#256, 999999000000999999#256,
      some (.ok 999999000000999999#256), false) := by decide +kernel
  obtain ⟨q, hq, -, simulated, output, refused⟩ := quoted_of_figures seen
  refine ⟨q, hq, ?_, ?_, refused⟩
  · rw [simulated]
    exact output
  · rw [simulated]
    decide

end PricingEngine

end ArbEngine
