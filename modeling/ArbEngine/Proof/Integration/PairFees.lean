import ArbEngine.Integration.TradingLoop
import ArbEngine.Proof.Integration.Iteration
import ArbEngine.Proof.Strategy.Signals

/-!
# The fees a signal is filtered with

A pair has its own fees in the configuration, and `set_fees` is there to hand them to the
generator; nothing calls it. The generator filters every signal with the built-in fees, and
what the pair's own fees take beyond those is missing from the net profit it asks for
(`Queued.reckoned`).

So whether an executed signal leaves the minimum at its own fees depends on what else keeps its
profit up: the least spread, and the floor of the gas check. `leastNet` is the smallest net
profit a signal of a given value can be executed with, and `feesCovered_iff` says that the
excess of the pair's fees has to fit between it and the minimum.
-/

namespace ArbEngine

open ArbBot BotRun

/-! ## The gas check -/

/-- What a trade must be expected to earn before gas: half a dollar above its gas, and twice
    its gas. -/
def gasFloor (sqrt : ℚ → ℚ) (oracle : GasOracle) (gasUnits : ℕ) : ℚ :=
  max (minNetProfitUsd + oracle.estimatedCostUsd sqrt gasUnits)
    (2 * oracle.estimatedCostUsd sqrt gasUnits)

/-- The gas check is a floor under the gross profit: it passes exactly the profits from that floor
    on. Both of its tests are linear in the profit once the gas is known. -/
theorem safetyCheckWithGas_passes {sqrt : ℚ → ℚ} {grossProfitUsd : ℚ} {gasUnits : ℕ}
    {oracle : GasOracle} :
    (∃ net, safetyCheckWithGas sqrt grossProfitUsd gasUnits oracle = .ok net) ↔
      gasFloor sqrt oracle gasUnits ≤ grossProfitUsd := by
  unfold safetyCheckWithGas GasOracle.netProfitUsd gasFloor
  simp only
  generalize oracle.estimatedCostUsd sqrt gasUnits = gas
  have positive : (0 : ℚ) < minNetProfitUsd := by norm_num [minNetProfitUsd]
  rw [max_le_iff]
  split
  · rename_i low
    constructor
    · rintro ⟨net, h⟩
      cases h
    · intro h
      exact absurd h.1 (by linarith)
  · rename_i enough
    have above : minNetProfitUsd + gas ≤ grossProfitUsd := by linarith
    split
    · rename_i high
      obtain ⟨hgross, hratio⟩ := high
      constructor
      · rintro ⟨net, h⟩
        cases h
      · intro h
        rw [maxGasProfitRatio, lt_div_iff₀ hgross] at hratio
        exact absurd h.2 (by linarith)
    · rename_i low
      refine iff_of_true ⟨_, rfl⟩ ⟨above, ?_⟩
      -- without a gross profit the ratio is not looked at, and the first test has failed already
      by_cases hgross : 0 < grossProfitUsd
      · have ratio : gas / grossProfitUsd ≤ maxGasProfitRatio := by
          by_contra h
          exact low ⟨hgross, not_le.mp h⟩
        rw [maxGasProfitRatio, div_le_iff₀ hgross] at ratio
        linarith
      · linarith

/-! ## The excess of the pair's fees -/

namespace BotConfig

/-- The settings configured for a pair. -/
def pairConfig (config : BotConfig) (pair : String) : PerPairConfig :=
  (config.pairConfigs pair).getD PerPairConfig.pepeDefault

/-- At the fees configured for its pair, the signal leaves the profit configured for it. -/
def OwnFeesLeaveMinimum (config : BotConfig) (s : Signal) : Prop :=
  ((config.pairConfig s.pair).minProfitUsd : XRat) ≤
    (config.pairConfig s.pair).feeStructure.netProfitUsd s.spreadBps (s.size * s.cexPrice)

end BotConfig

/-- What the fees of the pair take of a trade beyond the built-in ones. -/
def excessFees (cfg : PerPairConfig) (v : ℚ) : ℚ :=
  cfg.feeStructure.feesUsd v - (default : FeeStructure).feesUsd v

/-- The least net profit, at the built-in fees, with which a signal of this value gets past the
    minima of its pair and the gas check. -/
def leastNet (sqrt : ℚ → ℚ) (oracle : GasOracle) (cfg : PerPairConfig) (v : ℚ) : ℚ :=
  max (max cfg.minProfitUsd (cfg.minSpreadBps / 10000 * v - (default : FeeStructure).feesUsd v))
    (gasFloor sqrt oracle cfg.gasUnits - cfg.feeStructure.gasCostUsd)

/-- The least net profit of a trade of this value makes up for the excess. -/
def FeesCovered (sqrt : ℚ → ℚ) (oracle : GasOracle) (cfg : PerPairConfig) (v : ℚ) : Prop :=
  cfg.minProfitUsd + excessFees cfg v ≤ leastNet sqrt oracle cfg v

instance (sqrt : ℚ → ℚ) (oracle : GasOracle) (cfg : PerPairConfig) (v : ℚ) :
    Decidable (FeesCovered sqrt oracle cfg v) := by
  unfold FeesCovered
  infer_instance

/-- **The excess is covered exactly where every spread that gets past the minima and the gas
    check leaves the minimum at the pair's own fees.** -/
theorem feesCovered_iff {sqrt : ℚ → ℚ} {oracle : GasOracle} {cfg : PerPairConfig} {v : ℚ}
    (hv : 0 < v) :
    FeesCovered sqrt oracle cfg v ↔
      ∀ spread net, net = spread / 10000 * v - (default : FeeStructure).feesUsd v →
        cfg.minSpreadBps ≤ spread → cfg.minProfitUsd ≤ net →
        (∃ left, safetyCheckWithGas sqrt (net + cfg.feeStructure.gasCostUsd) cfg.gasUnits
          oracle = .ok left) →
        (cfg.minProfitUsd : XRat) ≤ cfg.feeStructure.netProfitUsd spread v := by
  unfold FeesCovered excessFees leastNet
  constructor
  · intro covered spread net hnet wide enough gas
    rw [safetyCheckWithGas_passes] at gas
    rw [FeeStructure.netProfitUsd_of_pos hv, XRat.fin_le]
    have hspread : cfg.minSpreadBps / 10000 * v ≤ spread / 10000 * v := by
      apply mul_le_mul_of_nonneg_right _ hv.le
      linarith
    have least := covered.trans (max_le (max_le enough (by linarith)) (by linarith :
      gasFloor sqrt oracle cfg.gasUnits - cfg.feeStructure.gasCostUsd ≤ net))
    linarith
  · intro every
    -- The spread that leaves the least net profit gets past everything.
    generalize hleast : max (max cfg.minProfitUsd
      (cfg.minSpreadBps / 10000 * v - (default : FeeStructure).feesUsd v))
      (gasFloor sqrt oracle cfg.gasUnits - cfg.feeStructure.gasCostUsd) = least
    have profit : cfg.minProfitUsd ≤ least :=
      hleast ▸ (le_max_left _ _).trans (le_max_left _ _)
    have spread : cfg.minSpreadBps / 10000 * v - (default : FeeStructure).feesUsd v ≤ least :=
      hleast ▸ (le_max_right _ _).trans (le_max_left _ _)
    have gas : gasFloor sqrt oracle cfg.gasUnits - cfg.feeStructure.gasCostUsd ≤ least :=
      hleast ▸ le_max_right _ _
    have hne : v ≠ 0 := hv.ne'
    have value : (least + (default : FeeStructure).feesUsd v) / v * 10000 / 10000 * v =
        least + (default : FeeStructure).feesUsd v := by
      field_simp
    have left := every ((least + (default : FeeStructure).feesUsd v) / v * 10000) least
      (by rw [value]; ring) ?_ profit (safetyCheckWithGas_passes.mpr (by linarith))
    · rw [FeeStructure.netProfitUsd_of_pos hv, XRat.fin_le, value] at left
      linarith
    · rw [← div_le_iff₀ (by norm_num : (0 : ℚ) < 10000), le_div_iff₀ hv]
      linarith

/-! ## What the generator queues -/

/-- The signals in the queue are reckoned with the generator's own fees, under the minima of
    their pairs. -/
structure Queued (b : ArbBot) (generatorBase : GeneratorConfig) (fees : FeeStructure)
    (g : SignalGenerator) : Prop where
  made : g.fees = fees
  reckoned : ∀ s ∈ g.queued, Reckoned fees (b.generatorConfig generatorBase s.pair) s

theorem Queued.cleared (b : ArbBot) (generatorBase : GeneratorConfig) (g : SignalGenerator) :
    Queued b generatorBase g.fees g.clearQueue := by
  refine ⟨rfl, ?_⟩
  intro s hs
  cases hs

theorem Queued.queueCandidate {b : ArbBot} {generatorBase : GeneratorConfig}
    {fees : FeeStructure} {g g' : SignalGenerator} {env : QuoteEnv}
    {inventory : InventoryTracker} {pair : String} {size : ℚ}
    (h : Queued b generatorBase fees g)
    (hq : (g.updateConfig (b.generatorConfig generatorBase pair)).queueCandidate env inventory
      pair size = .ok g') : Queued b generatorBase fees g' := by
  obtain ⟨⟨g₁, emitted⟩, hgen, hq⟩ := Outcome.bind_eq_ok.mp hq
  cases hq
  obtain ⟨same, emits⟩ := SignalGenerator.generate_eq_ok hgen
  refine ⟨same.fees.trans h.made, ?_⟩
  intro s hs
  simp only [SignalGenerator.queued, List.filterMap_append, List.mem_append] at hs
  rcases hs with hs | hs
  · apply h.reckoned s
    rw [same.signalQueue] at hs
    exact hs
  · obtain ⟨e, he, heq⟩ := List.mem_filterMap.mp hs
    cases e with
    | nonFinite => cases heq
    | signal s' =>
      cases heq
      obtain ⟨p, c, hemits⟩ := emits _ (Option.mem_toList.mp he)
      obtain ⟨⟨hpair, -⟩, -⟩ := SignalGenerator.filterCandidate_eq_signal hemits.filtered
      have reckoned := hemits.reckoned
      rw [hpair, ← h.made]
      exact reckoned

/-- **Whatever is queued has been reckoned with the fees the generator was made with.** -/
theorem Queued.queuePairs {b : ArbBot} {generatorBase : GeneratorConfig} {fees : FeeStructure}
    {quotes : ℕ → QuoteEnv} {pairs : List String} {i : ℕ} {g g' : SignalGenerator}
    (h : Queued b generatorBase fees g)
    (hq : b.queuePairs generatorBase quotes g i pairs = .ok g') :
    Queued b generatorBase fees g' := by
  induction pairs generalizing g i with
  | nil =>
    cases hq
    exact h
  | cons pair pairs ih =>
    obtain ⟨g₁, hg₁, hq⟩ := Outcome.bind_eq_ok.mp hq
    exact ih (h.queueCandidate hg₁) hq

/-- The ranking gives a signal its score and nothing else. -/
theorem mem_ranked {scorer : SignalScorer} {inventory : InventoryTracker}
    {candidates : List Signal} {s : Signal} (h : s ∈ scorer.ranked inventory candidates) :
    ∃ s₀ ∈ candidates, s = { s₀ with score := scorer.score s₀ inventory } := by
  unfold SignalScorer.ranked at h
  rw [List.mem_insertionSort] at h
  obtain ⟨s₀, hs₀, rfl⟩ := List.mem_map.mp h
  exact ⟨s₀, hs₀, rfl⟩

theorem Reckoned.scored {fees : FeeStructure} {config : GeneratorConfig} {s : Signal}
    (h : Reckoned fees config s) (score : ℚ) :
    Reckoned fees config { s with score := score } :=
  ⟨h.value, h.bought, h.spread, h.wide, h.gross, h.net, h.profitable⟩

/-- The candidates of a tick are signals of the queue. -/
theorem mem_of_popped {g : SignalGenerator} {candidates : List Signal} {s : Signal}
    (h : g.Popped candidates) (hs : s ∈ candidates) : s ∈ g.queued := by
  rcases h with ⟨perm, -⟩ | ⟨rfl, -⟩
  · exact perm.mem_iff.mp hs
  · cases hs

namespace TradingRun

/-! ## Over a run -/

theorem step_eq_some {sqrt : ℚ → ℚ} {r s : TradingRun} {env : TradingEnv}
    (h : r.step sqrt env = some s) :
    ∃ t, r.run.beforeTick env.loop = .ok t ∧ r.offer t env = some s.generator ∧
      r.run.loopStep sqrt env.loop = some s.run := by
  obtain ⟨t, ht, h⟩ := Option.bind_eq_some_iff.mp h
  obtain ⟨g, hg, h⟩ := Option.bind_eq_some_iff.mp h
  obtain ⟨run, hrun, h⟩ := Option.bind_eq_some_iff.mp h
  cases h
  exact ⟨t, Outcome.toOption_eq_some.mp ht, hg, hrun⟩

/-- Nothing hands the generator other fees. -/
theorem offer_fees {r : TradingRun} {t : BotRun} {env : TradingEnv} {g : SignalGenerator}
    (h : r.offer t env = some g) : g.fees = r.generator.fees := by
  unfold offer at h
  split at h
  · obtain ⟨g₁, hq, h⟩ := Option.bind_eq_some_iff.mp h
    split at h
    · cases h
      have queued := (Queued.cleared t.bot r.generatorBase r.generator).queuePairs
        (Outcome.toOption_eq_some.mp hq)
      exact queued.made
    · cases h
  · cases h
    rfl

/-- What a tick offers for execution is reckoned with the fees of the generator. -/
theorem reckoned_of_offer {sqrt : ℚ → ℚ} {r : TradingRun} {t : BotRun} {env : TradingEnv}
    {g : SignalGenerator} {signal : Signal} (h : r.offer t env = some g)
    (active : t.bot.tradingActive = true) (passed : Passed sqrt t env.loop.tick signal) :
    Reckoned r.generator.fees (t.bot.generatorConfig r.generatorBase signal.pair) signal := by
  have asked : asksGenerator t env.loop.tick = true := by
    rw [asksGenerator, active, passed.closed]
    rfl
  unfold offer at h
  rw [if_pos asked] at h
  obtain ⟨g₁, hq, h⟩ := Option.bind_eq_some_iff.mp h
  split at h
  · rename_i popped
    have queued := (Queued.cleared t.bot r.generatorBase r.generator).queuePairs
      (Outcome.toOption_eq_some.mp hq)
    obtain ⟨s₀, hs₀, rfl⟩ := mem_ranked (List.mem_of_head? passed.best)
    exact (queued.reckoned s₀ (mem_of_popped popped hs₀)).scored _
  · cases h

/-- **The iterations whose trade covers the excess of its pair's fees.** -/
def TradesCovered (sqrt : ℚ → ℚ) (r : TradingRun) (env : TradingEnv) : Prop :=
  ∀ t signal, r.run.beforeTick env.loop = .ok t → t.bot.tradingActive = true →
    Passed sqrt t env.loop.tick signal →
      FeesCovered sqrt t.bot.gasOracle (t.bot.pairConfig signal.pair)
        (signal.size * signal.cexPrice)

/-- What holds in every state of a run whose iterations are covered. -/
structure Filtered (config : BotConfig) (r : TradingRun) : Prop where
  standing : BotRun.Standing config r.run
  fees : r.generator.fees = default
  executed : ∀ e ∈ r.run.executions, config.OwnFeesLeaveMinimum e.1

/-- An iteration keeps it: what is executed was offered, and what is offered was reckoned with fees
    that cover those of the pair. -/
theorem Filtered.step {config : BotConfig} {sqrt : ℚ → ℚ} {r s : TradingRun} {env : TradingEnv}
    (h : Filtered config r) (covered : TradesCovered sqrt r env)
    (hs : r.step sqrt env = some s) : Filtered config s := by
  obtain ⟨t, ht, hoffer, hrun⟩ := step_eq_some hs
  obtain ⟨t', ht', framed, ticked⟩ := loopStep_cases hrun
  rw [ht] at ht'
  cases ht'
  have same : t.executions = r.run.executions := by
    rw [framed.executions, dailyReset_executions]
  refine ⟨h.standing.step hrun, (offer_fees hoffer).trans h.fees, ?_⟩
  intro e he
  cases ticked with
  | idle hf =>
    apply h.executed e
    rw [hf.executions, same] at he
    exact he
  | traded signal active passed executed =>
    rw [executed.executions, same] at he
    rcases List.mem_append.mp he with he | he
    · exact h.executed e he
    · rw [List.mem_singleton.mp he]
      -- the signal comes from the offer of this very tick
      have reckoned := reckoned_of_offer hoffer active passed
      rw [h.fees] at reckoned
      have own : config.pairConfig signal.pair = t.bot.pairConfig signal.pair := by
        rw [BotConfig.pairConfig, pairConfig, (h.standing.beforeTick ht).pairConfigs]
      unfold BotConfig.OwnFeesLeaveMinimum
      rw [own]
      have net := reckoned.net
      rw [reckoned.gross] at net
      exact (feesCovered_iff reckoned.value).mp (covered t signal ht active passed) _ _ net
        reckoned.wide reckoned.profitable passed.gas

theorem newGenerator_fees (config : BotConfig) (generatorBase : GeneratorConfig)
    (pools : String → Pool) :
    (ArbBot.newGenerator config generatorBase pools).fees = default := by
  unfold ArbBot.newGenerator
  generalize hg : SignalGenerator.new default generatorBase = g
  have fees : g.fees = default := by rw [← hg, SignalGenerator.new]
  clear hg
  induction config.pairs generalizing g with
  | nil => exact fees
  | cons pair pairs ih =>
    rw [List.foldl_cons]
    exact ih _ fees

/-- **Every executed signal leaves the minimum of its pair at the fees of its pair**, in every
    run whose trades cover the excess of those fees over the built-in ones. -/
theorem executed_leave_minimum {sqrt : ℚ → ℚ} {config : BotConfig} {start₀ : StartEnv}
    {b : ArbBot} {t₀ t₁ t₂ : ℚ} {generatorBase : GeneratorConfig} {pools : String → Pool}
    {envs : List TradingEnv} {r : TradingRun} (made : ArbBot.new config start₀ = .ok b)
    (run : GuardedRun (step sqrt) (TradesCovered sqrt)
      (start config generatorBase pools b t₀ t₁ t₂) envs r) :
    ∀ e ∈ r.run.executions, config.OwnFeesLeaveMinimum e.1 := by
  have filtered : Filtered config r := by
    apply run.invariant (I := Filtered config)
    · intro r s env h covered hs
      exact h.step covered hs
    · refine ⟨.start t₀ t₁ t₂ made, newGenerator_fees config generatorBase pools, ?_⟩
      intro e he
      cases he
  exact filtered.executed

end TradingRun

/-! ## One trade of the small account -/

open TradingRun

/-- The small account with one pair, under these settings. -/
def sampleFees (cfg : PerPairConfig) : BotConfig :=
  { sampleConfig with pairs := ["WETH/USDT"], pairConfigs := fun _ => some cfg }

/-- A pool that trades ether at 2025. -/
def sampleEtherPool : Pool :=
  .v3 { samplePool with
    token0 := sampleToken 3#160 "WETH"
    token1 := sampleToken 2#160 "USDT"
    sqrtPriceX96 := 45#256 <<< 96 }

/-- What the generator makes of the pool and an ask of 1950. -/
def sampleOffered : Signal where
  signalId := "WETHUSDT_1a2b3c4d"
  pair := "WETH/USDT"
  direction := .buyCexSellDex
  cexPrice := 1950
  dexPrice := 2025
  spreadBps := 75 / 1950 * 10000
  size := 95 / 10000
  expectedGrossPnl := 7125 / 10000
  expectedFees := 403775 / 10000000
  expectedNetPnl := 6721225 / 10000000
  score := 75 / 1950 * 100
  timestamp := 1
  expiry := 6
  inventoryOk := true
  withinLimits := true

def sampleTradingEnv : TradingEnv where
  loop :=
    { sampleEnv 1 false sampleWei with
      tick := { (sampleEnv 1 false sampleWei).tick with candidates := [sampleOffered] } }
  quotes _ := { now := 1, orderBook := some { bid := 1949, ask := 1950 },
                shortUuid := "1a2b3c4d", created := 1 }

/-- The first iteration of it. -/
def sampleTrading (cfg : PerPairConfig) : Option TradingRun :=
  (ArbBot.new (sampleFees cfg) sampleStart).toOption.bind fun b =>
    (TradingRun.start (sampleFees cfg) default (fun _ => sampleEtherPool) b 0 0 0).step
      (fun _ => 0) sampleTradingEnv

theorem sampleTrading_inv {cfg : PerPairConfig} {r : TradingRun}
    (h : sampleTrading cfg = some r) :
    ∃ b, ArbBot.new (sampleFees cfg) sampleStart = .ok b ∧
      (TradingRun.start (sampleFees cfg) default (fun _ => sampleEtherPool) b 0 0 0).step
        (fun _ => 0) sampleTradingEnv = some r := by
  obtain ⟨b, hb, h⟩ := Option.bind_eq_some_iff.mp h
  exact ⟨b, Outcome.toOption_eq_some.mp hb, h⟩

/-- The configured settings of ether, for a larger trade. -/
def etherSettings : PerPairConfig := { PerPairConfig.ethDefault with tradeSize := 95 / 10000 }

/-- A pool that takes thirty basis points, and 65 cents to be left. -/
def dearSettings : PerPairConfig :=
  { etherSettings with
    minProfitUsd := 65 / 100
    feeStructure := { etherSettings.feeStructure with dexSwapBps := 30 } }

/-- With the configured settings of ether, the floor of the gas check covers the excess. -/
theorem sample_ether_leaves_minimum :
    ∃ b r, ArbBot.new (sampleFees etherSettings) sampleStart = .ok b ∧
      (TradingRun.start (sampleFees etherSettings) default (fun _ => sampleEtherPool) b 0 0 0).step
        (fun _ => 0) sampleTradingEnv = some r ∧
      r.run.executions.length = 1 ∧
      ∀ e ∈ r.run.executions, (sampleFees etherSettings).OwnFeesLeaveMinimum e.1 := by
  have traded : (sampleTrading etherSettings).map (fun r => r.run.executions.length) =
      some 1 := by
    decide +kernel
  obtain ⟨r, hr, one⟩ := Option.map_eq_some_iff.mp traded
  obtain ⟨b, made, first⟩ := sampleTrading_inv hr
  have seen : (ArbBot.new (sampleFees etherSettings) sampleStart).toOption.bind (fun b =>
      ((BotRun.start b 0 0 0).beforeTick sampleTradingEnv.loop).toOption.bind fun t =>
        (t.bot.scorer.ranked t.bot.sharedInventory
          sampleTradingEnv.loop.tick.candidates).head?.map fun signal =>
            decide (FeesCovered (fun _ => 0) t.bot.gasOracle (t.bot.pairConfig signal.pair)
              (signal.size * signal.cexPrice))) = some true := by
    decide +kernel
  rw [made] at seen
  have covered : TradesCovered (fun _ => 0)
      (TradingRun.start (sampleFees etherSettings) default (fun _ => sampleEtherPool) b 0 0 0)
      sampleTradingEnv := by
    intro t signal ht _ passed
    change ((BotRun.start b 0 0 0).beforeTick sampleTradingEnv.loop).toOption.bind _ = _ at seen
    change (BotRun.start b 0 0 0).beforeTick sampleTradingEnv.loop = _ at ht
    rw [Outcome.toOption_eq_some.mpr ht, Option.bind_some, passed.best, Option.map_some,
      Option.some.injEq] at seen
    exact of_decide_eq_true seen
  exact ⟨b, r, made, first, one, executed_leave_minimum made (.single covered first)⟩

/-- **A pair whose pool is dear**: 67 cents are left at the built-in fees, and the signal is
    executed; at its own fees, 62 of the 65 cents are. -/
theorem sample_dear_pool_leaves_less :
    ∃ b r signal ctx, ArbBot.new (sampleFees dearSettings) sampleStart = .ok b ∧
      Run (TradingRun.step fun _ => 0)
        (TradingRun.start (sampleFees dearSettings) default (fun _ => sampleEtherPool) b 0 0 0)
        [sampleTradingEnv] r ∧
      r.run.executions = [(signal, ctx)] ∧
      ¬ (sampleFees dearSettings).OwnFeesLeaveMinimum signal := by
  have seen : (sampleTrading dearSettings).map (fun r => r.run.executions.map fun e =>
      decide ((dearSettings.minProfitUsd : XRat) ≤
        dearSettings.feeStructure.netProfitUsd e.1.spreadBps (e.1.size * e.1.cexPrice))) =
      some [false] := by
    decide +kernel
  obtain ⟨r, hr, less⟩ := Option.map_eq_some_iff.mp seen
  obtain ⟨b, made, first⟩ := sampleTrading_inv hr
  obtain ⟨⟨signal, ctx⟩, hexec, less⟩ := List.map_eq_singleton_iff.mp less
  refine ⟨b, r, signal, ctx, made, .single trivial first, hexec, ?_⟩
  intro leaves
  exact of_decide_eq_false less leaves

end ArbEngine
