import ArbEngine.Integration.RunLoop
import ArbEngine.Strategy.Generator

/-!
# The loop with its generator (`integration/src/bin/arb_bot.rs`)

In `BotRun.tick` the candidates are whatever the environment offers. Here they are what the
generator queues: `tick` clears its queue, lets it quote every pair under the settings of that
pair, and pops the queue until it is empty. Of the settings of a pair, the two minima reach the
generator and the trade size is an argument; the fees it was made with stay.
-/

namespace ArbEngine

/-- The bot with its generator. -/
structure TradingRun where
  run : BotRun
  generator : SignalGenerator
  generatorBase : GeneratorConfig

/-- What the environment does during one iteration; `quotes i` answers the pair number `i`. -/
structure TradingEnv where
  loop : BotRun.LoopEnv
  quotes : ℕ → QuoteEnv

namespace ArbBot

/-- The generator `new` makes, for the pools it has read from the chain. -/
def newGenerator (config : BotConfig) (generatorBase : GeneratorConfig) (pools : String → Pool) :
    SignalGenerator :=
  config.pairs.foldl
    (fun generator pair => generator.registerPair pair (PairMetadata.ofPool (pools pair)))
    (SignalGenerator.new default generatorBase)

/-- The two minima of the pair in place of those of the generator. -/
def generatorConfig (b : ArbBot) (generatorBase : GeneratorConfig) (pair : String) :
    GeneratorConfig :=
  let pairCfg := b.pairConfig pair
  { generatorBase with
    minSpreadBps := pairCfg.minSpreadBps
    minProfitUsd := pairCfg.minProfitUsd }

/-- The loop over the pairs. -/
def queuePairs (b : ArbBot) (generatorBase : GeneratorConfig) (quotes : ℕ → QuoteEnv) :
    SignalGenerator → ℕ → List String → Outcome SignalGenerator
  | generator, _, [] => .ok generator
  | generator, i, pair :: pairs => do
      let generator := generator.updateConfig (b.generatorConfig generatorBase pair)
      let generator ← generator.queueCandidate (quotes i) b.sharedInventory pair
        (b.pairConfig pair).tradeSize
      queuePairs b generatorBase quotes generator (i + 1) pairs

end ArbBot

namespace TradingRun

/-- A tick gets as far as the generator. -/
def asksGenerator (t : BotRun) (env : TickEnv) : Bool :=
  t.bot.tradingActive && !(t.bot.executor.circuitBreaker.isOpen env.breaker).1

/-- What a tick in the state `t` does with the generator; `none` if the candidates of the label
    are not what its queue hands out. -/
def offer (r : TradingRun) (t : BotRun) (env : TradingEnv) : Option SignalGenerator :=
  if asksGenerator t env.loop.tick then do
    let queued ← (t.bot.queuePairs r.generatorBase env.quotes r.generator.clearQueue 0
      t.bot.pairs).toOption
    if queued.Popped env.loop.tick.candidates then some queued.clearQueue else none
  else some r.generator

/-- The body of `while self.running`. -/
def step (sqrt : ℚ → ℚ) (r : TradingRun) (env : TradingEnv) : Option TradingRun := do
  let t ← (r.run.beforeTick env.loop).toOption
  let generator ← r.offer t env
  let run ← r.run.loopStep sqrt env.loop
  return { r with run, generator }

/-- The state in which `run` enters its loop. -/
def start (config : BotConfig) (generatorBase : GeneratorConfig) (pools : String → Pool)
    (b : ArbBot) (lastReset lastHealthCheck lastKillSwitchCheck : ℚ) : TradingRun where
  run := BotRun.start b lastReset lastHealthCheck lastKillSwitchCheck
  generator := ArbBot.newGenerator config generatorBase pools
  generatorBase := generatorBase

end TradingRun

end ArbEngine
