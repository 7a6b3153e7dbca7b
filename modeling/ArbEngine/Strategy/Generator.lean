import ArbEngine.Lib.XRat
import ArbEngine.Pricing.Pool
import ArbEngine.Strategy.Scorer

/-!
# The signal generator (`strategy/src/generator.rs`)

The generator asks the exchange for its book and the pool of the pair for two quotes, one for
each direction of a trade, takes the better of the two spreads and emits a signal if what it
expects to be left after fees is enough. Its pools are those of the start-up; no quote is taken
from the chain.

Quotes are divided by and into, so they are `XRat`s: a pool that pays nothing back for a sale
has an infinite price for a purchase. A signal with a field that is no rational is emitted all
the same, and every such signal is one that `validate_signal` refuses: its spread is infinite,
or its size or a price is not positive. Of such a signal there is nothing but the fact that it
was emitted, `Emission.nonFinite`.
-/

namespace ArbEngine

structure GeneratorConfig where
  minSpreadBps : ℚ
  minProfitUsd : ℚ
  maxPositionUsd : ℚ
  signalTtlSeconds : ℚ
  cooldownSeconds : ℚ
deriving DecidableEq, Repr

instance : Inhabited GeneratorConfig :=
  ⟨{ minSpreadBps := 50
     minProfitUsd := 5
     maxPositionUsd := 10000
     signalTtlSeconds := 5
     cooldownSeconds := 2 }⟩

structure PairMetadata where
  pool : Pool
  baseToken : Token
  quoteToken : Token

structure PriceData where
  cexBid : ℚ
  cexAsk : ℚ
  dexBuy : XRat
  dexSell : XRat
deriving DecidableEq, Repr

/-- The best prices of the exchange's book. -/
structure BestPrices where
  bid : ℚ
  ask : ℚ
deriving DecidableEq, Repr

/-- What the environment answers to one call of `generate`. -/
structure QuoteEnv where
  now : ℚ
  orderBook : Option BestPrices
  shortUuid : String
  created : ℚ

inductive Emission where
  | signal (s : Signal)
  | nonFinite
deriving DecidableEq, Repr

structure SignalGenerator where
  fees : FeeStructure
  config : GeneratorConfig
  pairMetadata : String → Option PairMetadata
  lastSignalTime : String → Option ℚ
  lastPrices : String → Option ℚ
  signalQueue : List Emission

/-! ## Prices -/

/-- `f64_to_u256`: a cast to `u128` cuts the fraction off and stays within the type. -/
def f64ToU256 (val : ℚ) (decimals : ℕ) : U256 :=
  BitVec.ofNat 256 (min ⌊val * 10 ^ decimals⌋.toNat (2 ^ 128 - 1))

/-- A quote below one, where the exchange trades above a thousand, is taken for the quote of
    the other token. -/
def invertSmall (quote : XRat) (cexPrice : ℚ) : XRat :=
  if quote < (1 : ℚ) ∧ 1000 < cexPrice then ((1 : ℚ) : XRat) / quote else quote

namespace PairMetadata

/-- What `ArbBot::new` registers for a pool: its first token is taken for the base token. -/
def ofPool (pool : Pool) : PairMetadata :=
  let (base, quote) := pool.tokens
  { pool, baseToken := base, quoteToken := quote }

/-- What the pool pays of the quote token for each base token sold. -/
def sellQuote (m : PairMetadata) (size : ℚ) : Outcome ℚ :=
  m.pool.getExecutionPrice (f64ToU256 size m.baseToken.decimals) m.baseToken

/-- What the pool pays of the base token for each quote token, on an input worth the size at
    the middle of the book. -/
def buyQuote (m : PairMetadata) (size : ℚ) (book : BestPrices) : Outcome ℚ :=
  let midPrice := (book.bid + book.ask) / 2
  m.pool.getExecutionPrice (f64ToU256 (size * midPrice) m.quoteToken.decimals) m.quoteToken

/-- The prices of the two venues; none if the pool refuses a quote. -/
def prices (m : PairMetadata) (size : ℚ) (book : BestPrices) : Outcome (Option PriceData) := do
  match ← (m.sellQuote size).discardErr with
  | none => return none
  | some dexSell =>
      let dexSell := invertSmall dexSell book.ask
      match ← (m.buyQuote size book).discardErr with
      | none => return none
      | some baseOutPerQuoteIn =>
          let dexBuy := invertSmall (((1 : ℚ) : XRat) / baseOutPerQuoteIn) book.bid
          return some { cexBid := book.bid, cexAsk := book.ask, dexBuy, dexSell }

end PairMetadata

/-! ## The trade -/

/-- What a signal is about to be made of. -/
structure Candidate where
  direction : Direction
  spread : XRat
  executionCex : ℚ
  executionDex : XRat
deriving DecidableEq, Repr

namespace PriceData

/-- The spread of buying on the exchange and selling to the pool, in basis points. -/
def spreadA (p : PriceData) : XRat := (p.dexSell - p.cexAsk) / p.cexAsk * (10000 : ℚ)

/-- The spread of buying from the pool and selling on the exchange. -/
def spreadB (p : PriceData) : XRat := ((p.cexBid : XRat) - p.dexBuy) / p.dexBuy * (10000 : ℚ)

end PriceData

/-- The better direction, if its spread is wide enough. -/
def chooseDirection (config : GeneratorConfig) (prices : PriceData) : Option Candidate :=
  if prices.spreadB < prices.spreadA ∧ (config.minSpreadBps : XRat) ≤ prices.spreadA then
    some { direction := .buyCexSellDex, spread := prices.spreadA,
           executionCex := prices.cexAsk, executionDex := prices.dexSell }
  else if (config.minSpreadBps : XRat) ≤ prices.spreadB then
    some { direction := .buyDexSellCex, spread := prices.spreadB,
           executionCex := prices.cexBid, executionDex := prices.dexBuy }
  else none

def checkInventory (inventory : InventoryTracker) (pair : String) (direction : Direction)
    (size price : ℚ) : Bool :=
  match splitPair pair with
  | [base, quote] =>
      let requiredQuote := size * price * (101 / 100)
      match direction with
      | .buyCexSellDex =>
          requiredQuote ≤ inventory.getAvailable .cex quote &&
            size ≤ inventory.getAvailable .wallet base
      | .buyDexSellCex =>
          size ≤ inventory.getAvailable .cex base &&
            requiredQuote ≤ inventory.getAvailable .wallet quote
  | _ => false

namespace SignalGenerator

def new (fees : FeeStructure) (config : GeneratorConfig) : SignalGenerator where
  fees := fees
  config := config
  pairMetadata := fun _ => none
  lastSignalTime := fun _ => none
  lastPrices := fun _ => none
  signalQueue := []

def registerPair (g : SignalGenerator) (pair : String) (metadata : PairMetadata) :
    SignalGenerator :=
  { g with pairMetadata := fun p => if p = pair then some metadata else g.pairMetadata p }

def updateConfig (g : SignalGenerator) (config : GeneratorConfig) : SignalGenerator :=
  { g with config := config }

def setFees (g : SignalGenerator) (fees : FeeStructure) : SignalGenerator := { g with fees := fees }

def inCooldown (g : SignalGenerator) (pair : String) (now : ℚ) : Bool :=
  match g.lastSignalTime pair with
  | some lastTime => now - lastTime < g.config.cooldownSeconds
  | none => false

/-- The middle of the book is remembered as soon as there is a book. -/
def fetchPrices (g : SignalGenerator) (env : QuoteEnv) (pair : String) (size : ℚ) :
    Outcome (SignalGenerator × Option PriceData) :=
  match g.pairMetadata pair with
  | none => .ok (g, none)
  | some metadata =>
      match env.orderBook with
      | none => .ok (g, none)
      | some book => do
          let midPrice := (book.bid + book.ask) / 2
          let prices ← metadata.prices size book
          return ({ g with
            lastPrices := fun p => if p = pair then some midPrice else g.lastPrices p }, prices)

/-- `Signal::new` on the values of a candidate. -/
def emission (config : GeneratorConfig) (env : QuoteEnv) (pair : String) (c : Candidate)
    (size : ℚ) (grossPnl totalFees netPnl : XRat) (inventoryOk withinLimits : Bool) : Emission :=
  match c.executionDex.toFin, c.spread.toFin, grossPnl.toFin, totalFees.toFin, netPnl.toFin with
  | some dexPrice, some spreadBps, some grossPnl, some totalFees, some netPnl =>
      .signal
        { signalId := String.ofList (pair.toList.filter (· ≠ '/')) ++ "_" ++ env.shortUuid
          pair := pair
          direction := c.direction
          cexPrice := c.executionCex
          dexPrice := dexPrice
          spreadBps := spreadBps
          size := size
          expectedGrossPnl := grossPnl
          expectedFees := totalFees
          expectedNetPnl := netPnl
          score := spreadBps / 100
          timestamp := env.created
          expiry := env.now + config.signalTtlSeconds
          inventoryOk := inventoryOk
          withinLimits := withinLimits }
  | _, _, _, _, _ => .nonFinite

/-- The signal a candidate becomes, unless too little is left after the fees. -/
def filterCandidate (g : SignalGenerator) (env : QuoteEnv) (inventory : InventoryTracker)
    (pair : String) (size : ℚ) (c : Candidate) : Option Emission :=
  let tradeValue := size * c.executionCex
  let grossPnl := c.spread / (10000 : ℚ) * tradeValue
  let totalFees := g.fees.totalFees tradeValue
  let netPnl := grossPnl - totalFees
  if netPnl < (g.config.minProfitUsd : XRat) then none
  else
    let inventoryOk := checkInventory inventory pair c.direction size c.executionCex
    let withinLimits : Bool := tradeValue ≤ g.config.maxPositionUsd
    some (emission g.config env pair c size grossPnl totalFees netPnl inventoryOk withinLimits)

def generate (g : SignalGenerator) (env : QuoteEnv) (inventory : InventoryTracker)
    (pair : String) (size : ℚ) : Outcome (SignalGenerator × Option Emission) :=
  if g.inCooldown pair env.now then .ok (g, none)
  else do
    let (g, prices) ← g.fetchPrices env pair size
    match prices.bind (chooseDirection g.config) with
    | none => return (g, none)
    | some candidate =>
        match g.filterCandidate env inventory pair size candidate with
        | none => return (g, none)
        | some emission =>
            return ({ g with
              lastSignalTime := fun p => if p = pair then some env.now else g.lastSignalTime p },
              some emission)

/-! ## The queue -/

def clearQueue (g : SignalGenerator) : SignalGenerator := { g with signalQueue := [] }

def queueCandidate (g : SignalGenerator) (env : QuoteEnv) (inventory : InventoryTracker)
    (pair : String) (size : ℚ) : Outcome SignalGenerator := do
  let (g, emitted) ← g.generate env inventory pair size
  return { g with signalQueue := g.signalQueue ++ emitted.toList }

/-- The signals of the queue whose fields are all rationals. -/
def queued (g : SignalGenerator) : List Signal :=
  g.signalQueue.filterMap fun
    | .signal s => some s
    | .nonFinite => none

/-- What `pop_top_signal` hands out until the queue is empty: the signal with the largest net
    profit first, equal ones in any order. A signal that is refused whatever else it says may
    stand before the others; then it is as if nothing had been queued. -/
def Popped (g : SignalGenerator) (candidates : List Signal) : Prop :=
  (candidates.Perm g.queued ∧ candidates.Pairwise fun a b => b.expectedNetPnl ≤ a.expectedNetPnl) ∨
    (candidates = [] ∧ Emission.nonFinite ∈ g.signalQueue)

instance (g : SignalGenerator) (candidates : List Signal) : Decidable (g.Popped candidates) := by
  unfold Popped
  infer_instance

end SignalGenerator

end ArbEngine
