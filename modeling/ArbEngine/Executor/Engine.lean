import ArbEngine.Executor.Recovery
import ArbEngine.Inventory.Tracker
import ArbEngine.Lib.XRat

/-!
# The executor (`executor/src/engine.rs`)

One call of `execute` takes a signal through two gates, a validity check and two trade legs,
and books what the legs report. The legs talk to an exchange and to a chain; what comes back
from a leg within its timeout is an argument (`Legs`), `none` standing for the timeout. The
legs of the simulation mode and the order placing of the CEX leg are functions below.

The run of a call carries a trace: every assignment to the state of the context, every reply
of a leg, every booking and every call of `unwind`, in order. Nothing reads the trace; it is
there to speak about what a call did and not only about what it returned. Clock readings are
arguments as well.
-/

namespace ArbEngine

/-- The states of `ctx.state`. A call that is turned away at the breaker or as a duplicate goes
    from `idle` straight to `failed`. -/
inductive ExecutorState where
  | idle
  | validating
  | leg1Pending
  | leg1Filled
  | leg2Pending
  | done
  | failed
  | unwinding
deriving DecidableEq, Repr

/-- The errors a context can carry. -/
inductive ExecError where
  | circuitBreakerOpen
  | duplicateSignal
  | signalInvalid
  | cexTimeout
  | cexRejected (error : Option String)
  | partialFill (filled size : ℚ)
  | dexTimeoutUnwound
  | dexFailedUnwound (error : Option String)
  | dexTimeout
  | dexFailed (error : Option String)
  | cexTimeoutUnwound
  | cexFailedUnwound (error : Option String)
deriving DecidableEq, Repr

/-- The text of an error; `display` prints a number and `debug` an optional text. -/
def ExecError.text (display : ℚ → String) (debug : Option String → String) :
    ExecError → String
  | .circuitBreakerOpen => "Circuit breaker open"
  | .duplicateSignal => "Duplicate signal"
  | .signalInvalid => "Signal invalid"
  | .cexTimeout => "CEX timeout"
  | .cexRejected error => error.getD "CEX rejected"
  | .partialFill filled size => "Partial fill: " ++ display filled ++ " < " ++ display size
  | .dexTimeoutUnwound => "DEX timeout - unwound"
  | .dexFailedUnwound error => "DEX failed: " ++ debug error ++ " - unwound"
  | .dexTimeout => "DEX timeout"
  | .dexFailed error => "DEX failed: " ++ debug error
  | .cexTimeoutUnwound => "CEX timeout after DEX - unwound"
  | .cexFailedUnwound error =>
      "CEX failed: " ++ error.getD "Unknown CEX error" ++ " - unwound"

/-- What a call returns. The fields of a leg are set when the leg is booked, so a CEX leg that
    filled too little leaves `leg1FillSize` at `none` although it filled something. -/
structure ExecutionContext where
  signal : Signal
  state : ExecutorState
  leg1Venue : String
  leg1OrderId : Option String
  leg1FillPrice : Option ℚ
  leg1FillSize : Option ℚ
  leg2Venue : String
  leg2TxHash : Option String
  leg2FillPrice : Option ℚ
  leg2FillSize : Option ℚ
  startedAt : ℚ
  finishedAt : Option ℚ
  actualNetPnl : Option ℚ
  error : Option ExecError
deriving DecidableEq, Repr

/-- The context before the first gate: the signal and the time, everything else at its default. -/
def ExecutionContext.new (signal : Signal) (now : ℚ) : ExecutionContext where
  signal := signal
  state := .idle
  leg1Venue := ""
  leg1OrderId := none
  leg1FillPrice := none
  leg1FillSize := none
  leg2Venue := ""
  leg2TxHash := none
  leg2FillPrice := none
  leg2FillSize := none
  startedAt := now
  finishedAt := none
  actualNetPnl := none
  error := none

/-- The settings of the executor. The two timeouts are `f64` values that reach
    `Duration::from_secs_f64` unchecked, so they can be infinite or no number. -/
structure ExecutorConfig where
  leg1TimeoutSec : XRat
  leg2TimeoutSec : XRat
  minFillRatio : ℚ
  useFlashbots : Bool
  simulationMode : Bool
  dexRouterV3 : Option String
  slippageTolerance : ℚ
  cbConfig : Option CircuitBreakerConfig
  dexRouterAddress : Option String
deriving DecidableEq, Repr

instance : Inhabited ExecutorConfig :=
  ⟨{ leg1TimeoutSec := .fin 15
     leg2TimeoutSec := .fin 60
     minFillRatio := 99 / 100
     useFlashbots := true
     simulationMode := true
     dexRouterV3 := none
     slippageTolerance := 5 / 100
     cbConfig := none
     dexRouterAddress := none }⟩

/-- What a leg reports. `success` is about the order as a whole; a leg can be successful and have
    filled less than it was asked for. -/
structure LegResult where
  success : Bool
  price : ℚ
  filled : ℚ
  orderId : Option String
  txHash : Option String
  error : Option String
deriving DecidableEq, Repr

/-- A leg that did nothing and says why. -/
def LegResult.failure (error : String) : LegResult where
  success := false
  price := 0
  filled := 0
  orderId := none
  txHash := none
  error := some error

/-- The counters the executor shares with the bot. Attempts are counted before the gates, and every
    attempt ends as a success or as a failure, unless the call panics. -/
structure ExecutionMetrics where
  executionAttempts : ℕ
  executionSuccess : ℕ
  executionFailure : ℕ
  legCexFailures : ℕ
  legDexFailures : ℕ
  netPnl : List ℚ
deriving DecidableEq, Repr

/-- What the two legs answer within their timeouts. -/
structure Legs where
  cex : Signal → Option ℚ → Option LegResult
  dex : Signal → ℚ → Option LegResult

/-- What a call did. A leg that is begun leaves an `awaited`, also when it times out, and a call of
    `unwind` leaves an event of its own, whatever state is assigned before it. -/
inductive ExecEvent where
  | entered (state : ExecutorState)
  | awaited (venue : Venue) (reply : Option LegResult)
  | booked (venue : Venue) (size price : ℚ)
  | unwound
deriving DecidableEq, Repr

/-- A call in progress: its context, the books it shares, and what it has done. -/
structure ExecRun where
  ctx : ExecutionContext
  inventory : InventoryTracker
  metrics : ExecutionMetrics
  trace : List ExecEvent

/-! ## Booking a fill -/

/-- `if venue_str == "cex" { Venue::Cex } else { Venue::Wallet }` -/
def venueOf (venueStr : String) : Venue := if venueStr = "cex" then .cex else .wallet

/-- What a leg does to the base asset. The two legs of a signal are on opposite sides. -/
def legSide : Direction → Venue → TradeSide
  | .buyCexSellDex, .cex => .buy
  | .buyCexSellDex, .wallet => .sell
  | .buyDexSellCex, .cex => .sell
  | .buyDexSellCex, .wallet => .buy

/-- `update_inventory`: the fill is recorded as a trade at the flat fee of 10 bps, taken in the
    asset that comes in. A pair that does not split into two parts is recorded nowhere. -/
def updateInventory (t : InventoryTracker) (venueStr : String) (signal : Signal)
    (filledSize fillPrice : ℚ) : InventoryTracker :=
  match splitPair signal.pair with
  -- The fee is in the asset that the trade brings in, whichever leg it is.
  | [base, quote] =>
      let venue := venueOf venueStr
      let side := legSide signal.direction venue
      let baseAmount := filledSize
      let quoteAmount := filledSize * fillPrice
      let fee :=
        match side with
        | .buy => baseAmount * (1 / 1000)
        | .sell => quoteAmount * (1 / 1000)
      let feeAsset :=
        match side with
        | .buy => base
        | .sell => quote
      t.recordTrade venue side base quote baseAmount quoteAmount fee feeAsset
  | _ => t

/-- `unwind`: it sleeps in simulation mode and logs a warning otherwise. -/
def unwind (_config : ExecutorConfig) (_ctx : ExecutionContext) (t : InventoryTracker) :
    InventoryTracker := t

/-- `calculate_pnl`: the spread between the two fills on the size of the first, less 20 bps of what
    the first leg cost. Neither the fees of the pair nor the gas enter into it, and the size the
    second leg has filled is not looked at. -/
def calculatePnl (ctx : ExecutionContext) : ℚ :=
  let leg1Price := ctx.leg1FillPrice.getD 0
  let leg2Price := ctx.leg2FillPrice.getD 0
  let size := ctx.leg1FillSize.getD 0
  let gross :=
    if ctx.signal.direction = .buyCexSellDex then
      if ctx.leg1Venue = "cex" then (leg2Price - leg1Price) * size
      else (leg1Price - leg2Price) * size
    else if ctx.leg1Venue = "dex" then (leg2Price - leg1Price) * size
    else (leg1Price - leg2Price) * size
  gross - size * leg1Price * (2 / 1000)

/-! ## Steps of a run -/

namespace ExecRun

/-- `ctx.state = state` -/
def enter (r : ExecRun) (state : ExecutorState) : ExecRun :=
  { r with ctx := { r.ctx with state := state }, trace := r.trace ++ [.entered state] }

/-- The last error stays: a context carries one. -/
def withError (r : ExecRun) (error : ExecError) : ExecRun :=
  { r with ctx := { r.ctx with error := some error } }

/-- A leg is awaited; `none` is its timeout. -/
def awaited (r : ExecRun) (venueStr : String) (reply : Option LegResult) : ExecRun :=
  { r with trace := r.trace ++ [.awaited (venueOf venueStr) reply] }

/-- `self.update_inventory(..)` after a leg that succeeded. -/
def book (r : ExecRun) (venueStr : String) (filledSize fillPrice : ℚ) : ExecRun :=
  { r with
    inventory := updateInventory r.inventory venueStr r.ctx.signal filledSize fillPrice
    trace := r.trace ++ [.booked (venueOf venueStr) filledSize fillPrice] }

def countCexFailure (r : ExecRun) : ExecRun :=
  { r with metrics := { r.metrics with legCexFailures := r.metrics.legCexFailures + 1 } }

def countDexFailure (r : ExecRun) : ExecRun :=
  { r with metrics := { r.metrics with legDexFailures := r.metrics.legDexFailures + 1 } }

/-- `self.unwind(&ctx).await` -/
def unwound (r : ExecRun) (config : ExecutorConfig) : ExecRun :=
  { r with inventory := unwind config r.ctx r.inventory, trace := r.trace ++ [.unwound] }

end ExecRun

/-- `filled / size < ratio` as `f64` computes it: for a zero size the quotient is infinite or
    not a number, and only a negative fill is below the ratio. -/
def fillRatioBelow (filled size ratio : ℚ) : Bool :=
  if size = 0 then filled < 0 else filled / size < ratio

/-! ## The two flows -/

/-- A flow before its first leg. -/
def ExecRun.beginFlow (r : ExecRun) (venueStr : String) : ExecRun :=
  let r := r.enter .leg1Pending
  { r with ctx := { r.ctx with leg1Venue := venueStr } }

/-- `execute_cex_first` from its first leg to its second. Either the flow is over, or it waits
    for the DEX to trade what has been filled. -/
def firstCexLeg (config : ExecutorConfig) (legs : Legs) (r : ExecRun) : ExecRun × Option ℚ :=
  let signal := r.ctx.signal
  let reply := legs.cex signal none
  let r := r.awaited "cex" reply
  match reply with
  | none => (((r.enter .failed).withError .cexTimeout).countCexFailure, none)
  | some leg1 =>
    if !leg1.success then
      (((r.enter .failed).withError (.cexRejected leg1.error)).countCexFailure, none)
    else if fillRatioBelow leg1.filled signal.size config.minFillRatio then
      -- What the exchange did fill is neither booked nor kept in the context.
      (((r.enter .failed).withError (.partialFill leg1.filled signal.size)).countCexFailure, none)
    else
      let r := r.book "cex" leg1.filled leg1.price
      let r :=
        { r with
          ctx := { r.ctx with leg1FillPrice := some leg1.price
                              leg1FillSize := some leg1.filled
                              leg1OrderId := leg1.orderId } }
      let r := r.enter .leg1Filled
      let r := r.enter .leg2Pending
      ({ r with ctx := { r.ctx with leg2Venue := "dex" } }, some leg1.filled)

/-- The rest of `execute_cex_first`. -/
def secondDexLeg (config : ExecutorConfig) (legs : Legs) (filled : ℚ) (r : ExecRun) : ExecRun :=
  let reply := legs.dex r.ctx.signal filled
  let r := r.awaited "dex" reply
  match reply with
  | none =>
    (((r.enter .unwinding).unwound config).enter .failed).withError .dexTimeoutUnwound
      |>.countDexFailure
  | some leg2 =>
    if !leg2.success then
      (((r.enter .unwinding).unwound config).enter .failed).withError
        (.dexFailedUnwound leg2.error) |>.countDexFailure
    else
      let r := r.book "dex" leg2.filled leg2.price
      let r :=
        { r with
          ctx := { r.ctx with leg2FillPrice := some leg2.price
                              leg2FillSize := some leg2.filled
                              leg2TxHash := leg2.txHash } }
      let r := { r with ctx := { r.ctx with actualNetPnl := some (calculatePnl r.ctx) } }
      r.enter .done

/-- `execute_dex_first` from its first leg to its second. No fill ratio is checked in it. -/
def firstDexLeg (legs : Legs) (r : ExecRun) : ExecRun × Option ℚ :=
  let signal := r.ctx.signal
  let reply := legs.dex signal signal.size
  let r := r.awaited "dex" reply
  match reply with
  | none => (((r.enter .failed).withError .dexTimeout).countDexFailure, none)
  | some leg1 =>
    if !leg1.success then
      (((r.enter .failed).withError (.dexFailed leg1.error)).countDexFailure, none)
    else
      let r := r.book "dex" leg1.filled leg1.price
      let r :=
        { r with
          ctx := { r.ctx with leg1FillPrice := some leg1.price
                              leg1FillSize := some leg1.filled
                              leg1OrderId := leg1.txHash } }
      let r := r.enter .leg1Filled
      let r := r.enter .leg2Pending
      ({ r with ctx := { r.ctx with leg2Venue := "cex" } }, some leg1.filled)

/-- The rest of `execute_dex_first`. -/
def secondCexLeg (config : ExecutorConfig) (legs : Legs) (filled : ℚ) (r : ExecRun) : ExecRun :=
  let reply := legs.cex r.ctx.signal (some filled)
  let r := r.awaited "cex" reply
  match reply with
  | none =>
    (((r.enter .unwinding).unwound config).enter .failed).withError .cexTimeoutUnwound
      |>.countCexFailure
  | some leg2 =>
    if !leg2.success then
      (((r.enter .unwinding).unwound config).withError
        (.cexFailedUnwound leg2.error)).enter .failed |>.countCexFailure
    else
      let r := r.book "cex" leg2.filled leg2.price
      let r :=
        { r with
          ctx := { r.ctx with leg2FillPrice := some leg2.price
                              leg2FillSize := some leg2.filled
                              leg2TxHash := leg2.orderId } }
      let r := { r with ctx := { r.ctx with actualNetPnl := some (calculatePnl r.ctx) } }
      r.enter .done

/-- Two legs, the second of which depends on what the first has filled. -/
def runFlow (first : ExecRun → ExecRun × Option ℚ) (second : ℚ → ExecRun → ExecRun)
    (r : ExecRun) : ExecRun :=
  match first r with
  | (r, none) => r
  | (r, some filled) => second filled r

/-- The exchange first: its order can be checked against the fill ratio before anything is on the
    chain. -/
def executeCexFirst (config : ExecutorConfig) (legs : Legs) (r : ExecRun) : ExecRun :=
  runFlow (firstCexLeg config legs) (secondDexLeg config legs) (r.beginFlow "cex")

/-- The chain first. -/
def executeDexFirst (config : ExecutorConfig) (legs : Legs) (r : ExecRun) : ExecRun :=
  runFlow (firstDexLeg legs) (secondCexLeg config legs) (r.beginFlow "dex")

/-- The match on the direction of the signal. -/
def executeLegs (config : ExecutorConfig) (legs : Legs) (r : ExecRun) : ExecRun :=
  match r.ctx.signal.direction with
  | .buyDexSellCex => executeDexFirst config legs r
  | .buyCexSellDex => executeCexFirst config legs r

/-! ### With timeouts of any kind

Each leg is put behind `timeout(Duration::from_secs_f64(..), ..)`, and a number of seconds that
is no `Duration` panics there, before the leg is begun. The flows above are those of timeouts
that are durations; the ones here are for any configuration and give the run at a panic. -/

/-- `Duration::from_secs_f64` takes it: it is a number, not negative, and fits the seconds. -/
def IsDuration : XRat → Prop
  | .fin secs => 0 ≤ secs ∧ secs < 2 ^ 64
  | .inf _ => False
  | .nan => False

instance : DecidablePred IsDuration
  | .fin secs => inferInstanceAs (Decidable (0 ≤ secs ∧ secs < 2 ^ 64))
  | .inf _ => inferInstanceAs (Decidable False)
  | .nan => inferInstanceAs (Decidable False)

/-- `runFlow` with the timeouts of its legs; `error` is the run at a panic. -/
def runFlowTimed (timeout1 timeout2 : XRat) (first : ExecRun → ExecRun × Option ℚ)
    (second : ℚ → ExecRun → ExecRun) (r : ExecRun) : Except ExecRun ExecRun :=
  if ¬ IsDuration timeout1 then .error r
  else
    match first r with
    | (r, none) => .ok r
    | (r, some filled) => if ¬ IsDuration timeout2 then .error r else .ok (second filled r)

def executeCexFirstTimed (config : ExecutorConfig) (legs : Legs) (r : ExecRun) :
    Except ExecRun ExecRun :=
  runFlowTimed config.leg1TimeoutSec config.leg2TimeoutSec (firstCexLeg config legs)
    (secondDexLeg config legs) (r.beginFlow "cex")

/-- The DEX leg has the second timeout here too. -/
def executeDexFirstTimed (config : ExecutorConfig) (legs : Legs) (r : ExecRun) :
    Except ExecRun ExecRun :=
  runFlowTimed config.leg2TimeoutSec config.leg1TimeoutSec (firstDexLeg legs)
    (secondCexLeg config legs) (r.beginFlow "dex")

def executeLegsTimed (config : ExecutorConfig) (legs : Legs) (r : ExecRun) :
    Except ExecRun ExecRun :=
  match r.ctx.signal.direction with
  | .buyDexSellCex => executeDexFirstTimed config legs r
  | .buyCexSellDex => executeCexFirstTimed config legs r

/-! ## A call -/

/-- The executor and what it shares: the tracker and the metrics are behind locks in the source,
    and the breaker and the replay protection are its own. -/
structure Executor where
  config : ExecutorConfig
  inventory : InventoryTracker
  circuitBreaker : CircuitBreaker
  replayProtection : ReplayProtection
  metrics : ExecutionMetrics

/-- The clock readings of one call, in the order in which they are taken. -/
structure ExecClock where
  started : ℚ
  breaker : ℚ
  replay : ℚ
  validity : ℚ
  mark : ℚ
  record : ℚ
  reopen : ℚ
  finished : ℚ

namespace Executor

/-- A missing configuration is the default one, and so is that of the breaker. A signal counts as a
    duplicate for 60 seconds. -/
def new (inventory : InventoryTracker) (config : Option ExecutorConfig)
    (metrics : ExecutionMetrics) : Executor :=
  let config := config.getD default
  { config := config
    inventory := inventory
    circuitBreaker := CircuitBreaker.new (some (config.cbConfig.getD default))
    replayProtection := ReplayProtection.new 60
    metrics := metrics }

/-- The section that ends a call's use of the breaker; asking `is_open` for the log can reset
    the breaker. -/
def recordOutcome (cb : CircuitBreaker) (state : ExecutorState) (record reopen : ℚ) :
    CircuitBreaker :=
  if state = .done then cb.recordSuccess else ((cb.recordFailure record).isOpen reopen).2

/-- A call turned away before its legs. -/
def refused (ex : Executor) (ctx : ExecutionContext) (error : ExecError)
    (trace : List ExecEvent) : ExecutionContext × Executor × List ExecEvent :=
  ({ ctx with state := .failed, error := some error },
    { ex with
      metrics := { ex.metrics with executionFailure := ex.metrics.executionFailure + 1 } },
    trace ++ [.entered .failed])

/-- The metrics a finished call counts. -/
def countOutcome (m : ExecutionMetrics) (ctx : ExecutionContext) : ExecutionMetrics :=
  if ctx.state = .done then
    { m with executionSuccess := m.executionSuccess + 1
             netPnl := m.netPnl ++ ctx.actualNetPnl.toList }
  else
    { m with executionFailure := m.executionFailure + 1 }

/-- `execute` up to its legs: the call is turned away, or its run begins. -/
def pastGates (ex : Executor) (clock : ExecClock) (signal : Signal) :
    Except (ExecutionContext × Executor × List ExecEvent) (Executor × ExecRun) :=
  let ex :=
    { ex with
      metrics := { ex.metrics with executionAttempts := ex.metrics.executionAttempts + 1 } }
  let ctx := ExecutionContext.new signal clock.started
  let (isOpen, cb) := ex.circuitBreaker.isOpen clock.breaker
  let ex := { ex with circuitBreaker := cb }
  -- The breaker that is asked is kept: asking can close it.
  if isOpen then .error (ex.refused ctx .circuitBreakerOpen [])
  else
    let (isDuplicate, rp) := ex.replayProtection.isDuplicate signal clock.replay
    let ex := { ex with replayProtection := rp }
    if isDuplicate then .error (ex.refused ctx .duplicateSignal [])
    else
      -- From here on the state has been assigned, so also an invalid signal leaves an event.
      let ctx := { ctx with state := .validating }
      if !signal.isValid clock.validity then
        .error (ex.refused ctx .signalInvalid [.entered .validating])
      else
        .ok (ex, { ctx := ctx, inventory := ex.inventory, metrics := ex.metrics,
                   trace := [.entered .validating] })

/-- `execute` after its legs. -/
def finish (ex : Executor) (clock : ExecClock) (signal : Signal) (r : ExecRun) :
    ExecutionContext × Executor × List ExecEvent :=
  let ctx := { r.ctx with finishedAt := some clock.finished }
  (ctx,
    { ex with
      inventory := r.inventory
      replayProtection := ex.replayProtection.markExecuted signal clock.mark
      circuitBreaker := recordOutcome ex.circuitBreaker ctx.state clock.record clock.reopen
      metrics := countOutcome r.metrics ctx },
    r.trace)

/-- A call whose leg timeouts are durations; `executeTimed` is for any others as well. -/
def execute (ex : Executor) (clock : ExecClock) (legs : Legs) (signal : Signal) :
    ExecutionContext × Executor × List ExecEvent :=
  match ex.pastGates clock signal with
  | .error turnedAway => turnedAway
  | .ok (ex, r) => ex.finish clock signal (executeLegs ex.config legs r)

/-- A call under any configuration. At a panic the executor stays as it is there: the attempt
    has been counted and a first leg may have been booked, and nothing after the legs is done. -/
def executeTimed (ex : Executor) (clock : ExecClock) (legs : Legs) (signal : Signal) :
    Except Executor (ExecutionContext × Executor × List ExecEvent) :=
  match ex.pastGates clock signal with
  | .error turnedAway => .ok turnedAway
  | .ok (ex, r) =>
      match executeLegsTimed ex.config legs r with
      | .error r => .error { ex with inventory := r.inventory, metrics := r.metrics }
      | .ok r => .ok (ex.finish clock signal r)

end Executor

end ArbEngine
