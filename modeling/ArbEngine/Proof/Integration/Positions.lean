import ArbEngine.Proof.Executor.Books
import ArbEngine.Proof.Integration.Journal

/-!
# The position limits

`RiskLimits` has a largest position per token and a largest number of open positions. No
function reads either of them: `check_pre_trade` looks at the value of the trade, not at what
the tracker already holds. So the limits are kept in the runs whose trades happen to keep
them, and this module says which those are.

The position a full execution leaves is known before the call: what the buying venue held,
and the size less the fee (`position_of_full_fill`). An open position is what a first leg has
filled when the second is not taken, and nothing ever closes one. It is counted by what the
leg answered and not by the context: a first leg that fills too little, or part of an order
that ends otherwise than filled, leaves its fill unhedged as well, and the context is silent
about it.
-/

namespace ArbEngine

open ArbBot InventoryTracker

/-! ## Full and one-legged executions -/

/-- Where a trade in this direction buys; it is the venue of the first leg. -/
def buyVenue (direction : Direction) : Venue := venueOf (firstVenue direction)

/-- What the first leg of a call has filled, by its reply in the trace of the call. -/
def firstFill (signal : Signal) (steps : List ExecEvent) : ℚ :=
  (steps.findSome? fun e =>
    match e with
    | .awaited venue (some leg) =>
        if venue = buyVenue signal.direction then some leg.filled else none
    | _ => none).getD 0

/-- An execution whose first leg filled something and whose second did not follow. -/
def LeftOpen (signal : Signal) (ctx : ExecutionContext) (steps : List ExecEvent) : Prop :=
  ctx.state = .failed ∧ 0 < firstFill signal steps

instance (signal : Signal) (ctx : ExecutionContext) (steps : List ExecEvent) :
    Decidable (LeftOpen signal ctx steps) := by
  unfold LeftOpen
  infer_instance

/-- The legs of a call that leaves a position open: the first fills something, and either it is
    not taken itself or the second is not. -/
structure StandsAlone (ex : Executor) (clock : ExecClock) (legs : Legs) (signal : Signal)
    (leg : LegResult) : Prop where
  admitted : Admitted ex clock signal
  first : firstReply legs signal = some leg
  filled : 0 < leg.filled
  alone : TakesFirst ex.config signal leg →
    ∀ leg2, secondReply legs signal leg.filled = some leg2 → leg2.success = false

/-- What the buying venue holds of the base asset after a full execution. -/
def positionAfter (t : InventoryTracker) (signal : Signal) (base quote : String)
    (price : ℚ) : ℚ :=
  t.getBalance (buyVenue signal.direction) base + signal.size * (999 / 1000) -
    (if base = quote then signal.size * price else 0)

section Call

variable {ex : Executor} {clock : ExecClock} {legs : Legs} {signal : Signal}

theorem buyVenue_buys (direction : Direction) : legSide direction (buyVenue direction) = .buy := by
  cases direction <;> rfl

theorem secondVenue_ne_buyVenue (direction : Direction) :
    venueOf (secondVenue direction) ≠ buyVenue direction := by
  cases direction <;> decide

/-- **A full execution leaves the position that could be known before it.** -/
theorem position_of_full_fill {base quote : String}
    (hpair : splitPair signal.pair = [base, quote])
    (full : FilledInFull signal (ex.execute clock legs signal).1) :
    ∃ leg leg2, Completes ex clock legs signal leg leg2 ∧ leg.filled = signal.size ∧
      leg2.filled = signal.size ∧
      (ex.execute clock legs signal).2.1.inventory.getBalance (buyVenue signal.direction) base =
        positionAfter ex.inventory signal base quote leg.price := by
  obtain ⟨done, size1, size2⟩ := full
  obtain ⟨leg, leg2, completes⟩ := execute_done_iff.mp done
  rcases execute_cases ex clock legs signal with ⟨no, _⟩ | ⟨_, path, _, flow⟩
  · exact absurd completes.1 no
  · obtain ⟨leg', leg2', first, second, fill1, fill2, booked⟩ := flow.booked_both done
    rw [completes.2.first] at first
    cases first
    rw [completes.2.second] at second
    cases second
    have filled1 : leg.filled = signal.size := Option.some.inj (fill1.symm.trans size1)
    have filled2 : leg2.filled = signal.size := Option.some.inj (fill2.symm.trans size2)
    refine ⟨leg, leg2, completes, filled1, filled2, ?_⟩
    rw [booked]
    show InventoryTracker.free _ (buyVenue signal.direction, base) = _
    -- The second leg trades at the other venue.
    have second_zero : Ledger.net (fillPostings signal (venueOf (secondVenue signal.direction))
        leg2.filled leg2.price) (buyVenue signal.direction, base) = 0 :=
      net_fillPostings_other (secondVenue_ne_buyVenue signal.direction)
    rw [free_updateInventory, free_updateInventory, Ledger.postAll_apply, Ledger.postAll_apply,
      second_zero, add_zero]
    change _ + Ledger.net (fillPostings signal (buyVenue signal.direction) leg.filled leg.price)
      (buyVenue signal.direction, base) = _
    rw [net_fillPostings_bought hpair (buyVenue_buys signal.direction), filled1, ← add_sub_assoc]
    rfl

/-- What a failed flow has filled at its first leg. -/
theorem FlowEnd.alone {config : ExecutorConfig} {t t' : InventoryTracker}
    {path : List ExecEvent} {state : ExecutorState} {fill1 fill2 : Option ℚ}
    (h : FlowEnd config legs signal t path t' state fill1 fill2) (failed : state = .failed)
    (filled : 0 < firstFill signal path) :
    ∃ leg, firstReply legs signal = some leg ∧ 0 < leg.filled ∧
      (TakesFirst config signal leg →
        ∀ leg2, secondReply legs signal leg.filled = some leg2 → leg2.success = false) := by
  cases h with
  | silentFirst => exact absurd filled (lt_irrefl 0)
  | refusedFirst leg h no =>
    refine ⟨leg, h, ?_, fun yes => absurd yes no⟩
    simpa [firstFill, buyVenue] using filled
  | silentSecond leg h yes h2 =>
    refine ⟨leg, h, ?_, ?_⟩
    · simpa [firstFill, buyVenue] using filled
    · intro _ leg2 hleg2
      rw [h2] at hleg2
      cases hleg2
  | refusedSecond leg leg2 h yes h2 no =>
    refine ⟨leg, h, ?_, ?_⟩
    · simpa [firstFill, buyVenue] using filled
    · intro _ leg2' hleg2
      rw [h2] at hleg2
      cases hleg2
      exact no
  | finished => cases failed

/-- **A position is left open by a first leg that stands alone.** -/
theorem standsAlone_of_leftOpen (h : LeftOpen signal (ex.execute clock legs signal).1
    (ex.execute clock legs signal).2.2) : ∃ leg, StandsAlone ex clock legs signal leg := by
  obtain ⟨failed, filled⟩ := h
  rcases execute_cases ex clock legs signal with ⟨no, _, _, trace⟩ | ⟨admitted, path, trace, flow⟩
  · -- No leg is asked before the call is turned away.
    rcases trace with trace | trace
    · rw [trace] at filled
      exact absurd filled (lt_irrefl 0)
    · rw [trace] at filled
      exact absurd filled (lt_irrefl 0)
  · rw [trace] at filled
    obtain ⟨leg, first, positive, alone⟩ := flow.alone failed filled
    exact ⟨leg, admitted, first, positive, alone⟩

end Call

namespace BotRun

/-! ## The limits over a run -/

/-- The token a signal trades. -/
def baseOf (signal : Signal) : String := (splitPair signal.pair).headD ""

/-- The token of which an event leaves a first leg alone. -/
def openedBy : BotEvent → Option String
  | .executed signal ctx steps => if LeftOpen signal ctx steps then some (baseOf signal) else none
  | _ => none

/-- The tokens with an open position. -/
def openTokens (r : BotRun) : Finset String := (r.trace.filterMap openedBy).toFinset

/-- What one iteration executed in full leaves no position above the limit. -/
def PositionWithin (limits : RiskLimits) (r s : BotRun) : Prop :=
  ∀ signal ctx base quote, s.executions = r.executions ++ [(signal, ctx)] →
    FilledInFull signal ctx → splitPair signal.pair = [base, quote] →
      s.bot.sharedInventory.getBalance (buyVenue signal.direction) base * signal.cexPrice ≤
        limits.maxPositionPerToken

/-- **The trades that keep the position limits.** -/
structure RoomFor (limits : RiskLimits) (r t : BotRun) (env : TickEnv) (signal : Signal) :
    Prop where
  /-- If both legs fill in full, what is held afterwards is within the limit. -/
  position : ∀ leg leg2 base quote, splitPair signal.pair = [base, quote] →
    Completes (t.callee env) env.clock env.legs signal leg leg2 → leg.filled = signal.size →
      leg2.filled = signal.size →
        positionAfter t.bot.sharedInventory signal base quote leg.price * signal.cexPrice ≤
          limits.maxPositionPerToken
  /-- If the first leg stands alone, its token has an open position already or may have one. -/
  open_ : ∀ leg, StandsAlone (t.callee env) env.clock env.legs signal leg →
    baseOf signal ∈ r.openTokens ∨ r.openTokens.card < limits.maxOpenPositions

/-- An iteration that executes only trades there is room for. -/
def HasRoom (sqrt : ℚ → ℚ) (limits : RiskLimits) (r : BotRun) (env : LoopEnv) : Prop :=
  ∀ t signal, r.beforeTick env = .ok t → t.bot.tradingActive = true →
    Passed sqrt t env.tick signal → RoomFor limits r t env.tick signal

theorem openTokens_executed {t s : BotRun} {env : TickEnv} {signal : Signal}
    (h : Executed t env signal s) :
    s.openTokens = if LeftOpen signal (t.calling env signal).1 (t.calling env signal).2.2 then
      insert (baseOf signal) t.openTokens else t.openTokens := by
  unfold openTokens
  rw [h.trace, List.filterMap_append, List.toFinset_append]
  by_cases hopen : LeftOpen signal (t.calling env signal).1 (t.calling env signal).2.2
  · rw [if_pos hopen]
    ext token
    simp [openedBy, hopen]
  · rw [if_neg hopen]
    simp [openedBy, hopen]

theorem Framed.openTokens {r s : BotRun} (h : Framed r s) : s.openTokens = r.openTokens := by
  obtain ⟨events, hevents, harmless⟩ := h.trace
  have none : events.filterMap openedBy = [] := by
    rw [List.filterMap_eq_nil_iff]
    intro e he
    cases e with
    | executed signal ctx steps => exact absurd rfl ((harmless _ he).1 signal ctx steps)
    | _ => rfl
  unfold BotRun.openTokens
  rw [hevents, List.filterMap_append, none, List.append_nil]

theorem openTokens_dailyReset (r : BotRun) (env : ResetEnv) :
    (r.dailyReset env).openTokens = r.openTokens := by
  unfold dailyReset
  split <;> rfl

/-- **What one iteration with room does to the limits.** It leaves at most one position more open,
    and a trade that fills completely moves the position of its token to where there was room for
    it. -/
theorem limits_step {sqrt : ℚ → ℚ} {limits : RiskLimits} {r s : BotRun} {env : LoopEnv}
    (below : r.openTokens.card ≤ limits.maxOpenPositions) (room : HasRoom sqrt limits r env)
    (h : r.loopStep sqrt env = some s) :
    s.openTokens.card ≤ limits.maxOpenPositions ∧ PositionWithin limits r s := by
  obtain ⟨t, ht, framed, ticked⟩ := loopStep_cases h
  have same : t.executions = r.executions := by
    rw [framed.executions, dailyReset_executions]
  have tokens : t.openTokens = r.openTokens := by
    rw [framed.openTokens, openTokens_dailyReset]
  cases ticked with
  | idle hf =>
    have unchanged : s.executions = r.executions := hf.executions.trans same
    refine ⟨?_, ?_⟩
    · rw [hf.openTokens, tokens]
      exact below
    · intro signal ctx base quote happ
      rw [unchanged] at happ
      cases List.append_right_eq_self.mp happ.symm
  | traded signal active passed executed =>
    have fits := room t signal ht active passed
    have added : s.executions = r.executions ++ [(signal, (t.calling env.tick signal).1)] := by
      rw [executed.executions, same]
    refine ⟨?_, ?_⟩
    · rw [openTokens_executed executed, tokens]
      split
      · rename_i left
        obtain ⟨leg, alone⟩ := standsAlone_of_leftOpen left
        -- the token is among the open ones already, or there is room for one more
        rcases fits.open_ leg alone with already | free
        · rw [Finset.insert_eq_self.mpr already]
          exact below
        · exact (Finset.card_insert_le _ _).trans free
      · exact below
    · intro signal' ctx base quote happ full hpair
      rw [added] at happ
      cases List.append_cancel_left happ
      obtain ⟨leg, leg2, completes, filled1, filled2, after⟩ := position_of_full_fill hpair full
      rw [executed.inventory]
      rw [calling, after]
      exact fits.position leg leg2 base quote hpair completes filled1 filled2

section Runs

variable {sqrt : ℚ → ℚ} {config : BotConfig} {start₀ : StartEnv} {b : ArbBot} {t₀ t₁ t₂ : ℚ}
  {envs : List LoopEnv} {r : BotRun}

/-- **The position limits are kept** in every run that executes only trades there is room
    for. -/
theorem position_limits_kept (limits : RiskLimits)
    (run : GuardedRun (loopStep sqrt) (HasRoom sqrt limits) (start b t₀ t₁ t₂) envs r) :
    r.openTokens.card ≤ limits.maxOpenPositions ∧
      ∀ env s, HasRoom sqrt limits r env → r.loopStep sqrt env = some s →
        PositionWithin limits r s := by
  have below : r.openTokens.card ≤ limits.maxOpenPositions := by
    apply run.invariant (I := fun r => r.openTokens.card ≤ limits.maxOpenPositions)
    · intro r s env below room h
      exact (limits_step below room h).1
    · exact Nat.zero_le _
  refine ⟨below, ?_⟩
  intro env s room h
  exact (limits_step below room h).2

end Runs

/-! ## Two trades -/

/-- Full fills, or a first leg of this size that stands alone. -/
def aloneLegs (filled price : ℚ) : Legs :=
  sampleLegs (some { sampleLeg true filled with price := price }) none

/-- Nineteen dollars of ether, both legs filled. -/
def firstTrade : LoopEnv := sampleTrade 1 "a" (simulationLegs default 1 1 0)

/-- The same again; the exchange reports what the first trade has left there. -/
def secondTrade : LoopEnv :=
  { sampleTrade 2 "b" (simulationLegs default 1 1 0) with
    sync := { (sampleTrade 2 "b" (simulationLegs default 1 1 0)).sync with
      cexBalances := .ok [⟨"USDT", ExchangeBalance.ofRaw "USDT" 8100000000#256 0#256⟩,
        ⟨"ETH", ExchangeBalance.ofRaw "ETH" 949050#256 0#256⟩].toAList } }

/-- Nine and a half dollars of another token, of which the first leg fills one half: too little
    for the trade to go on. -/
def pepeTrade : LoopEnv :=
  { sampleTrade 2 "b" (aloneLegs 475000 (1 / 100000)) with
    tick := { (sampleTrade 2 "b" (aloneLegs 475000 (1 / 100000))).tick with
      candidates := [{ sampleSpread 2 with
        signalId := "b"
        pair := "PEPE/USDT"
        cexPrice := 1 / 100000
        dexPrice := 1045 / 100000000
        size := 950000 }] } }

/-- There is room for the first trade. -/
theorem sample_first_trade_within :
    ∃ b r s, ArbBot.new (sampleLimited default) sampleStart = .ok b ∧ r = start b 0 0 0 ∧
      r.loopStep (fun _ => 0) firstTrade = some s ∧ s.executions.length = 1 ∧
      PositionWithin (sampleLimited default).strategy.riskLimits r s := by
  have traded : (sampleJournal default [firstTrade]).map (fun j => j.run.executions.length) =
      some 1 := by
    decide +kernel
  obtain ⟨j, hj, one⟩ := Option.map_eq_some_iff.mp traded
  obtain ⟨b, made, run⟩ := sampleJournal_inv hj
  obtain ⟨j₁, first, run⟩ := Option.bind_eq_some_iff.mp run
  cases run
  -- the signal of the first trade, and what is held of its token before
  have seen : (sampleJournal default []).bind (fun j =>
      (j.run.beforeTick firstTrade).toOption.bind fun t =>
        (t.bot.scorer.ranked t.bot.sharedInventory firstTrade.tick.candidates).head?.map
          fun signal => (splitPair signal.pair, signal.size, signal.cexPrice,
            t.bot.sharedInventory.getBalance (buyVenue signal.direction) "WETH")) =
        some (["WETH", "USDT"], 95 / 10000, 2000, 0) := by
    decide +kernel
  have room : HasRoom (fun _ => 0) (sampleLimited default).strategy.riskLimits (start b 0 0 0)
      firstTrade := by
    intro t signal ht _ passed
    have begun : sampleJournal default [] = some (Journal.start (start b 0 0 0)) := by
      rw [sampleJournal, made]
      rfl
    rw [begun, Option.bind_some] at seen
    change ((start b 0 0 0).beforeTick firstTrade).toOption.bind _ = _ at seen
    rw [Outcome.toOption_eq_some.mpr ht, Option.bind_some, passed.best, Option.map_some,
      Option.some.injEq, Prod.mk.injEq, Prod.mk.injEq, Prod.mk.injEq] at seen
    obtain ⟨hpair, hsize, hprice, hheld⟩ := seen
    constructor
    · intro leg leg2 base quote hsplit _ _ _
      rw [hpair] at hsplit
      cases hsplit
      unfold positionAfter
      rw [hheld, hsize, hprice, if_neg (by decide)]
      decide +kernel
    · intro leg _
      right
      exact Nat.zero_lt_one
  have begun : GuardedRun (loopStep fun _ => 0)
      (HasRoom (fun _ => 0) (sampleLimited default).strategy.riskLimits) (start b 0 0 0) []
      (start b 0 0 0) := .nil _
  have kept := position_limits_kept (sampleLimited default).strategy.riskLimits begun
  exact ⟨b, _, j.run, made, rfl, Journal.bot_step first, one,
    kept.2 firstTrade j.run room (Journal.bot_step first)⟩

/-- **Neither limit is looked at.** The second trade of nineteen dollars leaves 37.96 dollars
    of ether on the exchange, with a limit of thirty; and a first leg without a second and one
    that fills too little leave two tokens with an open position, with a limit of one. -/
theorem sample_limits_not_kept :
    (∃ b r s, ArbBot.new (sampleLimited default) sampleStart = .ok b ∧
      Run (loopStep fun _ => 0) (start b 0 0 0) [firstTrade] r ∧
      r.loopStep (fun _ => 0) secondTrade = some s ∧
      ¬ PositionWithin (sampleLimited default).strategy.riskLimits r s) ∧
    (∃ b s, ArbBot.new (sampleLimited default) sampleStart = .ok b ∧
      Run (loopStep fun _ => 0) (start b 0 0 0)
        [sampleTrade 1 "a" (aloneLegs (95 / 10000) 2000), pepeTrade] s ∧
      (sampleLimited default).strategy.riskLimits.maxOpenPositions < s.openTokens.card) := by
  constructor
  · have seen : (sampleJournal default [firstTrade, secondTrade]).bind (fun j =>
        j.run.executions.getLast?.map fun e =>
          (splitPair e.1.pair, e.1.cexPrice, decide (FilledInFull e.1 e.2),
            j.run.bot.sharedInventory.getBalance (buyVenue e.1.direction) "WETH",
            j.run.executions.length)) =
        some (["WETH", "USDT"], 2000, true, 18981 / 1000000, 2) := by
      decide +kernel
    obtain ⟨k, hk, seen⟩ := Option.bind_eq_some_iff.mp seen
    obtain ⟨b, j, made, first, second, one⟩ := sampleJournal_two hk
    have before : (sampleJournal default [firstTrade]).map (fun j => j.run.executions.length) =
        some 1 := by
      decide +kernel
    rw [one, Option.map_some, Option.some.injEq] at before
    refine ⟨b, j.run, k.run, made, .single trivial (Journal.bot_step first),
      Journal.bot_step second, ?_⟩
    intro within
    obtain ⟨t, _, framed, ticked⟩ := loopStep_cases (Journal.bot_step second)
    have same : t.executions = j.run.executions := by
      rw [framed.executions, dailyReset_executions]
    cases ticked with
    | idle hf =>
      -- Two executions after the second iteration, one before it.
      have unchanged : k.run.executions = j.run.executions := hf.executions.trans same
      obtain ⟨e, _, hlast⟩ := Option.map_eq_some_iff.mp seen
      have two : k.run.executions.length = 2 := congrArg (fun x => x.2.2.2.2) hlast
      rw [unchanged, before] at two
      cases two
    | traded signal active passed executed =>
      have added := executed.executions
      rw [same] at added
      rw [added, List.getLast?_concat, Option.map_some, Option.some.injEq, Prod.mk.injEq,
        Prod.mk.injEq, Prod.mk.injEq, Prod.mk.injEq] at seen
      obtain ⟨hpair, hprice, hfull, hheld, _⟩ := seen
      have le := within signal _ "WETH" "USDT" added (of_decide_eq_true hfull) hpair
      rw [hheld, hprice] at le
      revert le
      decide +kernel
  · have seen : (sampleJournal default
        [sampleTrade 1 "a" (aloneLegs (95 / 10000) 2000), pepeTrade]).map (fun j =>
          j.run.openTokens.card) = some 2 := by
      decide +kernel
    obtain ⟨k, hk, two⟩ := Option.map_eq_some_iff.mp seen
    obtain ⟨b, j, made, first, second, _⟩ := sampleJournal_two hk
    refine ⟨b, k.run, made, ?_, ?_⟩
    · exact .cons trivial (Journal.bot_step first) (.single trivial (Journal.bot_step second))
    · rw [two]
      exact Nat.lt_succ_self 1

end BotRun

end ArbEngine
