import ArbEngine.Proof.Executor.Flow

/-!
# What a finished context says

A call is done exactly when it is admitted and both its legs are taken (`execute_done_iff`).
Then the context holds the prices and sizes the two legs reported, the profit computed from
them is theirs whichever way the trade went (`calculatePnl_eq`), and in every other case it
holds no profit at all (`execute_context`).
-/

namespace ArbEngine

section Flows

variable {config : ExecutorConfig} {legs : Legs} {r : ExecRun}

/-- Both legs are taken, with these answers. -/
structure BothTaken (config : ExecutorConfig) (legs : Legs) (signal : Signal)
    (leg leg2 : LegResult) : Prop where
  first : firstReply legs signal = some leg
  takes : TakesFirst config signal leg
  second : secondReply legs signal leg.filled = some leg2
  success : leg2.success = true

/-- The profit of a trade whose first leg bought and whose second leg sold, after the flat fee
    of twenty basis points on the first. -/
def roundTripPnl (leg leg2 : LegResult) : ℚ :=
  (leg2.price - leg.price) * leg.filled - leg.filled * leg.price * (2 / 1000)

/-- What the context of a completed trade holds. -/
structure Settled (ctx : ExecutionContext) (leg leg2 : LegResult) : Prop where
  state : ctx.state = .done
  price1 : ctx.leg1FillPrice = some leg.price
  size1 : ctx.leg1FillSize = some leg.filled
  price2 : ctx.leg2FillPrice = some leg2.price
  size2 : ctx.leg2FillSize = some leg2.filled
  venue1 : ctx.leg1Venue = firstVenue ctx.signal.direction
  pnl : ctx.actualNetPnl = some (roundTripPnl leg leg2)

/-- What a context holds that is not done. -/
structure Unsettled (ctx : ExecutionContext) : Prop where
  state : ctx.state = .failed
  pnl : ctx.actualNetPnl = none

/-- **The two directions compute the same profit**: what the second leg got over the first. -/
theorem calculatePnl_eq {ctx : ExecutionContext} {leg leg2 : LegResult}
    (venue1 : ctx.leg1Venue = firstVenue ctx.signal.direction)
    (price1 : ctx.leg1FillPrice = some leg.price) (size1 : ctx.leg1FillSize = some leg.filled)
    (price2 : ctx.leg2FillPrice = some leg2.price) :
    calculatePnl ctx = roundTripPnl leg leg2 := by
  unfold calculatePnl roundTripPnl
  rw [price1, size1, price2, venue1]
  cases hdir : ctx.signal.direction with
  | buyCexSellDex => simp [firstVenue]
  | buyDexSellCex => simp [firstVenue]

/-- How a flow leaves its context. -/
def ContextOf (config : ExecutorConfig) (legs : Legs) (signal : Signal)
    (ctx : ExecutionContext) : Prop :=
  ctx.signal = signal ∧
    ((∃ leg leg2, BothTaken config legs signal leg leg2 ∧ Settled ctx leg leg2) ∨
      ((∀ leg leg2, ¬ BothTaken config legs signal leg leg2) ∧ Unsettled ctx))

theorem ContextOf.unsettled {signal : Signal} {ctx : ExecutionContext}
    (hsig : ctx.signal = signal) (hno : ∀ leg leg2, ¬ BothTaken config legs signal leg leg2)
    (hs : ctx.state = .failed) (hp : ctx.actualNetPnl = none) :
    ContextOf config legs signal ctx :=
  ⟨hsig, .inr ⟨hno, hs, hp⟩⟩

theorem ContextOf.settled {signal : Signal} {ctx : ExecutionContext} {leg leg2 : LegResult}
    (hsig : ctx.signal = signal) (both : BothTaken config legs signal leg leg2)
    (hs : ctx.state = .done) (price1 : ctx.leg1FillPrice = some leg.price)
    (size1 : ctx.leg1FillSize = some leg.filled) (price2 : ctx.leg2FillPrice = some leg2.price)
    (size2 : ctx.leg2FillSize = some leg2.filled)
    (venue1 : ctx.leg1Venue = firstVenue ctx.signal.direction)
    (pnl : ctx.actualNetPnl = some (calculatePnl ctx)) : ContextOf config legs signal ctx := by
  refine ⟨hsig, .inl ⟨leg, leg2, both, hs, price1, size1, price2, size2, venue1, ?_⟩⟩
  rw [pnl, calculatePnl_eq venue1 price1 size1 price2]

/-! The four ways in which the legs are not both taken. -/

theorem not_bothTaken_of_silent {signal : Signal} (h : firstReply legs signal = none) :
    ∀ leg leg2, ¬ BothTaken config legs signal leg leg2 := by
  intro leg leg2 both
  rw [both.first] at h
  cases h

theorem not_bothTaken_of_refused {signal : Signal} {leg : LegResult}
    (h : firstReply legs signal = some leg) (no : ¬ TakesFirst config signal leg) :
    ∀ leg' leg2, ¬ BothTaken config legs signal leg' leg2 := by
  intro leg' leg2 both
  rw [both.first] at h
  cases h
  exact no both.takes

theorem not_bothTaken_of_silentSecond {signal : Signal} {leg : LegResult}
    (h : firstReply legs signal = some leg) (h2 : secondReply legs signal leg.filled = none) :
    ∀ leg' leg2, ¬ BothTaken config legs signal leg' leg2 := by
  intro leg' leg2 both
  rw [both.first] at h
  cases h
  rw [both.second] at h2
  cases h2

theorem not_bothTaken_of_refusedSecond {signal : Signal} {leg leg2 : LegResult}
    (h : firstReply legs signal = some leg) (h2 : secondReply legs signal leg.filled = some leg2)
    (no : leg2.success = false) : ∀ leg' leg2', ¬ BothTaken config legs signal leg' leg2' := by
  intro leg' leg2' both
  rw [both.first] at h
  cases h
  rw [both.second] at h2
  cases h2
  rw [both.success] at no
  cases no

/-- The context at the end of a flow that begins on the exchange. The cases are the answers in
    their order: the first leg, its success, its fill ratio, and the second leg. -/
theorem executeCexFirst_context (hdir : r.ctx.signal.direction = .buyCexSellDex)
    (hpnl : r.ctx.actualNetPnl = none) :
    ContextOf config legs r.ctx.signal (executeCexFirst config legs r).ctx := by
  -- the replies by their place in the flow and not by their venue
  have hfst : legs.cex r.ctx.signal none = firstReply legs r.ctx.signal := by
    rw [firstReply, hdir]
  have hsnd : ∀ filled, legs.dex r.ctx.signal filled = secondReply legs r.ctx.signal filled := by
    intro filled
    rw [secondReply, hdir]
  have hvenue : "cex" = firstVenue r.ctx.signal.direction := by rw [hdir, firstVenue]
  unfold executeCexFirst runFlow firstCexLeg secondDexLeg
  simp only [ExecRun.beginFlow, ExecRun.enter, ExecRun.awaited, ExecRun.book, ExecRun.withError,
    ExecRun.countCexFailure, ExecRun.countDexFailure, ExecRun.unwound, hfst]
  cases hleg : firstReply legs r.ctx.signal with
  | none => exact .unsettled rfl (not_bothTaken_of_silent hleg) rfl hpnl
  | some leg =>
    cases hsucc : leg.success with
    | false =>
      have hno : ¬ TakesFirst config r.ctx.signal leg := not_takesFirst_of_failed hsucc
      simp only [hsucc, Bool.not_false, if_true]
      exact .unsettled rfl (not_bothTaken_of_refused hleg hno) rfl hpnl
    | true =>
      cases hfill : fillRatioBelow leg.filled r.ctx.signal.size config.minFillRatio with
      | true =>
        have hno : ¬ TakesFirst config r.ctx.signal leg := not_takesFirst_of_short hdir hfill
        simp only [hsucc, hfill, Bool.not_true, Bool.false_eq_true, if_false, if_true]
        exact .unsettled rfl (not_bothTaken_of_refused hleg hno) rfl hpnl
      | false =>
        have hyes : TakesFirst config r.ctx.signal leg := ⟨hsucc, fun _ => hfill⟩
        simp only [hsucc, hfill, Bool.not_true, Bool.false_eq_true, if_false, hsnd]
        cases hleg2 : secondReply legs r.ctx.signal leg.filled with
        | none => exact .unsettled rfl (not_bothTaken_of_silentSecond hleg hleg2) rfl hpnl
        | some leg2 =>
          cases hsucc2 : leg2.success with
          | false =>
            simp only [hsucc2, Bool.not_false, if_true]
            exact .unsettled rfl (not_bothTaken_of_refusedSecond hleg hleg2 hsucc2) rfl hpnl
          | true =>
            simp only [hsucc2, Bool.not_true, Bool.false_eq_true, if_false]
            exact .settled rfl ⟨hleg, hyes, hleg2, hsucc2⟩ rfl rfl rfl rfl rfl hvenue rfl

/-- The same of a flow that begins on the chain; it has no fill ratio to check. -/
theorem executeDexFirst_context (hdir : r.ctx.signal.direction = .buyDexSellCex)
    (hpnl : r.ctx.actualNetPnl = none) :
    ContextOf config legs r.ctx.signal (executeDexFirst config legs r).ctx := by
  have hfst : legs.dex r.ctx.signal r.ctx.signal.size = firstReply legs r.ctx.signal := by
    rw [firstReply, hdir]
  have hsnd : ∀ filled,
      legs.cex r.ctx.signal (some filled) = secondReply legs r.ctx.signal filled := by
    intro filled
    rw [secondReply, hdir]
  have hvenue : "dex" = firstVenue r.ctx.signal.direction := by rw [hdir, firstVenue]
  unfold executeDexFirst runFlow firstDexLeg secondCexLeg
  simp only [ExecRun.beginFlow, ExecRun.enter, ExecRun.awaited, ExecRun.book, ExecRun.withError,
    ExecRun.countCexFailure, ExecRun.countDexFailure, ExecRun.unwound, hfst]
  cases hleg : firstReply legs r.ctx.signal with
  | none => exact .unsettled rfl (not_bothTaken_of_silent hleg) rfl hpnl
  | some leg =>
    cases hsucc : leg.success with
    | false =>
      have hno : ¬ TakesFirst config r.ctx.signal leg := not_takesFirst_of_failed hsucc
      simp only [hsucc, Bool.not_false, if_true]
      exact .unsettled rfl (not_bothTaken_of_refused hleg hno) rfl hpnl
    | true =>
      -- success is all that is asked of this first leg
      have hyes : TakesFirst config r.ctx.signal leg := takesFirst_of_dexFirst hdir hsucc
      simp only [hsucc, Bool.not_true, Bool.false_eq_true, if_false, hsnd]
      cases hleg2 : secondReply legs r.ctx.signal leg.filled with
      | none => exact .unsettled rfl (not_bothTaken_of_silentSecond hleg hleg2) rfl hpnl
      | some leg2 =>
        cases hsucc2 : leg2.success with
        | false =>
          simp only [hsucc2, Bool.not_false, if_true]
          exact .unsettled rfl (not_bothTaken_of_refusedSecond hleg hleg2 hsucc2) rfl hpnl
        | true =>
          simp only [hsucc2, Bool.not_true, Bool.false_eq_true, if_false]
          exact .settled rfl ⟨hleg, hyes, hleg2, hsucc2⟩ rfl rfl rfl rfl rfl hvenue rfl

theorem executeLegs_context (config : ExecutorConfig) (legs : Legs) (r : ExecRun)
    (hpnl : r.ctx.actualNetPnl = none) :
    ContextOf config legs r.ctx.signal (executeLegs config legs r).ctx := by
  unfold executeLegs
  cases hdir : r.ctx.signal.direction with
  | buyDexSellCex => exact executeDexFirst_context hdir hpnl
  | buyCexSellDex => exact executeCexFirst_context hdir hpnl

end Flows

/-! ## A call -/

/-- The call is admitted, and both its legs are taken with these answers. -/
def Completes (ex : Executor) (clock : ExecClock) (legs : Legs) (signal : Signal)
    (leg leg2 : LegResult) : Prop :=
  Admitted ex clock signal ∧ BothTaken ex.config legs signal leg leg2

/-- The context of an execution that filled both legs in full. -/
def FilledInFull (signal : Signal) (ctx : ExecutionContext) : Prop :=
  ctx.state = .done ∧ ctx.leg1FillSize = some signal.size ∧ ctx.leg2FillSize = some signal.size

instance (signal : Signal) (ctx : ExecutionContext) : Decidable (FilledInFull signal ctx) := by
  unfold FilledInFull
  infer_instance

section Call

variable {ex : Executor} {clock : ExecClock} {legs : Legs} {signal : Signal}

/-- **What a call leaves in its context**: the trade both legs made, or nothing. -/
theorem execute_context (ex : Executor) (clock : ExecClock) (legs : Legs) (signal : Signal) :
    (ex.execute clock legs signal).1.signal = signal ∧
      ((∃ leg leg2, Completes ex clock legs signal leg leg2 ∧
          Settled (ex.execute clock legs signal).1 leg leg2) ∨
        ((∀ leg leg2, ¬ Completes ex clock legs signal leg leg2) ∧
          Unsettled (ex.execute clock legs signal).1)) := by
  by_cases hadm : Admitted ex clock signal
  · obtain ⟨hsig, hctx⟩ := executeLegs_context ex.config legs (ex.begun clock signal) rfl
    rw [execute_of_admitted legs hadm]
    refine ⟨hsig, ?_⟩
    rcases hctx with ⟨leg, leg2, both, hset⟩ | ⟨hno, huns⟩
    · refine .inl ⟨leg, leg2, ⟨hadm, both⟩, ?_⟩
      exact ⟨hset.state, hset.price1, hset.size1, hset.price2, hset.size2, hset.venue1, hset.pnl⟩
    · refine .inr ⟨?_, huns.state, huns.pnl⟩
      intro leg leg2 hcomp
      exact hno leg leg2 hcomp.2
  · obtain ⟨error, hctx⟩ := (execute_of_not_admitted legs hadm).ctx
    rw [hctx]
    refine ⟨rfl, .inr ⟨?_, rfl, rfl⟩⟩
    intro leg leg2 hcomp
    exact hadm hcomp.1

/-- A completed call holds the profit of its two legs. -/
theorem execute_completed {leg leg2 : LegResult} (h : Completes ex clock legs signal leg leg2) :
    Settled (ex.execute clock legs signal).1 leg leg2 := by
  rcases (execute_context ex clock legs signal).2 with ⟨leg', leg2', h', hset⟩ | ⟨hno, _⟩
  · have hfirst := h.2.first
    rw [h'.2.first] at hfirst
    cases hfirst
    have hsecond := h.2.second
    rw [h'.2.second] at hsecond
    cases hsecond
    exact hset
  · exact absurd h (hno leg leg2)

/-- **Done means completed.** -/
theorem execute_done_iff : (ex.execute clock legs signal).1.state = .done ↔
    ∃ leg leg2, Completes ex clock legs signal leg leg2 := by
  constructor
  · intro hdone
    rcases (execute_context ex clock legs signal).2 with ⟨leg, leg2, h, _⟩ | ⟨_, huns⟩
    · exact ⟨leg, leg2, h⟩
    · rw [huns.state] at hdone
      cases hdone
  · rintro ⟨leg, leg2, h⟩
    exact (execute_completed h).state

end Call

end ArbEngine
