import ArbEngine.Proof.Executor.Flow
import ArbEngine.Proof.Inventory.TrackerLedger

/-!
# What an execution books

A leg that answers reports a fill; a flow books it only on the branches that go on. The
difference shows up on the branches that turn back: a refused leg may have filled
something, and a leg that stood when its counterpart failed stays booked.

* `books_every_fill_iff` — the books follow the reported fills exactly when no refused leg
  had filled anything (or what it filled leaves no mark on the books).
* `position_neutral_iff` — an execution that failed after its first leg is position-neutral
  exactly when that leg moved nothing: `unwind` moves nothing back.

Both statements are read off the five ends of a flow (`FlowEnd`), account by account: what was
booked on one side, what was reported or what was there before on the other.
-/

namespace ArbEngine

open InventoryTracker

/-! ## Reported fills -/

/-- The postings of the fill an event reports. -/
def reportPostings (signal : Signal) : ExecEvent → List ((Venue × String) × ℚ)
  | .awaited venue (some leg) =>
      if 0 < leg.filled then fillPostings signal venue leg.filled leg.price else []
  | _ => []

/-- The postings of every positive fill that a leg reported in time. -/
def reportedPostings (signal : Signal) (trace : List ExecEvent) :
    List ((Venue × String) × ℚ) :=
  trace.flatMap (reportPostings signal)

/-- The postings of the fills that were booked. -/
def bookedPostings (signal : Signal) (trace : List ExecEvent) : List ((Venue × String) × ℚ) :=
  trace.flatMap fun
    | .booked venue size price => fillPostings signal venue size price
    | _ => []

/-- **The tracker moves by the reported fills and by nothing else.** -/
def BooksEveryFill (ex : Executor) (clock : ExecClock) (legs : Legs) (signal : Signal) : Prop :=
  (ex.execute clock legs signal).2.1.inventory.free =
      Ledger.postAll ex.inventory.free
        (reportedPostings signal (ex.execute clock legs signal).2.2) ∧
    (ex.execute clock legs signal).2.1.inventory.locked = ex.inventory.locked

/-- Booking the fill or not makes no difference: it is empty, or trades an asset against
    itself at the price that pays for the fee. -/
def LeavesNoMark (signal : Signal) (venueStr : String) (leg : LegResult) : Prop :=
  leg.filled = 0 ∨
    ∃ asset, splitPair signal.pair = [asset, asset] ∧
      PaysItsFee (legSide signal.direction (venueOf venueStr)) leg.price

/-- No leg that an admitted call refuses has filled anything that leaves a mark. -/
def RefusedLegsAreEmpty (ex : Executor) (clock : ExecClock) (legs : Legs) (signal : Signal) :
    Prop :=
  Admitted ex clock signal → ∀ leg, firstReply legs signal = some leg →
    (TakesFirst ex.config signal leg ∨
        LeavesNoMark signal (firstVenue signal.direction) leg) ∧
      (TakesFirst ex.config signal leg → ∀ leg2, secondReply legs signal leg.filled = some leg2 →
        leg2.success = true ∨ LeavesNoMark signal (secondVenue signal.direction) leg2)

section Events

variable {signal : Signal} {venue : Venue} {size price : ℚ} {reply : Option LegResult}
  {state : ExecutorState} {trace : List ExecEvent}

@[simp] theorem reportedPostings_nil : reportedPostings signal [] = [] := rfl

@[simp] theorem reportedPostings_entered :
    reportedPostings signal (.entered state :: trace) = reportedPostings signal trace := rfl

@[simp] theorem reportedPostings_booked :
    reportedPostings signal (.booked venue size price :: trace) = reportedPostings signal trace :=
  rfl

@[simp] theorem reportedPostings_unwound :
    reportedPostings signal (.unwound :: trace) = reportedPostings signal trace := rfl

@[simp] theorem reportedPostings_silent :
    reportedPostings signal (.awaited venue none :: trace) = reportedPostings signal trace := rfl

/-- An answer of a leg counts with what it reports; the other events report nothing. -/
theorem reportedPostings_awaited :
    reportedPostings signal (.awaited venue reply :: trace) =
      reportPostings signal (.awaited venue reply) ++ reportedPostings signal trace := rfl

@[simp] theorem bookedPostings_nil : bookedPostings signal [] = [] := rfl

@[simp] theorem bookedPostings_entered :
    bookedPostings signal (.entered state :: trace) = bookedPostings signal trace := rfl

@[simp] theorem bookedPostings_awaited :
    bookedPostings signal (.awaited venue reply :: trace) = bookedPostings signal trace := rfl

@[simp] theorem bookedPostings_booked :
    bookedPostings signal (.booked venue size price :: trace) =
      fillPostings signal venue size price ++ bookedPostings signal trace := rfl

@[simp] theorem bookedPostings_unwound :
    bookedPostings signal (.unwound :: trace) = bookedPostings signal trace := rfl

end Events

section Fills

variable {signal : Signal} {venue : Venue} {leg : LegResult} {base quote : String}
  {k : Venue × String}

/-- A fill of nothing moves no account, whatever the pair and the side. -/
theorem net_fillPostings_zero {price : ℚ} :
    Ledger.net (fillPostings signal venue 0 price) k = 0 := by
  unfold fillPostings
  generalize splitPair signal.pair = parts
  rcases parts with _ | ⟨base, _ | ⟨quote, _ | ⟨third, rest⟩⟩⟩
  · rfl
  · rfl
  · cases legSide signal.direction venue <;> simp [tradePostings]
  · rfl

/-- An empty fill nets to nothing, so reports count as if every one of them were posted. -/
theorem net_reportPostings (h : 0 ≤ leg.filled) :
    Ledger.net (reportPostings signal (.awaited venue (some leg))) k =
      Ledger.net (fillPostings signal venue leg.filled leg.price) k := by
  show Ledger.net (if 0 < leg.filled then _ else _) k = _
  by_cases hpos : 0 < leg.filled
  · rw [if_pos hpos]
  · have hzero : leg.filled = 0 := le_antisymm (not_lt.mp hpos) h
    rw [if_neg hpos, hzero, net_fillPostings_zero]
    rfl

/-- A reported fill that is not negative counts in full. -/
theorem net_reportedPostings (h : 0 ≤ leg.filled) {trace : List ExecEvent} :
    Ledger.net (reportedPostings signal (.awaited venue (some leg) :: trace)) k =
      Ledger.net (fillPostings signal venue leg.filled leg.price) k +
        Ledger.net (reportedPostings signal trace) k := by
  rw [reportedPostings_awaited, Ledger.net_append, net_reportPostings h]

/-- A refused fill that is not booked makes no difference exactly where its postings cancel on
    every account. -/
theorem leavesNoMark_iff (hpair : splitPair signal.pair = [base, quote]) {venueStr : String} :
    LeavesNoMark signal venueStr leg ↔
      ∀ k, Ledger.net (fillPostings signal (venueOf venueStr) leg.filled leg.price) k = 0 := by
  rw [net_fillPostings_eq_zero_iff hpair, LeavesNoMark]
  constructor
  · rintro (h | ⟨asset, hasset, hp⟩)
    · exact Or.inl h
    · rw [hpair] at hasset
      obtain ⟨rfl, hrest⟩ := List.cons.inj hasset
      exact Or.inr ⟨(List.cons.inj hrest).1.symm, hp⟩
  · rintro (h | ⟨rfl, hp⟩)
    · exact Or.inl h
    · exact Or.inr ⟨base, hpair, hp⟩

end Fills

/-- A flow does to the books what it booked, in the order of its trace. Locked amounts are not
    touched by it. -/
theorem FlowEnd.free_eq {config : ExecutorConfig} {legs : Legs} {signal : Signal}
    {t t' : InventoryTracker} {path : List ExecEvent} {state : ExecutorState}
    {fill1 fill2 : Option ℚ} (h : FlowEnd config legs signal t path t' state fill1 fill2) :
    t'.free = Ledger.postAll t.free (bookedPostings signal path) ∧ t'.locked = t.locked := by
  cases h with
  | silentFirst => exact ⟨rfl, rfl⟩
  | refusedFirst => exact ⟨rfl, rfl⟩
  | silentSecond | refusedSecond =>
    refine ⟨?_, locked_updateInventory⟩
    rw [free_updateInventory]
    simp
  | finished =>
    refine ⟨?_, by rw [locked_updateInventory, locked_updateInventory]⟩
    rw [free_updateInventory, free_updateInventory, ← Ledger.postAll_append]
    simp

/-- **No reported fill is lost exactly when no refused leg had filled anything.** -/
theorem books_every_fill_iff (ex : Executor) (clock : ExecClock) (legs : Legs) (signal : Signal)
    (base quote : String) (hpair : splitPair signal.pair = [base, quote])
    (hcex : ∀ size leg, legs.cex signal size = some leg → 0 ≤ leg.filled)
    (hdex : ∀ size leg, legs.dex signal size = some leg → 0 ≤ leg.filled) :
    BooksEveryFill ex clock legs signal ↔ RefusedLegsAreEmpty ex clock legs signal := by
  -- a leg that is asked on either side fills no negative amount, and so do the two in their order
  have hfirst : ∀ leg, firstReply legs signal = some leg → 0 ≤ leg.filled := by
    intro leg hleg
    unfold firstReply at hleg
    split at hleg
    · exact hcex _ _ hleg
    · exact hdex _ _ hleg
  have hsecond : ∀ filled leg, secondReply legs signal filled = some leg → 0 ≤ leg.filled := by
    intro filled leg hleg
    unfold secondReply at hleg
    split at hleg
    · exact hdex _ _ hleg
    · exact hcex _ _ hleg
  unfold BooksEveryFill RefusedLegsAreEmpty
  rcases execute_cases ex clock legs signal with
    ⟨hno, _, hinv, htrace⟩ | ⟨hadm, path, htrace, hend⟩
  · -- Turned away: no leg was awaited and the tracker is the old one.
    refine iff_of_true ⟨?_, by rw [hinv]⟩ (fun h => absurd h hno)
    rw [hinv]
    rcases htrace with htrace | htrace <;> rw [htrace] <;> rfl
  · -- A flow ran: compare what it booked with what was reported, account by account.
    obtain ⟨hfree, hlocked⟩ := hend.free_eq
    rw [htrace, hfree, hlocked, Ledger.postAll_eq_iff]
    simp only [and_true]
    simp only [reportedPostings_entered]
    generalize (ex.execute clock legs signal).1.state = state at hend
    generalize (ex.execute clock legs signal).1.leg1FillSize = fill1 at hend
    generalize (ex.execute clock legs signal).1.leg2FillSize = fill2 at hend
    generalize (ex.execute clock legs signal).2.1.inventory = t' at hend
    cases hend with
    | silentFirst h =>
      refine iff_of_true (fun k => rfl) ?_
      intro _ leg hleg
      rw [h] at hleg
      cases hleg
    | refusedFirst leg h no =>
      -- The refused fill is all that was reported, and nothing was booked.
      simp only [reportedPostings_entered, reportedPostings_nil,
        net_reportedPostings (hfirst leg h), bookedPostings_entered, bookedPostings_awaited,
        bookedPostings_nil, Ledger.net_nil, add_zero]
      constructor
      · intro hmark _ leg' hleg
        rw [h] at hleg
        cases hleg
        exact ⟨Or.inr ((leavesNoMark_iff hpair).mpr fun k => (hmark k).symm),
          fun yes => absurd yes no⟩
      · intro hcond k
        have hmark := (hcond hadm leg h).1.resolve_left no
        exact ((leavesNoMark_iff hpair).mp hmark k).symm
    -- the second leg did not answer in time, so there is nothing of it to book
    | silentSecond leg h yes h2 =>
      refine iff_of_true (fun k => ?_) ?_
      · simp [net_reportedPostings (hfirst leg h)]
      · intro _ leg' hleg
        rw [h] at hleg
        cases hleg
        refine ⟨Or.inl yes, fun _ leg2 hleg2 => ?_⟩
        rw [h2] at hleg2
        cases hleg2
    | refusedSecond leg leg2 h yes h2 no =>
      -- The first fill is on both sides; the refused one is only reported.
      simp only [reportedPostings_entered, reportedPostings_booked, reportedPostings_unwound,
        reportedPostings_nil, net_reportedPostings (hfirst leg h),
        net_reportedPostings (hsecond _ leg2 h2), bookedPostings_entered, bookedPostings_awaited,
        bookedPostings_booked, bookedPostings_unwound, bookedPostings_nil, Ledger.net_append,
        Ledger.net_nil, add_zero]
      constructor
      · intro hmark _ leg' hleg
        rw [h] at hleg
        cases hleg
        refine ⟨Or.inl yes, fun _ leg2' hleg2 => ?_⟩
        rw [h2] at hleg2
        cases hleg2
        refine Or.inr ((leavesNoMark_iff hpair).mpr fun k => ?_)
        have := hmark k
        linarith
      · intro hcond k
        have hmark := ((hcond hadm leg h).2 yes leg2 h2).resolve_left (by rw [no]; decide)
        have := (leavesNoMark_iff hpair).mp hmark k
        linarith
    | finished leg leg2 h yes h2 yes2 =>
      refine iff_of_true (fun k => ?_) ?_
      · simp [net_reportedPostings (hfirst leg h), net_reportedPostings (hsecond _ leg2 h2)]
      · intro _ leg' hleg
        rw [h] at hleg
        cases hleg
        refine ⟨Or.inl yes, fun _ leg2' hleg2 => ?_⟩
        rw [h2] at hleg2
        cases hleg2
        exact Or.inl yes2

/-- Two full fills are both booked. No leg is refused here, so there is nothing to compare. -/
theorem sample_full_fills_booked :
    BooksEveryFill sampleExecutor sampleClock
      (sampleLegs (some (sampleLeg true 1)) (some (sampleLeg true 1)))
      (sampleSignal .buyCexSellDex) := by
  refine (books_every_fill_iff _ _ _ _ "ETH" "USDT" (splitPair_sample _) ?_ ?_).mpr ?_
  · intro size leg hleg
    cases hleg
    decide +kernel
  · intro size leg hleg
    cases hleg
    decide +kernel
  · intro _ leg hleg
    cases hleg
    refine ⟨Or.inl (by decide +kernel), fun _ leg2 hleg2 => ?_⟩
    cases hleg2
    exact Or.inl rfl

/-- An order that expired half filled is reported and not booked. -/
theorem sample_expired_order_not_booked :
    ¬ BooksEveryFill sampleExecutor sampleClock
      (sampleLegs (some (sampleLeg false (1 / 2))) none) (sampleSignal .buyCexSellDex) := by
  intro h
  have hbase := congrFun h.1 (.cex, "ETH")
  revert hbase
  decide +kernel

/-! ## Unwinding -/

/-- The free balance of an asset over both venues. -/
def totalFree (t : InventoryTracker) (asset : String) : ℚ :=
  t.free (.cex, asset) + t.free (.wallet, asset)

/-- The fee in this asset that an event records. -/
def feeBooked (signal : Signal) (asset : String) : ExecEvent → ℚ
  | .booked venue size price =>
      match splitPair signal.pair, legSide signal.direction venue with
      | [base, _], .buy => if asset = base then size * (1 / 1000) else 0
      | [_, quote], .sell => if asset = quote then size * price * (1 / 1000) else 0
      | _, _ => 0
  | _ => 0

def feesBooked (signal : Signal) (trace : List ExecEvent) (asset : String) : ℚ :=
  (trace.map (feeBooked signal asset)).sum

/-- **A call that failed after entering `Unwinding` has left both totals where they were**, up
    to the fees it recorded. -/
def PositionNeutral (ex : Executor) (clock : ExecClock) (legs : Legs) (signal : Signal) : Prop :=
  (ex.execute clock legs signal).1.state = .failed →
    .entered .unwinding ∈ (ex.execute clock legs signal).2.2 →
      ∀ asset ∈ splitPair signal.pair,
        totalFree (ex.execute clock legs signal).2.1.inventory asset +
            feesBooked signal (ex.execute clock legs signal).2.2 asset =
          totalFree ex.inventory asset

/-- A first leg that stands alone has filled nothing, or traded an asset against itself at
    price 1. -/
def StandingLegIsEmpty (ex : Executor) (clock : ExecClock) (legs : Legs) (signal : Signal) :
    Prop :=
  Admitted ex clock signal → ∀ leg, firstReply legs signal = some leg →
    TakesFirst ex.config signal leg →
      (∀ leg2, secondReply legs signal leg.filled = some leg2 → leg2.success = false) →
        leg.filled = 0 ∨ ∃ asset, splitPair signal.pair = [asset, asset] ∧ leg.price = 1

/-- The fee of a booked fill is paid in what the venue hands out: the base asset of a buy, the
    quote asset of a sale. -/
theorem feeBooked_booked {signal : Signal} {base quote : String}
    (hpair : splitPair signal.pair = [base, quote]) {venue : Venue} {filled price : ℚ}
    {asset : String} :
    feeBooked signal asset (.booked venue filled price) =
      match legSide signal.direction venue with
      | .buy => if asset = base then filled * (1 / 1000) else 0
      | .sell => if asset = quote then filled * price * (1 / 1000) else 0 := by
  show (match splitPair signal.pair, legSide signal.direction venue with
    | [base, _], .buy => if asset = base then filled * (1 / 1000) else 0
    | [_, quote], .sell => if asset = quote then filled * price * (1 / 1000) else 0
    | _, _ => 0) = _
  rw [hpair]
  cases legSide signal.direction venue <;> rfl

/-- What a fill does to the two totals of an asset, its fee added back. -/
theorem total_fillPostings {signal : Signal} {base quote : String}
    (hpair : splitPair signal.pair = [base, quote]) {venue : Venue} {filled price : ℚ}
    {asset : String} :
    Ledger.net (fillPostings signal venue filled price) (.cex, asset) +
        Ledger.net (fillPostings signal venue filled price) (.wallet, asset) +
        feeBooked signal asset (.booked venue filled price) =
      match legSide signal.direction venue with
      | .buy => (if asset = base then filled else 0) - (if asset = quote then filled * price else 0)
      | .sell => (if asset = quote then filled * price else 0) - (if asset = base then filled else 0) := by
  rw [net_fillPostings hpair, net_fillPostings hpair, feeBooked_booked hpair]
  have hbase : ∀ v : Venue, (venue, base) = (v, asset) ↔ venue = v ∧ asset = base := by
    intro v
    rw [Prod.mk.injEq, eq_comm (a := base)]
  have hquote : ∀ v : Venue, (venue, quote) = (v, asset) ↔ venue = v ∧ asset = quote := by
    intro v
    rw [Prod.mk.injEq, eq_comm (a := quote)]
  -- a buy and a sale on either venue, with the names of the two assets equal or not
  generalize legSide signal.direction venue = side
  cases side <;> cases venue <;> simp [hbase, hquote] <;> split_ifs <;> ring

/-- **Booking a fill is position-neutral** only for an empty fill, or an asset against itself at
    price 1. Otherwise the base asset moves by what was filled, and nothing moves it back. -/
theorem total_fillPostings_eq_zero_iff {signal : Signal} {base quote : String}
    (hpair : splitPair signal.pair = [base, quote]) (venue : Venue) {filled price : ℚ} :
    (∀ asset ∈ splitPair signal.pair,
      Ledger.net (fillPostings signal venue filled price) (.cex, asset) +
          Ledger.net (fillPostings signal venue filled price) (.wallet, asset) +
          feeBooked signal asset (.booked venue filled price) = 0) ↔
      filled = 0 ∨ ∃ asset, splitPair signal.pair = [asset, asset] ∧ price = 1 := by
  simp only [total_fillPostings hpair]
  rw [hpair]
  constructor
  · intro h
    have hbase := h base List.mem_cons_self
    -- with one asset on both sides the fill and its cost are to cancel
    by_cases heq : base = quote
    · subst heq
      have hfac : filled * (price - 1) = 0 := by
        cases hside : legSide signal.direction venue <;> rw [hside] at hbase <;>
          simp only [if_true] at hbase <;> linarith
      rcases mul_eq_zero.mp hfac with h0 | hp
      · exact Or.inl h0
      · exact Or.inr ⟨base, rfl, by linarith⟩
    · refine Or.inl ?_
      cases hside : legSide signal.direction venue <;> rw [hside] at hbase <;>
        simp only [if_true, if_neg heq] at hbase <;> linarith
  · rintro (rfl | ⟨asset, hasset, rfl⟩) a _
    · cases legSide signal.direction venue <;> simp
    · obtain ⟨rfl, hrest⟩ := List.cons.inj hasset
      obtain ⟨rfl, _⟩ := List.cons.inj hrest
      cases legSide signal.direction venue <;> simp

/-- What a flow does whose second leg answers `reply` and is not taken. -/
def unwoundPath (signal : Signal) (leg : LegResult) (reply : Option LegResult) :
    List ExecEvent :=
  [.entered .leg1Pending, .awaited (venueOf (firstVenue signal.direction)) (some leg),
    .booked (venueOf (firstVenue signal.direction)) leg.filled leg.price,
    .entered .leg1Filled, .entered .leg2Pending,
    .awaited (venueOf (secondVenue signal.direction)) reply,
    .entered .unwinding, .unwound, .entered .failed]

/-- **A flow unwinds exactly where its first leg is taken and its second is not.** On that branch
    the trace is known event by event, which the two users of this lemma count in. -/
theorem FlowEnd.unwinds_or_not {config : ExecutorConfig} {legs : Legs} {signal : Signal}
    {t t' : InventoryTracker} {path : List ExecEvent} {state : ExecutorState}
    {fill1 fill2 : Option ℚ} (h : FlowEnd config legs signal t path t' state fill1 fill2) :
    (∃ leg reply, firstReply legs signal = some leg ∧ TakesFirst config signal leg ∧
        (∀ leg2, secondReply legs signal leg.filled = some leg2 → leg2.success = false) ∧
        state = .failed ∧ path = unwoundPath signal leg reply) ∨
      ((state = .failed → .entered .unwinding ∉ path) ∧
        ∀ leg, firstReply legs signal = some leg → TakesFirst config signal leg →
          ∃ leg2, secondReply legs signal leg.filled = some leg2 ∧ leg2.success = true) := by
  -- five ends; in two of them the first leg is taken and the second is not
  cases h with
  | silentFirst h =>
    right
    refine ⟨fun _ hmem => by simp at hmem, fun leg hleg => ?_⟩
    rw [h] at hleg
    cases hleg
  | refusedFirst leg h no =>
    right
    refine ⟨fun _ hmem => by simp at hmem, fun leg' hleg yes => ?_⟩
    rw [h] at hleg
    cases hleg
    exact absurd yes no
  | silentSecond leg h yes h2 =>
    left
    refine ⟨leg, none, h, yes, fun leg2 hleg2 => ?_, rfl, rfl⟩
    rw [h2] at hleg2
    cases hleg2
  | refusedSecond leg leg2 h yes h2 no =>
    left
    refine ⟨leg, some leg2, h, yes, fun leg2' hleg2 => ?_, rfl, rfl⟩
    rw [h2] at hleg2
    cases hleg2
    exact no
  | finished leg leg2 h yes h2 yes2 =>
    right
    constructor
    · intro hstate
      cases hstate
    · intro leg' hleg _
      rw [h] at hleg
      cases hleg
      exact ⟨leg2, h2, yes2⟩

/-- The booking of the first leg is all that such a flow leaves in the books: the call of `unwind`
    sleeps or writes a line to the log, and posts nothing. -/
theorem unwound_neutral_iff {signal : Signal} {base quote : String}
    (hpair : splitPair signal.pair = [base, quote]) (leg : LegResult) (reply : Option LegResult)
    (before : Venue × String → ℚ) :
    (∀ asset ∈ splitPair signal.pair,
      before (.cex, asset) +
            Ledger.net (bookedPostings signal (unwoundPath signal leg reply)) (.cex, asset) +
          (before (.wallet, asset) +
            Ledger.net (bookedPostings signal (unwoundPath signal leg reply)) (.wallet, asset)) +
          feesBooked signal (.entered .validating :: unwoundPath signal leg reply) asset =
        before (.cex, asset) + before (.wallet, asset)) ↔
      leg.filled = 0 ∨ ∃ asset, splitPair signal.pair = [asset, asset] ∧ leg.price = 1 := by
  rw [← total_fillPostings_eq_zero_iff hpair (venueOf (firstVenue signal.direction))]
  refine forall₂_congr fun asset _ => ?_
  have fees : feesBooked signal (.entered .validating :: unwoundPath signal leg reply) asset =
      feeBooked signal asset
        (.booked (venueOf (firstVenue signal.direction)) leg.filled leg.price) := by
    simp [feesBooked, feeBooked, unwoundPath]
  rw [fees]
  simp only [unwoundPath, bookedPostings_entered, bookedPostings_awaited, bookedPostings_booked,
    bookedPostings_unwound, bookedPostings_nil, Ledger.net_append, Ledger.net_nil, add_zero]
  constructor <;> intro h <;> linarith

/-- **An execution that failed after its first leg is position-neutral exactly when that leg moved
    nothing.** The calls that do not unwind are neutral by what is asked, and so the condition is
    about the others only. -/
theorem position_neutral_iff (ex : Executor) (clock : ExecClock) (legs : Legs) (signal : Signal)
    (base quote : String) (hpair : splitPair signal.pair = [base, quote]) :
    PositionNeutral ex clock legs signal ↔ StandingLegIsEmpty ex clock legs signal := by
  unfold PositionNeutral StandingLegIsEmpty
  rcases execute_cases ex clock legs signal with
    ⟨hno, _, _, htrace⟩ | ⟨hadm, path, htrace, hend⟩
  · -- the call was turned away before its legs
    refine iff_of_true (fun _ hmem => ?_) (fun h => absurd h hno)
    rcases htrace with htrace | htrace <;> rw [htrace] at hmem <;> simp at hmem
  · obtain ⟨hfree, _⟩ := hend.free_eq
    rw [htrace]
    simp only [totalFree, hfree, Ledger.postAll_apply]
    rcases hend.unwinds_or_not with ⟨leg, reply, h, yes, failed, hstate, rfl⟩ | ⟨stays, taken⟩
    · constructor
      · intro neutral _ leg' hleg _ _
        rw [h] at hleg
        cases hleg
        exact (unwound_neutral_iff hpair leg reply _).mp (neutral hstate (by simp [unwoundPath]))
      · intro empty _ _
        exact (unwound_neutral_iff hpair leg reply _).mpr (empty hadm leg h yes failed)
    · refine iff_of_true (fun hstate hmem => ?_) (fun _ leg hleg yes refused => ?_)
      · rcases List.mem_cons.mp hmem with hmem | hmem
        · cases hmem
        · exact absurd hmem (stays hstate)
      · obtain ⟨leg2, h2, yes2⟩ := taken leg hleg yes
        rw [refused leg2 h2] at yes2
        cases yes2

/-- A first leg that filled nothing needs no unwinding. -/
theorem sample_empty_leg_neutral :
    PositionNeutral sampleExecutor sampleClock (sampleLegs (some (sampleLeg false 0))
      (some (sampleLeg true 0))) (sampleSignal .buyDexSellCex) := by
  refine (position_neutral_iff _ _ _ _ "ETH" "USDT" (splitPair_sample _)).mpr ?_
  intro _ leg hleg _ _
  cases hleg
  exact Or.inl rfl

/-- A failed DEX leg leaves the ETH that was bought on the exchange in the books. -/
theorem sample_standing_leg_not_neutral :
    ¬ PositionNeutral sampleExecutor sampleClock (sampleLegs (some (sampleLeg true 1))
      (some (sampleLeg false 0))) (sampleSignal .buyCexSellDex) := by
  intro h
  have hbase := h (by decide +kernel) (by decide +kernel) "ETH" (by decide)
  revert hbase
  decide +kernel

end ArbEngine
