import ArbEngine.Inventory.Predictive
import ArbEngine.Proof.Pricing.Impact

/-!
# Which pending swaps the rebalancer survives

The amount of a pending swap is whatever a stranger has written into a transaction. It is cut to
128 bits, read as a `Decimal` of 96 and multiplied twice before anything is decided, and a panic
ends the task that listens to the mempool. `mempool_safe_iff` says which swaps are read as they
are and answered.

The planning behind it is arithmetic on `Decimal`s too; each of its functions answers exactly
where its numbers fit (`planForOpportunity_answers_iff`).
-/

namespace ArbEngine

/-- A `Decimal` answers with the number it is given, or with a panic. -/
theorem decimal_eq_ok_iff {x y : ℚ} : decimal x = .ok y ↔ |x| < 2 ^ 96 ∧ y = x := by
  unfold decimal
  split
  · simp [*, eq_comm]
  · simp [*]

/-- A number below `2 ^ 96` is one. -/
theorem decimal_of_lt {x : ℚ} (h : |x| < 2 ^ 96) : decimal x = .ok x :=
  decimal_eq_ok_iff.mpr ⟨h, rfl⟩

/-! ## Shortfalls -/

/-- What a venue lacks of one asset, with its name. Nothing is lacking where the stock is just
    enough. -/
def lackingOf (tracker : InventoryTracker) (venue : Venue) (entry : String × ℚ) :
    Option (String × ℚ) :=
  if tracker.getAvailable venue entry.1 < entry.2 then
    some (entry.1, entry.2 - tracker.getAvailable venue entry.1)
  else none

/-- The loop over the assets that a venue needs: it answers where each difference it takes has
    room. -/
theorem missing_eq_ok_iff {tracker : InventoryTracker} {venue : Venue}
    {assets out : List (String × ℚ)} :
    ArbOpportunity.missing tracker venue assets = .ok out ↔
      (∀ entry ∈ assets, tracker.getAvailable venue entry.1 < entry.2 →
        |entry.2 - tracker.getAvailable venue entry.1| < 2 ^ 96) ∧
      out = assets.filterMap (lackingOf tracker venue) := by
  induction assets generalizing out with
  | nil => simp [ArbOpportunity.missing, eq_comm]
  | cons entry assets ih =>
    obtain ⟨asset, required⟩ := entry
    unfold ArbOpportunity.missing
    by_cases lacks : tracker.getAvailable venue asset < required
    · have lacking : lackingOf tracker venue (asset, required) =
          some (asset, required - tracker.getAvailable venue asset) := if_pos lacks
      simp only [if_pos lacks, Outcome.bind_eq_ok, decimal_eq_ok_iff, Outcome.pure_eq_ok,
        Outcome.ok.injEq, ih, List.forall_mem_cons, List.filterMap_cons_some lacking]
      constructor
      · rintro ⟨x, ⟨small, rfl⟩, rest, ⟨fits, rfl⟩, rfl⟩
        exact ⟨⟨fun _ => small, fits⟩, rfl⟩
      · rintro ⟨⟨small, fits⟩, rfl⟩
        exact ⟨_, ⟨small lacks, rfl⟩, _, ⟨fits, rfl⟩, rfl⟩
    · have lacking : lackingOf tracker venue (asset, required) = none := if_neg lacks
      simp only [if_neg lacks, ih, List.forall_mem_cons, List.filterMap_cons_none lacking]
      constructor
      · rintro ⟨fits, rfl⟩
        exact ⟨⟨fun h => absurd h lacks, fits⟩, rfl⟩
      · rintro ⟨⟨-, fits⟩, rfl⟩
        exact ⟨fits, rfl⟩

/-- The same for both venues. -/
theorem shortfall_eq_ok_iff {opp : ArbOpportunity} {tracker : InventoryTracker}
    {lacking : Venue → List (String × ℚ)} :
    opp.shortfall tracker = .ok lacking ↔
      (∀ venue, ∀ entry ∈ opp.requiredCapital venue,
        tracker.getAvailable venue entry.1 < entry.2 →
          |entry.2 - tracker.getAvailable venue entry.1| < 2 ^ 96) ∧
      lacking = fun venue => (opp.requiredCapital venue).filterMap (lackingOf tracker venue) := by
  unfold ArbOpportunity.shortfall
  simp only [Outcome.bind_eq_ok, missing_eq_ok_iff, Outcome.pure_eq_ok, Outcome.ok.injEq]
  constructor
  · rintro ⟨_, ⟨wallet, rfl⟩, _, ⟨cex, rfl⟩, rfl⟩
    constructor
    · intro venue
      cases venue with
      | wallet => exact wallet
      | cex => exact cex
    · funext venue
      cases venue <;> rfl
  · rintro ⟨fits, rfl⟩
    refine ⟨_, ⟨fits .wallet, rfl⟩, _, ⟨fits .cex, rfl⟩, ?_⟩
    funext venue
    cases venue <;> rfl

namespace PredictiveRebalancer

section Planning

variable (r : PredictiveRebalancer)

/-! ## Transfers -/

/-- What can be moved of an asset: the stock of the other venue, less the buffer. -/
def movable (venue : Venue) (asset : String) : ℚ :=
  r.tracker.getAvailable (sourceVenue venue) asset * (1 - r.config.safetyBufferPct)

/-- The two products that say so fit. -/
def MovableFits (venue : Venue) (asset : String) : Prop :=
  |1 - r.config.safetyBufferPct| < 2 ^ 96 ∧ |r.movable venue asset| < 2 ^ 96

/-- The transfer there is for a shortfall, where the numbers fit. Three things stand in its way:
    nothing that could be moved, an asset without a fee entry, and an amount below the least that
    is paid out. -/
def transferOf (entry : Venue × String × ℚ) : Option TransferPlan :=
  if r.movable entry.1 entry.2.1 ≤ 0 then none
  else
    (transferFees entry.2.1).bind fun cfg =>
      if min entry.2.2 (r.movable entry.1 entry.2.1) < cfg.minWithdrawal then none
      else
        some
          { fromVenue := sourceVenue entry.1, toVenue := entry.1, asset := entry.2.1
            amount := min entry.2.2 (r.movable entry.1 entry.2.1)
            estimatedFee := cfg.withdrawalFee, estimatedTimeMin := cfg.estimatedTimeMin }

/-- One transfer. The product is taken before it is looked at, so it can fail even where nothing is
    moved. -/
theorem transferFor_eq_ok_iff {venue : Venue} {asset : String} {needed : ℚ}
    {plan : Option TransferPlan} :
    r.transferFor venue asset needed = .ok plan ↔
      r.MovableFits venue asset ∧ plan = r.transferOf (venue, asset, needed) := by
  -- with both numbers in range the function is the plain one
  have decided : r.MovableFits venue asset →
      r.transferFor venue asset needed = .ok (r.transferOf (venue, asset, needed)) := by
    rintro ⟨share, product⟩
    unfold movable at product
    unfold transferFor transferOf movable
    simp only [decimal_of_lt share, decimal_of_lt product, Outcome.ok_bind, Outcome.pure_eq_ok]
    split
    · rfl
    · cases transferFees asset with
      | none => rfl
      | some cfg =>
        simp only [Option.bind_some]
        split
        · rfl
        · rfl
  constructor
  · intro h
    have fits : r.MovableFits venue asset := by
      unfold transferFor at h
      obtain ⟨share, hshare, h⟩ := Outcome.bind_eq_ok.mp h
      obtain ⟨product, hproduct, -⟩ := Outcome.bind_eq_ok.mp h
      obtain ⟨small, rfl⟩ := decimal_eq_ok_iff.mp hshare
      exact ⟨small, (decimal_eq_ok_iff.mp hproduct).1⟩
    rw [decided fits] at h
    exact ⟨fits, (Outcome.ok.inj h).symm⟩
  · rintro ⟨fits, rfl⟩
    exact decided fits

/-- The transfers for a whole shortfall: each entry is asked for its own numbers only. -/
theorem buildTransfers_eq_ok_iff {shortfall : List (Venue × String × ℚ)}
    {plans : List TransferPlan} :
    r.buildTransfersForShortfall shortfall = .ok plans ↔
      (∀ entry ∈ shortfall, r.MovableFits entry.1 entry.2.1) ∧
        plans = shortfall.filterMap r.transferOf := by
  induction shortfall generalizing plans with
  | nil => simp [buildTransfersForShortfall, eq_comm]
  | cons entry shortfall ih =>
    obtain ⟨venue, asset, needed⟩ := entry
    unfold buildTransfersForShortfall
    simp only [Outcome.bind_eq_ok, r.transferFor_eq_ok_iff, ih, List.forall_mem_cons,
      Outcome.pure_eq_ok, Outcome.ok.injEq, List.filterMap_cons]
    constructor
    · rintro ⟨_, ⟨first, rfl⟩, _, ⟨others, rfl⟩, rfl⟩
      refine ⟨⟨first, others⟩, ?_⟩
      cases r.transferOf (venue, asset, needed) <;> rfl
    · rintro ⟨⟨first, others⟩, rfl⟩
      refine ⟨_, ⟨first, rfl⟩, _, ⟨others, rfl⟩, ?_⟩
      cases r.transferOf (venue, asset, needed) <;> rfl

/-! ## Cost -/

/-- What a transfer costs in dollars. -/
def costOf (plan : TransferPlan) : ℚ := plan.estimatedFee * r.priceOf plan.asset

/-- Where no transfer is for free, the running total only grows: it fits where it ends. -/
theorem estimateTransferCost_eq_ok_iff {total cost : ℚ} {plans : List TransferPlan}
    (h0 : 0 ≤ total) (hlt : total < 2 ^ 96) (hplans : ∀ plan ∈ plans, 0 ≤ r.costOf plan) :
    r.estimateTransferCostUsd total plans = .ok cost ↔
      total + (plans.map r.costOf).sum < 2 ^ 96 ∧ cost = total + (plans.map r.costOf).sum := by
  induction plans generalizing total with
  | nil =>
    unfold estimateTransferCostUsd
    simp [hlt, eq_comm]
  | cons plan plans ih =>
    obtain ⟨first, others⟩ := List.forall_mem_cons.mp hplans
    -- What is still to come only adds, so a total on the way fits where the last one does.
    have rest : 0 ≤ (plans.map r.costOf).sum := by
      apply List.sum_nonneg
      intro x hx
      obtain ⟨plan, hplan, rfl⟩ := List.mem_map.mp hx
      exact others plan hplan
    have usd : plan.estimatedFee * r.priceOf plan.asset = r.costOf plan := rfl
    unfold estimateTransferCostUsd
    simp only [Outcome.bind_eq_ok, decimal_eq_ok_iff, usd, abs_of_nonneg first, List.map_cons,
      List.sum_cons, ← add_assoc]
    constructor
    · rintro ⟨_, ⟨-, rfl⟩, _, ⟨small, rfl⟩, h⟩
      rw [abs_of_nonneg (by linarith)] at small
      exact (ih (by linarith) small others).mp h
    · rintro ⟨small, rfl⟩
      have next : total + r.costOf plan < 2 ^ 96 := by linarith
      refine ⟨_, ⟨by linarith, rfl⟩, _, ⟨?_, rfl⟩, ?_⟩
      · rw [abs_of_nonneg (by linarith)]
        exact next
      · exact (ih (by linarith) next others).mpr ⟨small, rfl⟩

/-! ## The plan -/

/-- What a venue lacks of what it needs. -/
def shortfallAt (needs : Venue → List (String × ℚ)) (venue : Venue) :
    List (Venue × String × ℚ) :=
  ((needs venue).filterMap (lackingOf r.tracker venue)).map fun entry => (venue, entry.1, entry.2)

/-- What the transfers to a venue cost. -/
def costAt (needs : Venue → List (String × ℚ)) (venue : Venue) : ℚ :=
  (((r.shortfallAt needs venue).filterMap r.transferOf).map r.costOf).sum

/-- What the transfers to both venues cost. -/
def transferCost (needs : Venue → List (String × ℚ)) : ℚ :=
  r.costAt needs .wallet + r.costAt needs .cex

/-- **The numbers of a plan fit**: what is lacking and what could be moved instead, what the
    transfers cost, and what the profit is for each dollar of that. -/
structure PlanFits (needs : Venue → List (String × ℚ)) (profit : ℚ) : Prop where
  lacking : ∀ venue, ∀ entry ∈ needs venue,
    r.tracker.getAvailable venue entry.1 < entry.2 →
      |entry.2 - r.tracker.getAvailable venue entry.1| < 2 ^ 96 ∧ r.MovableFits venue entry.1
  cost : r.transferCost needs < 2 ^ 96
  ratio : 0 < r.transferCost needs → |profit / r.transferCost needs| < 2 ^ 96

/-- No entry of the table has a fee of zero. -/
theorem transferFees_pos {asset : String} {cfg : TransferConfig} (h : transferFees asset = some cfg) :
    0 < cfg.withdrawalFee := by
  unfold transferFees at h
  split at h
  · cases h
    norm_num
  · split at h
    · cases h
      norm_num
    · cases h

/-- So no transfer is for free of which the price is not negative. -/
theorem costOf_nonneg (hprice : ∀ asset, 0 ≤ r.priceOf asset) {entry : Venue × String × ℚ}
    {plan : TransferPlan} (h : r.transferOf entry = some plan) : 0 ≤ r.costOf plan := by
  unfold transferOf at h
  split at h
  · cases h
  · obtain ⟨cfg, hcfg, h⟩ := Option.bind_eq_some_iff.mp h
    split at h
    · cases h
    · cases h
      exact mul_nonneg (transferFees_pos hcfg).le (hprice _)

/-- In whichever order the venues come, the transfers cost the same. -/
theorem sum_cost_eq (needs : Venue → List (String × ℚ)) (walletFirst : Bool) :
    ((((ArbOpportunity.venues walletFirst).flatMap (r.shortfallAt needs)).filterMap
      r.transferOf).map r.costOf).sum = r.transferCost needs := by
  unfold transferCost costAt
  cases walletFirst with
  | true => simp [ArbOpportunity.venues]
  | false => simp [ArbOpportunity.venues, add_comm]

/-- Both venues are gone through, in either order. -/
theorem mem_venues (walletFirst : Bool) (venue : Venue) :
    venue ∈ ArbOpportunity.venues walletFirst := by
  cases walletFirst <;> cases venue <;> decide

/-- Every entry of the shortfall comes from a need that is not met. In this form the condition does
    not speak about the order of the map. -/
theorem movable_of_shortfall (needs : Venue → List (String × ℚ)) (walletFirst : Bool) :
    (∀ entry ∈ (ArbOpportunity.venues walletFirst).flatMap (r.shortfallAt needs),
      r.MovableFits entry.1 entry.2.1) ↔
    ∀ venue, ∀ entry ∈ needs venue, r.tracker.getAvailable venue entry.1 < entry.2 →
      r.MovableFits venue entry.1 := by
  constructor
  · intro h venue entry hentry lacks
    have lacking : lackingOf r.tracker venue entry =
        some (entry.1, entry.2 - r.tracker.getAvailable venue entry.1) := if_pos lacks
    refine h (venue, entry.1, entry.2 - r.tracker.getAvailable venue entry.1) ?_
    refine List.mem_flatMap.mpr ⟨venue, mem_venues _ _, ?_⟩
    exact List.mem_map.mpr ⟨_, List.mem_filterMap.mpr ⟨entry, hentry, lacking⟩, rfl⟩
  · intro h entry hentry
    obtain ⟨venue, -, hentry⟩ := List.mem_flatMap.mp hentry
    obtain ⟨lacking, hlacking, rfl⟩ := List.mem_map.mp hentry
    obtain ⟨need, hneed, found⟩ := List.mem_filterMap.mp hlacking
    unfold lackingOf at found
    split at found
    · rename_i lacks
      cases found
      exact h venue need hneed lacks
    · cases found

/-- The ratio is taken only where the transfers cost something. -/
theorem profitRatio_answers {profit cost : ℚ} (h : 0 < cost → |profit / cost| < 2 ^ 96) :
    ∃ x, profitRatio profit cost = .ok x := by
  unfold profitRatio
  split
  · rename_i pos
    exact ⟨_, decimal_of_lt (h pos)⟩
  · exact ⟨_, rfl⟩

/-- The plan for a given shortfall, by the three steps it is made in. -/
theorem planForShortfall_answers_iff (env : PredictiveEnv) (opp : ArbOpportunity)
    {shortfall : List (Venue × String × ℚ)} {cost : ℚ} (hprice : ∀ asset, 0 ≤ r.priceOf asset)
    (hcost : ((shortfall.filterMap r.transferOf).map r.costOf).sum = cost) :
    (∃ plan, r.planForShortfall env opp shortfall = .ok plan) ↔
      (∀ entry ∈ shortfall, r.MovableFits entry.1 entry.2.1) ∧ cost < 2 ^ 96 ∧
        (0 < cost → |opp.expectedProfitUsd / cost| < 2 ^ 96) := by
  have free : ∀ plan ∈ shortfall.filterMap r.transferOf, 0 ≤ r.costOf plan := by
    intro plan hplan
    obtain ⟨entry, -, found⟩ := List.mem_filterMap.mp hplan
    exact r.costOf_nonneg hprice found
  unfold planForShortfall
  -- without a shortfall nothing is computed
  by_cases enough : shortfall = []
  · rw [if_pos enough]
    rw [enough] at hcost
    obtain rfl : (0 : ℚ) = cost := hcost
    refine iff_of_true ⟨_, rfl⟩ ⟨?_, by norm_num, fun h => absurd h (lt_irrefl _)⟩
    rw [enough]
    intro entry hentry
    cases hentry
  · rw [if_neg enough]
    constructor
    · rintro ⟨plan, h⟩
      obtain ⟨transfers, htransfers, h⟩ := Outcome.bind_eq_ok.mp h
      obtain ⟨total, htotal, h⟩ := Outcome.bind_eq_ok.mp h
      obtain ⟨ratio, hratio, -⟩ := Outcome.bind_eq_ok.mp h
      obtain ⟨moves, rfl⟩ := r.buildTransfers_eq_ok_iff.mp htransfers
      obtain ⟨small, rfl⟩ :=
        (r.estimateTransferCost_eq_ok_iff le_rfl (by norm_num) free).mp htotal
      rw [zero_add, hcost] at small hratio
      refine ⟨moves, small, ?_⟩
      intro pos
      unfold profitRatio at hratio
      rw [if_pos pos] at hratio
      exact (decimal_eq_ok_iff.mp hratio).1
    · rintro ⟨moves, small, ratio⟩
      have transfers := r.buildTransfers_eq_ok_iff.mpr ⟨moves, rfl⟩
      have total : r.estimateTransferCostUsd 0 (shortfall.filterMap r.transferOf) = .ok cost :=
        (r.estimateTransferCost_eq_ok_iff le_rfl (by norm_num) free).mpr
          ⟨by rw [zero_add, hcost]; exact small, by rw [zero_add, hcost]⟩
      obtain ⟨x, hx⟩ := profitRatio_answers ratio
      rw [transfers, Outcome.ok_bind, total, Outcome.ok_bind, hx]
      exact ⟨_, rfl⟩

/-- **A plan is made exactly where the opportunity is over or its numbers fit.** An opportunity
    that is over is turned away before its first number. -/
theorem planForOpportunity_answers_iff (env : PredictiveEnv) (opp : ArbOpportunity)
    (hprice : ∀ asset, 0 ≤ r.priceOf asset) :
    (∃ plan, r.planForOpportunity env opp = .ok plan) ↔
      opp.isExpired env.planned = true ∨
        r.PlanFits opp.requiredCapital opp.expectedProfitUsd := by
  have answers := r.planForShortfall_answers_iff env opp hprice
    (r.sum_cost_eq opp.requiredCapital env.walletFirst)
  rw [r.movable_of_shortfall] at answers
  unfold planForOpportunity
  by_cases expired : opp.isExpired env.planned = true
  · rw [if_pos expired]
    exact iff_of_true ⟨_, rfl⟩ (.inl expired)
  · rw [if_neg expired, or_iff_right expired]
    constructor
    · rintro ⟨plan, h⟩
      obtain ⟨lacking, hlacking, h⟩ := Outcome.bind_eq_ok.mp h
      obtain ⟨fits, rfl⟩ := shortfall_eq_ok_iff.mp hlacking
      obtain ⟨moves, small, ratio⟩ := answers.mp ⟨plan, h⟩
      exact ⟨fun venue entry hentry lacks => ⟨fits venue entry hentry lacks,
        moves venue entry hentry lacks⟩, small, ratio⟩
    · rintro ⟨lacking, small, ratio⟩
      have fits := shortfall_eq_ok_iff.mpr
        ⟨fun venue entry hentry lacks => (lacking venue entry hentry lacks).1, rfl⟩
      obtain ⟨plan, h⟩ := answers.mpr
        ⟨fun venue entry hentry lacks => (lacking venue entry hentry lacks).2, small, ratio⟩
      rw [fits, Outcome.ok_bind]
      exact ⟨plan, h⟩

end Planning

/-! ## Pending swaps -/

/-- The value of a swap: its whole amount at the price of its token. It is what should be compared
    with the trigger. -/
def valueUsd (r : PredictiveRebalancer) (swap : ParsedSwap) (tokenIn : Token) : ℚ :=
  tokenIn.human swap.amountIn * r.priceOf tokenIn.symbol

/-- **What should hold of every pending swap**: it is answered, and the size that is compared with
    the trigger is the value of the whole amount. -/
def SwapSafe (r : PredictiveRebalancer) (env : PredictiveEnv) (swap : ParsedSwap) : Prop :=
  (∃ plan, r.onMonitorEvent env (.mempoolSwap swap) = .ok plan) ∧
    ∀ tokenIn tokenOut, r.assetsFromSwap swap = some (tokenIn, tokenOut) →
      ∃ amount, u256ToDecimal swap.amountIn tokenIn.decimals = .ok amount ∧
        r.swapSizeUsd tokenIn amount = .ok (r.valueUsd swap tokenIn)

/-- **The numbers of a swap fit**: its amount and its value a `Decimal`, and where the value
    reaches the trigger and there is a pool, the numbers of the pool and of the plan. A swap of
    tokens that are not known is turned away before anything is read. -/
def SwapFits (r : PredictiveRebalancer) (env : PredictiveEnv) (swap : ParsedSwap) : Prop :=
  ∀ tokenIn tokenOut, r.assetsFromSwap swap = some (tokenIn, tokenOut) →
    swap.amountIn.toNat < 2 ^ 96 ∧
      r.valueUsd swap tokenIn < 2 ^ 96 ∧
      (r.config.triggerSwapSizeUsd ≤ r.valueUsd swap tokenIn →
        ∀ pool, r.poolFor tokenIn tokenOut = some pool →
          pool.ImpactFits swap.amountIn tokenIn ∧
            (12 < env.planned - env.discovered ∨
              r.PlanFits (halfEach tokenIn tokenOut (tokenIn.human swap.amountIn / 2))
                (r.valueUsd swap tokenIn * pool.impact swap.amountIn tokenIn * (1 / 2))))

section Swaps

variable {r : PredictiveRebalancer} {env : PredictiveEnv} {swap : ParsedSwap}
  {tokenIn tokenOut : Token}

/-- What is read of an amount: the lower 128 bits of it, where they fit. An amount of `2 ^ 128` is
    read as nothing, and nobody is told. -/
theorem u256ToDecimal_eq_ok_iff {val : U256} {decimals : ℕ} {x : ℚ}
    (hd : 10 ^ decimals < 2 ^ 64) :
    u256ToDecimal val decimals = .ok x ↔
      val.toNat % 2 ^ 128 < 2 ^ 96 ∧ x = ((val.toNat % 2 ^ 128 : ℕ) : ℚ) / 10 ^ decimals := by
  unfold u256ToDecimal
  simp only [Outcome.bind_eq_ok, Outcome.guardPanic_eq_ok, decimal_eq_ok_iff,
    BitVec.toNat_setWidth, Nat.abs_cast, Outcome.pure_eq_ok, Outcome.ok.injEq]
  constructor
  · rintro ⟨-, -, y, ⟨small, rfl⟩, rfl⟩
    exact ⟨by exact_mod_cast small, rfl⟩
  · rintro ⟨small, rfl⟩
    exact ⟨(), hd, _, ⟨by exact_mod_cast small, rfl⟩, rfl⟩

/-- The opportunity of a swap, where its numbers fit. -/
def arbOf (env : PredictiveEnv) (pool : Pool) (tokenIn tokenOut : Token) (amountIn : U256)
    (size : ℚ) : ArbOpportunity where
  id := "arb-" ++ env.uuid
  requiredCapital := halfEach tokenIn tokenOut (tokenIn.human amountIn / 2)
  expectedProfitUsd := size * pool.impact amountIn tokenIn * (1 / 2)
  ttl := 12
  discoveredAt := env.discovered

/-- An opportunity found in the mempool is over after twelve seconds, a block. -/
theorem arbOf_isExpired_iff {pool : Pool} {amountIn : U256} {size : ℚ} :
    (arbOf env pool tokenIn tokenOut amountIn size).isExpired env.planned = true ↔
      12 < env.planned - env.discovered := by
  show decide ((12 : ℚ) < max (env.planned - env.discovered) 0) = true ↔ _
  rw [decide_eq_true_iff, lt_max_iff, or_iff_left (by norm_num)]

/-- **An opportunity is estimated exactly where the price impact answers.** -/
theorem estimateArb_eq_ok_iff {pool : Pool} {amountIn : U256} {size : ℚ} {opp : ArbOpportunity}
    (hd : 10 ^ tokenIn.decimals < 2 ^ 64) (hamount : amountIn.toNat < 2 ^ 96) (h0 : 0 ≤ size)
    (hsize : size < 2 ^ 96) :
    estimateArbFromSwap env pool tokenIn tokenOut amountIn (tokenIn.human amountIn) size =
      .ok opp ↔
    pool.ImpactFits amountIn tokenIn ∧ opp = arbOf env pool tokenIn tokenOut amountIn size := by
  obtain ⟨nonneg, le_one⟩ : 0 ≤ pool.impact amountIn tokenIn ∧
      pool.impact amountIn tokenIn ≤ 1 := Pool.impact_mem hamount
  rw [← Pool.getPriceImpact_ne_panic_iff hd hamount]
  unfold estimateArbFromSwap
  by_cases panics : pool.getPriceImpact amountIn tokenIn = .panic
  · rw [panics]
    exact iff_of_false (fun h => by cases h) (fun h => h.1 rfl)
  · -- An impact is a share, so the product is no larger than the size.
    have gross : |size * pool.impact amountIn tokenIn| < 2 ^ 96 := by
      rw [abs_of_nonneg (mul_nonneg h0 nonneg)]
      exact lt_of_le_of_lt (mul_le_of_le_one_right h0 le_one) hsize
    have read : (pool.getPriceImpact amountIn tokenIn).toOption.getD 0 =
        pool.impact amountIn tokenIn := rfl
    rw [Outcome.discardErr_eq_toOption panics]
    simp only [Outcome.ok_bind, read, decimal_of_lt gross, Outcome.pure_eq_ok,
      Outcome.ok.injEq]
    rw [and_iff_right panics]
    exact eq_comm

/-- A swap whose amount and value fit, at the point where its size is known. What is left is the
    trigger, the pool and the plan. -/
theorem onPendingSwap_eq (resolved : r.assetsFromSwap swap = some (tokenIn, tokenOut))
    (hd : 10 ^ tokenIn.decimals < 2 ^ 64) (hamount : swap.amountIn.toNat < 2 ^ 96)
    (hsize : |r.valueUsd swap tokenIn| < 2 ^ 96) :
    r.onPendingSwap env swap =
      if r.valueUsd swap tokenIn < r.config.triggerSwapSizeUsd then .ok none
      else
        match r.poolFor tokenIn tokenOut with
        | none => .ok none
        | some pool => do
            let opp ← estimateArbFromSwap env pool tokenIn tokenOut swap.amountIn
              (tokenIn.human swap.amountIn) (r.valueUsd swap tokenIn)
            let plan ← r.planForOpportunity env opp
            return some plan := by
  have whole : swap.amountIn.toNat % 2 ^ 128 = swap.amountIn.toNat :=
    Nat.mod_eq_of_lt (by omega)
  have amount : u256ToDecimal swap.amountIn tokenIn.decimals =
      .ok (tokenIn.human swap.amountIn) :=
    (u256ToDecimal_eq_ok_iff hd).mpr ⟨by omega, by rw [whole, Token.human]⟩
  have size : r.swapSizeUsd tokenIn (tokenIn.human swap.amountIn) =
      .ok (r.valueUsd swap tokenIn) := decimal_of_lt hsize
  unfold onPendingSwap
  rw [resolved]
  simp only [amount, size, Outcome.ok_bind]
  rfl

/-- **A swap is read whole exactly where its amount and its value fit.** From `2 ^ 128` on the
    amount is cut without a panic, and the size that comes of it is not the value. -/
theorem size_read_iff (swap : ParsedSwap) (hd : 10 ^ tokenIn.decimals < 2 ^ 64)
    (hprice : 0 < r.priceOf tokenIn.symbol) :
    (∃ amount, u256ToDecimal swap.amountIn tokenIn.decimals = .ok amount ∧
      r.swapSizeUsd tokenIn amount = .ok (r.valueUsd swap tokenIn)) ↔
    swap.amountIn.toNat < 2 ^ 96 ∧ r.valueUsd swap tokenIn < 2 ^ 96 := by
  constructor
  · rintro ⟨amount, hamount, hsize⟩
    obtain ⟨small, rfl⟩ := (u256ToDecimal_eq_ok_iff hd).mp hamount
    obtain ⟨fits, same⟩ := decimal_eq_ok_iff.mp hsize
    -- At a positive price the same value is the same amount: nothing was cut off.
    have equal : tokenIn.human swap.amountIn =
        ((swap.amountIn.toNat % 2 ^ 128 : ℕ) : ℚ) / 10 ^ tokenIn.decimals :=
      mul_right_cancel₀ hprice.ne' same
    have whole : swap.amountIn.toNat = swap.amountIn.toNat % 2 ^ 128 := by
      unfold Token.human at equal
      exact_mod_cast (div_left_inj' (by positivity)).mp equal
    rw [← same] at fits
    exact ⟨by omega, lt_of_le_of_lt (le_abs_self _) fits⟩
  · rintro ⟨hamount, hsize⟩
    have whole : swap.amountIn.toNat % 2 ^ 128 = swap.amountIn.toNat :=
      Nat.mod_eq_of_lt (by omega)
    have nonneg := mul_nonneg (Token.human_nonneg tokenIn swap.amountIn) hprice.le
    refine ⟨tokenIn.human swap.amountIn, (u256ToDecimal_eq_ok_iff hd).mpr ⟨by omega, ?_⟩, ?_⟩
    · rw [whole, Token.human]
    · exact decimal_of_lt (by rw [abs_of_nonneg nonneg]; exact hsize)

/-- A swap that is read whole is answered exactly where the numbers behind it fit as well. -/
theorem onPendingSwap_answers_iff (env : PredictiveEnv)
    (resolved : r.assetsFromSwap swap = some (tokenIn, tokenOut))
    (hd : 10 ^ tokenIn.decimals < 2 ^ 64) (hprice : ∀ asset, 0 < r.priceOf asset)
    (hamount : swap.amountIn.toNat < 2 ^ 96) (hsize : r.valueUsd swap tokenIn < 2 ^ 96) :
    (∃ plan, r.onPendingSwap env swap = .ok plan) ↔
      (r.config.triggerSwapSizeUsd ≤ r.valueUsd swap tokenIn →
        ∀ pool, r.poolFor tokenIn tokenOut = some pool →
          pool.ImpactFits swap.amountIn tokenIn ∧
            (12 < env.planned - env.discovered ∨
              r.PlanFits (halfEach tokenIn tokenOut (tokenIn.human swap.amountIn / 2))
                (r.valueUsd swap tokenIn * pool.impact swap.amountIn tokenIn * (1 / 2)))) := by
  have nonneg : 0 ≤ r.valueUsd swap tokenIn :=
    mul_nonneg (Token.human_nonneg tokenIn swap.amountIn) (hprice _).le
  rw [onPendingSwap_eq resolved hd hamount (by rw [abs_of_nonneg nonneg]; exact hsize)]
  -- below the trigger, or without a pool, nothing more is computed
  by_cases small : r.valueUsd swap tokenIn < r.config.triggerSwapSizeUsd
  · rw [if_pos small]
    exact iff_of_true ⟨none, rfl⟩ (fun large => absurd small (not_lt.mpr large))
  · rw [if_neg small, imp_iff_right (not_lt.mp small)]
    cases r.poolFor tokenIn tokenOut with
    | none => exact iff_of_true ⟨none, rfl⟩ (fun pool h => by cases h)
    | some pool =>
      have estimate : ∀ opp, estimateArbFromSwap env pool tokenIn tokenOut swap.amountIn
          (tokenIn.human swap.amountIn) (r.valueUsd swap tokenIn) = .ok opp ↔ _ :=
        fun opp => estimateArb_eq_ok_iff hd hamount nonneg hsize
      have plan : (∃ plan, r.planForOpportunity env (arbOf env pool tokenIn tokenOut
          swap.amountIn (r.valueUsd swap tokenIn)) = .ok plan) ↔ _ :=
        r.planForOpportunity_answers_iff env _ fun asset => (hprice asset).le
      rw [arbOf_isExpired_iff] at plan
      constructor
      · rintro ⟨answer, h⟩ _ ⟨⟩
        obtain ⟨opp, hopp, h⟩ := Outcome.bind_eq_ok.mp h
        obtain ⟨made, hmade, -⟩ := Outcome.bind_eq_ok.mp h
        obtain ⟨fits, rfl⟩ := (estimate opp).mp hopp
        exact ⟨fits, plan.mp ⟨made, hmade⟩⟩
      · intro h
        obtain ⟨fits, answers⟩ := h pool rfl
        obtain ⟨made, hmade⟩ := plan.mpr answers
        simp only [(estimate _).mpr ⟨fits, rfl⟩, Outcome.ok_bind, hmade]
        exact ⟨some made, rfl⟩

/-- A registered token has no more decimals than a `u64` has room for. -/
theorem fewDecimals
    (hdecimals : ∀ address token, r.addressToToken address = some token → token.decimals ≤ 18)
    (resolved : r.assetsFromSwap swap = some (tokenIn, tokenOut)) :
    10 ^ tokenIn.decimals < 2 ^ 64 := by
  have found : ∃ address, r.addressToToken address = some tokenIn := by
    unfold assetsFromSwap at resolved
    obtain ⟨token, htoken, h⟩ := Option.bind_eq_some_iff.mp resolved
    obtain ⟨token', -, h⟩ := Option.bind_eq_some_iff.mp h
    cases h
    cases side : swap.tokenIn with
    | none => exact ⟨_, side ▸ htoken⟩
    | some address => exact ⟨_, side ▸ htoken⟩
  obtain ⟨address, haddress⟩ := found
  calc 10 ^ tokenIn.decimals ≤ 10 ^ 18 :=
        Nat.pow_le_pow_right (by norm_num) (hdecimals address tokenIn haddress)
    _ < 2 ^ 64 := by norm_num

/-- **The rebalancer survives a pending swap, and has read it whole, exactly where the numbers
    of the swap fit.** -/
theorem mempool_safe_iff (r : PredictiveRebalancer) (env : PredictiveEnv) (swap : ParsedSwap)
    (hdecimals : ∀ address token, r.addressToToken address = some token → token.decimals ≤ 18)
    (hprices : ∀ asset price, r.pricesUsd asset = some price → 0 < price) :
    r.SwapSafe env swap ↔ r.SwapFits env swap := by
  have hprice : ∀ asset, 0 < r.priceOf asset := by
    intro asset
    unfold priceOf
    cases h : r.pricesUsd asset with
    | none => exact one_pos
    | some price => exact hprices asset price h
  unfold SwapSafe SwapFits
  -- a swap of unknown tokens is safe: it is dropped, and its size is never compared
  cases resolved : r.assetsFromSwap swap with
  | none =>
    refine iff_of_true ⟨⟨none, ?_⟩, fun _ _ h => by cases h⟩ (fun _ _ h => by cases h)
    show r.onPendingSwap env swap = _
    unfold onPendingSwap
    rw [resolved]
  | some tokens =>
    obtain ⟨tokenIn, tokenOut⟩ := tokens
    have hd := fewDecimals hdecimals resolved
    have read := size_read_iff swap hd (hprice tokenIn.symbol)
    constructor
    · rintro ⟨answer, size⟩ _ _ ⟨⟩
      obtain ⟨hamount, hsize⟩ := read.mp (size _ _ rfl)
      have answers := onPendingSwap_answers_iff env resolved hd hprice hamount hsize
      exact ⟨hamount, hsize, answers.mp answer⟩
    · intro fits
      obtain ⟨hamount, hsize, rest⟩ := fits _ _ rfl
      have answers := onPendingSwap_answers_iff env resolved hd hprice hamount hsize
      refine ⟨answers.mpr rest, ?_⟩
      rintro _ _ ⟨⟩
      exact read.mpr ⟨hamount, hsize⟩

end Swaps

/-! ## A swap of ether -/

def sampleWeth : Token where
  address := 0x1#160
  decimals := 18
  symbol := "WETH"

def sampleUsdc : Token where
  address := 0x2#160
  decimals := 6
  symbol := "USDC"

/-- Two tokens, a V3 pool of them, ether at 2000, and nothing in stock. -/
def sampleRebalancer : PredictiveRebalancer where
  tracker := InventoryTracker.new none
  config := default
  pricesUsd := fun asset => if asset = "WETH" then some 2000 else none
  addressToToken := fun address =>
    if address = 0x1#160 then some sampleWeth
    else if address = 0x2#160 then some sampleUsdc
    else none
  pools := fun pair =>
    if pair = "WETH/USDC" then some (.v3 (UniswapV3Pool.tickless 1000000000000000000#128))
    else none
  wethAddress := 0x1#160

/-- A second after the swap was seen. -/
def sampleEnv : PredictiveEnv where
  discovered := 0
  planned := 1
  uuid := "1a2b3c4d"
  twoPlaces := fun _ => "0.00"
  walletFirst := true

/-- A pending call that names this amount. -/
def sampleTransaction (amountIn : U256) : PendingTransaction where
  hash := 0#256
  sender := 0x5#160
  toAddress := some 0x7#160
  value := 0#256
  gasPrice := none
  call := some (.swapExactTokensForTokens amountIn 0#256 [0x1#160, 0x2#160] 0#256)

/-- The swap the monitor makes of it. -/
def samplePending (amountIn : U256) : ParsedSwap :=
  MempoolMonitor.parseCall (sampleTransaction amountIn) 0x7#160
    (.swapExactTokensForTokens amountIn 0#256 [0x1#160, 0x2#160] 0#256)

/-- The two tokens have few decimals. -/
theorem sampleRebalancer_decimals (address : Address) (token : Token)
    (h : sampleRebalancer.addressToToken address = some token) : token.decimals ≤ 18 := by
  unfold sampleRebalancer at h
  dsimp only at h
  split at h
  · cases h
    decide
  · split at h
    · cases h
      decide
    · cases h

/-- And no price is zero. -/
theorem sampleRebalancer_prices (asset : String) (price : ℚ)
    (h : sampleRebalancer.pricesUsd asset = some price) : 0 < price := by
  unfold sampleRebalancer at h
  dsimp only at h
  split at h
  · cases h
    norm_num
  · cases h

/-- A hundred ether are answered, with a plan. It is far above the trigger, so the whole path is
    taken. -/
theorem sample_swap_safe :
    sampleRebalancer.SwapSafe sampleEnv (samplePending 100000000000000000000#256) := by
  refine (mempool_safe_iff sampleRebalancer sampleEnv _ sampleRebalancer_decimals
    sampleRebalancer_prices).mpr ?_
  intro tokenIn tokenOut resolved
  obtain ⟨rfl, rfl⟩ : sampleWeth = tokenIn ∧ sampleUsdc = tokenOut :=
    Prod.mk.inj (Option.some.inj resolved)
  refine ⟨by decide, by decide +kernel, ?_⟩
  rintro - pool found
  obtain rfl : Pool.v3 (UniswapV3Pool.tickless 1000000000000000000#128) = pool :=
    Option.some.inj found
  refine ⟨trivial, .inr ⟨?_, by decide +kernel, by decide +kernel⟩⟩
  intro venue entry hentry _
  cases venue with
  | wallet =>
    obtain rfl := List.mem_singleton.mp hentry
    exact ⟨by decide +kernel, by decide +kernel, by decide +kernel⟩
  | cex =>
    obtain rfl := List.mem_singleton.mp hentry
    exact ⟨by decide +kernel, by decide +kernel, by decide +kernel⟩

/-- **`2 ^ 96` raw units of any token end the task**, and of `2 ^ 128` none are seen. -/
theorem sample_swap_fatal :
    MempoolMonitor.parseTransaction (sampleTransaction 79228162514264337593543950336#256) =
      some (samplePending 79228162514264337593543950336#256) ∧
    sampleRebalancer.onMonitorEvent sampleEnv
      (.mempoolSwap (samplePending 79228162514264337593543950336#256)) = .panic ∧
    sampleRebalancer.onMonitorEvent sampleEnv
      (.mempoolSwap (samplePending 340282366920938463463374607431768211456#256)) = .ok none ∧
    ¬ sampleRebalancer.SwapSafe sampleEnv
      (samplePending 79228162514264337593543950336#256) := by
  have fatal : sampleRebalancer.onMonitorEvent sampleEnv
      (.mempoolSwap (samplePending 79228162514264337593543950336#256)) = .panic := by
    decide +kernel
  refine ⟨rfl, fatal, by decide +kernel, ?_⟩
  rintro ⟨⟨plan, h⟩, -⟩
  rw [fatal] at h
  cases h

end PredictiveRebalancer

end ArbEngine
