import Mathlib.Data.List.Induction
import ArbEngine.Proof.Inventory.Rebalance

/-!
# Executing all plans

`plan_all` plans every asset from the same balances, and its plans come back in no order. Each of
them touches the balances of its own asset only, so what an asset goes through is its own plan
(`sameFor_filter`), whichever plans are executed around it. What holds of one plan holds then of
all of them together: no step overdraws, the cost estimate is what is lost, and nothing is left to
plan (`rebalanced_of_planAll`).

The plans are computed from balances that none of the transfers has touched. That makes them
independent: the transfers of other assets change neither side of an asset's own transfer, and so
the order in which they are executed does not matter.
-/

namespace ArbEngine

namespace InventoryTracker

variable {t t' : InventoryTracker} {plans : List TransferPlan} {asset : String}

/-- A transfer moves nothing of another asset. -/
theorem net_postings_other {plan : TransferPlan} (h : plan.asset ≠ asset) (venue : Venue) :
    Ledger.net plan.postings (venue, asset) = 0 := by
  simp [TransferPlan.postings, h]

/-- What all transfers move of an asset is what its own transfers move. -/
theorem net_filter (plans : List TransferPlan) (venue : Venue) (asset : String) :
    Ledger.net (plans.flatMap TransferPlan.postings) (venue, asset) =
      Ledger.net ((plans.filter fun plan => plan.asset = asset).flatMap TransferPlan.postings)
        (venue, asset) := by
  induction plans with
  | nil => rfl
  | cons plan plans ih =>
    rw [List.flatMap_cons, Ledger.net_append, ih, List.filter_cons]
    by_cases own : plan.asset = asset
    · rw [if_pos (decide_eq_true own), List.flatMap_cons, Ledger.net_append]
    · rw [if_neg (mt of_decide_eq_true own), net_postings_other own, zero_add]

/-- No transfer touches what is locked. -/
theorem locked_applyTransfers : (t.applyTransfers plans).locked = t.locked := by
  induction plans generalizing t with
  | nil => rfl
  | cons plan plans ih =>
    show ((t.applyTransfer plan).applyTransfers plans).locked = _
    rw [ih, locked_applyTransfer]

/-- The two trackers hold the same of the asset. -/
structure SameFor (asset : String) (t t' : InventoryTracker) : Prop where
  available : ∀ venue, t.getAvailable venue asset = t'.getAvailable venue asset
  locked : ∀ venue, t.locked (venue, asset) = t'.locked (venue, asset)

/-- So the totals are the same. -/
theorem SameFor.total (same : SameFor asset t t') (venue : Venue) :
    t.total venue asset = t'.total venue asset := by
  rw [total_eq, total_eq, same.available, same.locked]

/-- And what is held of it over both venues. -/
theorem SameFor.held (same : SameFor asset t t') : t.held asset = t'.held asset := by
  rw [InventoryTracker.held, InventoryTracker.held, same.total, same.total]

/-- **An asset goes through its own transfers only.** -/
theorem sameFor_filter (t : InventoryTracker) (plans : List TransferPlan) (asset : String) :
    SameFor asset (t.applyTransfers plans)
      (t.applyTransfers (plans.filter fun plan => plan.asset = asset)) where
  available venue := by
    rw [getAvailable_applyTransfers, getAvailable_applyTransfers, net_filter]
  locked venue := by
    rw [locked_applyTransfers, locked_applyTransfers]

/-- Balances that are not negative, by what is free and what is locked. An asset that is not listed
    counts as zero. -/
theorem nonNegative_of_parts (free : ∀ venue asset, 0 ≤ t.getAvailable venue asset)
    (locked : ∀ venue asset, 0 ≤ t.locked (venue, asset)) : t.NonNegative := by
  intro venue asset b hb
  have hfree := free venue asset
  have hlocked := locked venue asset
  rw [getAvailable, hb] at hfree
  rw [InventoryTracker.locked, hb] at hlocked
  exact ⟨hfree, hlocked⟩

end InventoryTracker

namespace RebalancePlanner

open InventoryTracker

variable {p : RebalancePlanner} {t t' : InventoryTracker} {asset : String} {assets : List String}
  {plan : TransferPlan} {plans : List TransferPlan}

/-! ## The plan of an asset -/

/-- A plan depends on the balances of its asset only. This is what lets the plans be made from one
    state and executed in another. -/
theorem plan_congr (p : RebalancePlanner) (same : SameFor asset t t') :
    { p with tracker := t }.plan asset = { p with tracker := t' }.plan asset := by
  simp only [plan, planBy, transfers, considersBy, direction, amount, skew, skewBy,
    needsRebalanceBy, maxDeviationBy, same.total, same.available]

/-- An asset that no venue lists has no plan. -/
theorem plan_unlisted (lists : Lists p.tracker assets) (h : asset ∉ assets) :
    p.plan asset = [] := by
  rcases p.plan_cases asset with none | ⟨source, target, move, cfg, moved, hdir, -, -, -⟩
  · exact none
  · -- Nothing is held of the asset, and nothing is more than half of it.
    have nowhere : ∀ venue, p.tracker.balances venue asset = none := by
      intro venue
      by_contra some
      exact h ((lists asset).mpr ⟨venue, Option.isSome_iff_ne_none.mpr some⟩)
    obtain ⟨-, more, -⟩ := direction_eq_some hdir
    simp [held, total, getAvailable, nowhere] at more

/-- A plan is for the asset it was asked for. -/
theorem plan_asset (h : plan ∈ p.plan asset) : plan.asset = asset := by
  rcases p.plan_cases asset with none | ⟨source, target, move, cfg, moved, -, -, -, heq⟩
  · rw [none] at h
    cases h
  · rw [heq] at h
    rw [List.mem_singleton.mp h]

/-- There is one plan for an asset at most: from the venue with more of it to the other. -/
theorem plan_length (p : RebalancePlanner) (asset : String) : (p.plan asset).length ≤ 1 := by
  rcases p.plan_cases asset with none | ⟨source, target, move, cfg, moved, -, -, -, heq⟩
  · rw [none]
    exact Nat.zero_le _
  · rw [heq]
    exact le_rfl

/-! ## All plans -/

/-- The transfers of all assets. `planAll` keeps the assets without a plan out; that makes no
    difference here. -/
def allPlans (p : RebalancePlanner) (assets : List String) : List TransferPlan :=
  (p.planAll assets).flatMap Prod.snd

/-- They are the plans of the assets, one asset after another. -/
theorem allPlans_eq (p : RebalancePlanner) (assets : List String) :
    p.allPlans assets = assets.flatMap p.plan := by
  unfold allPlans planAll checkAll checkAllBy
  induction assets with
  | nil => rfl
  | cons asset assets ih =>
    rw [List.map_cons, List.filterMap_cons, List.flatMap_cons, ← ih]
    by_cases empty : p.plan asset = []
    · simp [skewBy, empty]
    · simp [skewBy, empty]

/-- Of these, the plans of one asset are its own. -/
theorem filter_flatMap (nodup : assets.Nodup) (asset : String) :
    (assets.flatMap p.plan).filter (fun plan => plan.asset = asset) =
      if asset ∈ assets then p.plan asset else [] := by
  induction assets with
  | nil => rfl
  | cons first assets ih =>
    obtain ⟨fresh, rest⟩ := List.nodup_cons.mp nodup
    rw [List.flatMap_cons, List.filter_append, ih rest]
    by_cases own : first = asset
    · subst own
      have all : (p.plan first).filter (fun plan => plan.asset = first) = p.plan first := by
        rw [List.filter_eq_self]
        exact fun plan h => decide_eq_true (plan_asset h)
      rw [all, if_neg fresh, if_pos List.mem_cons_self, List.append_nil]
    · have none : (p.plan first).filter (fun plan => plan.asset = asset) = [] := by
        rw [List.filter_eq_nil_iff]
        intro plan h same
        exact own ((plan_asset h).symm.trans (of_decide_eq_true same))
      rw [none, List.nil_append]
      simp [Ne.symm own]

/-- **Whatever the order, an asset has its own plan.** -/
theorem filter_of_perm (lists : Lists p.tracker assets) (nodup : assets.Nodup)
    (order : plans.Perm (p.allPlans assets)) (asset : String) :
    (plans.filter fun plan => plan.asset = asset) = p.plan asset := by
  have own : (plans.filter fun plan => plan.asset = asset).Perm (p.plan asset) := by
    have filtered := order.filter fun plan => plan.asset = asset
    rw [allPlans_eq, filter_flatMap nodup] at filtered
    by_cases listed : asset ∈ assets
    · rwa [if_pos listed] at filtered
    · rw [if_neg listed] at filtered
      rwa [plan_unlisted lists listed]
  have length := p.plan_length asset
  cases hplan : p.plan asset with
  | nil =>
    rw [hplan] at own
    exact own.eq_nil
  | cons plan rest =>
    rw [hplan, List.length_cons] at length
    obtain rfl : rest = [] := List.length_eq_zero_iff.mp (by omega)
    rw [hplan] at own
    exact own.eq_singleton

end RebalancePlanner

/-! ## The estimate -/

section

variable {plans : List TransferPlan}

/-- The estimate adds one plan after another. -/
theorem estimateCost_append (plans : List TransferPlan) (plan : TransferPlan) :
    estimateCost (plans ++ [plan]) = (estimateCost plans).add plan := by
  simp only [estimateCost, List.foldl_append, List.foldl_cons, List.foldl_nil]

/-- It counts every plan. -/
theorem totalTransfers_estimate (plans : List TransferPlan) :
    (estimateCost plans).totalTransfers = plans.length := by
  induction plans using List.reverseRecOn with
  | nil => rfl
  | append_singleton plans plan ih =>
    rw [estimateCost_append, CostEstimate.add, ih, List.length_append, List.length_singleton]

/-- The fees of an asset are those of its plans. -/
theorem totalFees_estimate (plans : List TransferPlan) (asset : String) :
    ((estimateCost plans).totalFees asset).getD 0 =
      ((plans.filter fun plan => plan.asset = asset).map TransferPlan.estimatedFee).sum := by
  induction plans using List.reverseRecOn with
  | nil => rfl
  | append_singleton plans plan ih =>
    rw [estimateCost_append, CostEstimate.add, List.filter_append, List.map_append,
      List.sum_append]
    by_cases own : plan.asset = asset
    · subst own
      simp [ih]
    · rw [← ih]
      simp [own, Ne.symm own]

/-- And names the assets that are moved. -/
theorem mem_assetsAffected {asset : String} :
    asset ∈ (estimateCost plans).assetsAffected ↔ ∃ plan ∈ plans, plan.asset = asset := by
  induction plans using List.reverseRecOn with
  | nil => simp [estimateCost, CostEstimate.start]
  | append_singleton plans plan ih =>
    rw [estimateCost_append, CostEstimate.add]
    by_cases known : plan.asset ∈ (estimateCost plans).assetsAffected
    · rw [if_pos known, ih]
      constructor
      · rintro ⟨q, hq, rfl⟩
        exact ⟨q, List.mem_append_left _ hq, rfl⟩
      · rintro ⟨q, hq, rfl⟩
        rcases List.mem_append.mp hq with hq | hq
        · exact ⟨q, hq, rfl⟩
        · obtain rfl := List.mem_singleton.mp hq
          exact ih.mp known
    · rw [if_neg known, List.mem_append, ih, List.mem_singleton]
      simp [or_and_right, exists_or, eq_comm]

end

namespace RebalancePlanner

open InventoryTracker

variable {p : RebalancePlanner} {asset : String} {assets : List String}
  {plan : TransferPlan} {plans : List TransferPlan}

/-- What executing plans one after another does. `covered` is about each plan at its turn: the
    venue it takes from keeps its minimum. The last field says that planning again would find
    nothing to do. -/
structure Rebalanced (p : RebalancePlanner) (plans : List TransferPlan) : Prop where
  covered : ∀ before plan after, plans = before ++ plan :: after →
    minOperatingBalance plan.asset ≤
      (p.tracker.applyTransfers before).getAvailable plan.fromVenue plan.asset - plan.amount
  nonNegative : (p.tracker.applyTransfers plans).NonNegative
  lost : ∀ asset, (p.tracker.applyTransfers plans).held asset =
    p.tracker.held asset - ((estimateCost plans).totalFees asset).getD 0
  transfers : (estimateCost plans).totalTransfers = plans.length
  affected : ∀ asset, asset ∈ (estimateCost plans).assetsAffected ↔ p.plan asset ≠ []
  settled : ∀ assets, { p with tracker := p.tracker.applyTransfers plans }.planAll assets = []

/-- The one plan of an asset is safe. -/
theorem plan_cases_safe (nonneg : p.tracker.NonNegative) (asset : String) :
    p.plan asset = [] ∨ ∃ plan cfg, p.plan asset = [plan] ∧ p.SafePlan asset cfg plan := by
  rcases p.plan_cases asset with none | ⟨source, target, move, cfg, moved, -, hcfg, -, heq⟩
  · exact .inl none
  · exact .inr ⟨_, cfg, heq, safe_of_plan nonneg hcfg heq⟩

/-- After its own plan no balance of the asset is negative, and nothing is left to plan. -/
theorem own_plan (nonneg : p.tracker.NonNegative) (asset : String) :
    (∀ venue, 0 ≤ (p.tracker.applyTransfers (p.plan asset)).getAvailable venue asset) ∧
      (p.tracker.applyTransfers (p.plan asset)).held asset =
        p.tracker.held asset - ((p.plan asset).map TransferPlan.estimatedFee).sum ∧
      { p with tracker := p.tracker.applyTransfers (p.plan asset) }.plan asset = [] := by
  -- No plan: nothing moves. One plan: it is safe, and settles its asset.
  rcases plan_cases_safe nonneg asset with none | ⟨plan, cfg, one, safe⟩
  · rw [none]
    refine ⟨fun venue => nonneg.free venue asset, ?_, none⟩
    rw [List.map_nil, List.sum_nil, sub_zero]
    rfl
  · obtain ⟨moves, venues, worth, net, reserve, -, settled⟩ := safe
    rw [one]
    subst moves
    refine ⟨fun venue => ?_, ?_, settled⟩
    · show 0 ≤ (p.tracker.applyTransfer plan).getAvailable venue plan.asset
      by_cases source : venue = plan.fromVenue
      · have kept : 0 ≤ minOperatingBalance plan.asset := by
          unfold minOperatingBalance
          split_ifs <;> norm_num
        rw [source, getAvailable_source venues]
        exact kept.trans reserve
      · have target : venue = plan.toVenue := by
          cases venue <;> cases hf : plan.fromVenue <;> cases ht : plan.toVenue <;> simp_all
        rw [target, getAvailable_destination venues]
        exact add_nonneg (nonneg.free plan.toVenue plan.asset) net.le
    · rw [List.map_singleton, List.sum_singleton]
      exact held_applyTransfer venues

/-- A plan does not see what is executed before it: every plan before it is of another asset. -/
theorem before_is_other {before after : List TransferPlan} (lists : Lists p.tracker assets)
    (nodup : assets.Nodup) (order : (before ++ plan :: after).Perm (p.allPlans assets)) :
    p.plan plan.asset = [plan] ∧ before.filter (fun q => q.asset = plan.asset) = [] := by
  have own := filter_of_perm lists nodup order plan.asset
  have length := p.plan_length plan.asset
  rw [List.filter_append, List.filter_cons, if_pos (decide_eq_true rfl)] at own
  rw [← own, List.length_append, List.length_cons] at length
  have nothing : before.filter (fun q => q.asset = plan.asset) = [] :=
    List.length_eq_zero_iff.mp (by omega)
  have nothing' : after.filter (fun q => q.asset = plan.asset) = [] :=
    List.length_eq_zero_iff.mp (by omega)
  rw [nothing, nothing'] at own
  exact ⟨own.symm, nothing⟩

/-- **All plans together**: executed in any order they never overdraw a venue, they cost what was
    estimated, and the planner has nothing to add. -/
theorem rebalanced_of_planAll (p : RebalancePlanner) (assets : List String)
    (plans : List TransferPlan) (lists : Lists p.tracker assets) (nodup : assets.Nodup)
    (nonneg : p.tracker.NonNegative) (order : plans.Perm (p.allPlans assets)) :
    p.Rebalanced plans := by
  have own : ∀ asset, (plans.filter fun plan => plan.asset = asset) = p.plan asset :=
    filter_of_perm lists nodup order
  -- whatever the order, an asset ends up as after its own plan alone
  have same : ∀ asset, SameFor asset (p.tracker.applyTransfers plans)
      (p.tracker.applyTransfers (p.plan asset)) := by
    intro asset
    rw [← own asset]
    exact sameFor_filter p.tracker plans asset
  constructor
  -- at its turn a plan finds its asset as the planner saw it
  case covered =>
    rintro before plan after rfl
    obtain ⟨one, nothing⟩ := before_is_other lists nodup order
    have untouched := (sameFor_filter p.tracker before plan.asset).available plan.fromVenue
    rw [nothing] at untouched
    rcases plan_cases_safe nonneg plan.asset with none | ⟨plan', cfg, one', safe⟩
    · rw [none] at one
      cases one
    · obtain rfl := (List.cons.inj (one.symm.trans one')).1
      rw [untouched]
      exact safe.reserve
  case nonNegative =>
    refine nonNegative_of_parts (fun venue asset => ?_) fun venue asset => ?_
    · rw [(same asset).available]
      exact (own_plan nonneg asset).1 venue
    · rw [locked_applyTransfers]
      exact nonneg.locked venue asset
  case lost =>
    intro asset
    rw [(same asset).held, (own_plan nonneg asset).2.1, totalFees_estimate, own]
  case transfers => exact totalTransfers_estimate plans
  case affected =>
    intro asset
    rw [mem_assetsAffected, ← own, ne_eq, List.filter_eq_nil_iff]
    simp
  case settled =>
    intro assets'
    unfold planAll checkAll checkAllBy
    rw [List.filterMap_eq_nil_iff]
    intro skew hskew
    obtain ⟨asset, -, rfl⟩ := List.mem_map.mp hskew
    have settled : { p with tracker := p.tracker.applyTransfers plans }.plan asset = [] := by
      rw [plan_congr p (same asset)]
      exact (own_plan nonneg asset).2.2
    exact if_pos settled

/-- A planner for two assets, each of them at one venue only. -/
def sampleTwoAssets : RebalancePlanner where
  tracker :=
    { walletAddress := none
      balances := fun venue asset =>
        if asset = "ETH" ∧ venue = .cex then
          some { venue, asset, free := 6 / 10, locked := 0 }
        else if asset = "USDT" ∧ venue = .wallet then
          some { venue, asset, free := 4000, locked := 0 }
        else none }
  thresholdPct := 0

/-- It lists the two. -/
theorem sampleTwoAssets_lists : Lists sampleTwoAssets.tracker ["ETH", "USDT"] := by
  intro asset
  simp only [List.mem_cons, List.not_mem_nil, or_false]
  constructor
  · rintro (rfl | rfl)
    · exact ⟨.cex, rfl⟩
    · exact ⟨.wallet, rfl⟩
  · rintro ⟨venue, some⟩
    by_contra other
    obtain ⟨ether, dollars⟩ := not_or.mp other
    simp [sampleTwoAssets, ether, dollars] at some

/-- And owes neither of them. -/
theorem sampleTwoAssets_nonNegative : sampleTwoAssets.tracker.NonNegative := by
  intro venue asset b h
  unfold sampleTwoAssets at h
  dsimp only at h
  split_ifs at h <;> obtain rfl := Option.some.inj h <;> norm_num

/-- One tenth of a coin goes to the wallet and 2000 dollars to the exchange. The plans come in
    the order of the set and are executed the other way round. -/
theorem sample_rebalanced :
    sampleTwoAssets.allPlans ["ETH", "USDT"] =
        [{ fromVenue := .cex, toVenue := .wallet, asset := "ETH", amount := 1 / 10
           estimatedFee := 5 / 1000, estimatedTimeMin := 15 },
         { fromVenue := .wallet, toVenue := .cex, asset := "USDT", amount := 2000
           estimatedFee := 1, estimatedTimeMin := 15 }] ∧
      sampleTwoAssets.Rebalanced
        [{ fromVenue := .wallet, toVenue := .cex, asset := "USDT", amount := 2000
           estimatedFee := 1, estimatedTimeMin := 15 },
         { fromVenue := .cex, toVenue := .wallet, asset := "ETH", amount := 1 / 10
           estimatedFee := 5 / 1000, estimatedTimeMin := 15 }] := by
  have planned : sampleTwoAssets.allPlans ["ETH", "USDT"] =
      [{ fromVenue := .cex, toVenue := .wallet, asset := "ETH", amount := 1 / 10
         estimatedFee := 5 / 1000, estimatedTimeMin := 15 },
       { fromVenue := .wallet, toVenue := .cex, asset := "USDT", amount := 2000
         estimatedFee := 1, estimatedTimeMin := 15 }] := by decide +kernel
  refine ⟨planned, rebalanced_of_planAll _ ["ETH", "USDT"] _ sampleTwoAssets_lists (by decide)
    sampleTwoAssets_nonNegative ?_⟩
  rw [planned]
  exact List.Perm.swap _ _ _

end RebalancePlanner

end ArbEngine
