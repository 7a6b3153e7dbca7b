import ArbEngine.Proof.Inventory.Mempool
import ArbEngine.Proof.Inventory.TrackerLedger

/-!
# Whether a plan that says go is enough

A plan for an opportunity is a list of transfers and a verdict. The verdict compares the profit
with the cost of the transfers; that the transfers bring what is lacking is left to them. A
transfer moves at most what is lacking and its fee is taken on the way, so what arrives is less
(`arriving_lt`), and an asset that no fee is known for is not moved at all.

`plan_sufficient_iff` says which plans that say go are enough once all their transfers have
arrived.
-/

namespace ArbEngine

/-! ## Transfers on the books -/

/-- A transfer leaves its source whole and arrives without its fee. -/
def TransferPlan.postings (plan : TransferPlan) : List ((Venue × String) × ℚ) :=
  [((plan.fromVenue, plan.asset), -plan.amount), ((plan.toVenue, plan.asset), plan.netAmount)]

namespace InventoryTracker

variable {t : InventoryTracker} {plans : List TransferPlan}

def applyTransfer (t : InventoryTracker) (plan : TransferPlan) : InventoryTracker :=
  (t.addFree plan.fromVenue plan.asset (-plan.amount)).addFree plan.toVenue plan.asset
    plan.netAmount

/-- The tracker once all these transfers have arrived. -/
def applyTransfers (t : InventoryTracker) (plans : List TransferPlan) : InventoryTracker :=
  plans.foldl applyTransfer t

theorem free_applyTransfers :
    (t.applyTransfers plans).free =
      Ledger.postAll t.free (plans.flatMap TransferPlan.postings) := by
  induction plans generalizing t with
  | nil => rfl
  | cons plan plans ih =>
    show ((t.applyTransfer plan).applyTransfers plans).free = _
    rw [ih, List.flatMap_cons, Ledger.postAll_append, applyTransfer, free_addFree, free_addFree]
    rfl

theorem getAvailable_applyTransfers (venue : Venue) (asset : String) :
    (t.applyTransfers plans).getAvailable venue asset =
      t.getAvailable venue asset +
        Ledger.net (plans.flatMap TransferPlan.postings) (venue, asset) := by
  show (t.applyTransfers plans).free (venue, asset) = _
  rw [free_applyTransfers, Ledger.postAll_apply]
  rfl

end InventoryTracker

namespace PredictiveRebalancer

section Sufficiency

variable {r : PredictiveRebalancer} {env : PredictiveEnv} {opp : ArbOpportunity}
  {plan : PrepositionPlan} {venue : Venue} {asset : String}
  {shortfall : List (Venue × String × ℚ)}

/-! ## One transfer -/

/-- The transfer of a shortfall goes to its venue, from the other one, with no more than is
    lacking and a fee. -/
theorem transferOf_eq_some {entry : Venue × String × ℚ} {transfer : TransferPlan}
    (needed : 0 < entry.2.2) (h : r.transferOf entry = some transfer) :
    transfer.fromVenue = sourceVenue entry.1 ∧ transfer.toVenue = entry.1 ∧
      transfer.asset = entry.2.1 ∧ 0 < transfer.amount ∧ transfer.amount ≤ entry.2.2 ∧
      0 < transfer.estimatedFee := by
  unfold transferOf at h
  split at h
  · cases h
  · rename_i movable
    obtain ⟨cfg, hcfg, h⟩ := Option.bind_eq_some_iff.mp h
    split at h
    · cases h
    · cases h
      exact ⟨rfl, rfl, rfl, lt_min needed (not_le.mp movable), min_le_left _ _,
        transferFees_pos hcfg⟩

theorem sourceVenue_ne (venue : Venue) : sourceVenue venue ≠ venue := by
  cases venue <;> decide

/-- What the transfer of one shortfall adds to an account. -/
def arrivingOf (r : PredictiveRebalancer) (entry : Venue × String × ℚ) (k : Venue × String) : ℚ :=
  Ledger.net ((r.transferOf entry).toList.flatMap TransferPlan.postings) k

/-- At its own venue a transfer falls short of what is lacking. -/
theorem arrivingOf_lt {entry : Venue × String × ℚ} (needed : 0 < entry.2.2) :
    r.arrivingOf entry (entry.1, entry.2.1) < entry.2.2 := by
  unfold arrivingOf
  cases h : r.transferOf entry with
  | none => simpa using needed
  | some transfer =>
    obtain ⟨hfrom, hto, hasset, -, hamount, hfee⟩ := transferOf_eq_some needed h
    have other : ¬(sourceVenue entry.1, entry.2.1) = (entry.1, entry.2.1) :=
      fun heq => sourceVenue_ne entry.1 (Prod.mk.inj heq).1
    simp only [Option.toList_some, List.flatMap_singleton, TransferPlan.postings,
      TransferPlan.netAmount, Ledger.net_cons, Ledger.net_nil, hfrom, hto, hasset, if_neg other,
      if_true]
    linarith

/-- Everywhere else it adds nothing. -/
theorem arrivingOf_nonpos {entry : Venue × String × ℚ} {k : Venue × String}
    (needed : 0 < entry.2.2) (hk : (entry.1, entry.2.1) ≠ k) : r.arrivingOf entry k ≤ 0 := by
  unfold arrivingOf
  cases h : r.transferOf entry with
  | none => simp
  | some transfer =>
    obtain ⟨-, hto, hasset, hpos, -, -⟩ := transferOf_eq_some needed h
    simp only [Option.toList_some, List.flatMap_singleton, TransferPlan.postings,
      Ledger.net_cons, Ledger.net_nil, hto, hasset, if_neg hk]
    split
    · linarith
    · linarith

/-! ## All transfers to a venue -/

/-- What the transfers of these shortfalls add to an account. -/
def arriving (r : PredictiveRebalancer) (shortfall : List (Venue × String × ℚ))
    (k : Venue × String) : ℚ :=
  Ledger.net ((shortfall.filterMap r.transferOf).flatMap TransferPlan.postings) k

theorem arriving_cons (entry : Venue × String × ℚ) (k : Venue × String) :
    r.arriving (entry :: shortfall) k = r.arrivingOf entry k + r.arriving shortfall k := by
  unfold arriving arrivingOf
  cases h : r.transferOf entry with
  | none => simp [List.filterMap_cons_none h]
  | some transfer => simp [List.filterMap_cons_some h]

theorem arriving_append {xs ys : List (Venue × String × ℚ)} (k : Venue × String) :
    r.arriving (xs ++ ys) k = r.arriving xs k + r.arriving ys k := by
  unfold arriving
  rw [List.filterMap_append, List.flatMap_append, Ledger.net_append]

theorem arriving_nonpos {k : Venue × String} (needed : ∀ entry ∈ shortfall, 0 < entry.2.2)
    (keys : ∀ entry ∈ shortfall, (entry.1, entry.2.1) ≠ k) : r.arriving shortfall k ≤ 0 := by
  induction shortfall with
  | nil => exact le_rfl
  | cons entry shortfall ih =>
    obtain ⟨first, others⟩ := List.forall_mem_cons.mp needed
    obtain ⟨hk, hkeys⟩ := List.forall_mem_cons.mp keys
    rw [arriving_cons]
    have := arrivingOf_nonpos (r := r) first hk
    linarith [ih others hkeys]

/-- Where a venue lacks an asset, less arrives than it lacks. -/
theorem arriving_lt {needed : ℚ} (positive : ∀ entry ∈ shortfall, 0 < entry.2.2)
    (once : (shortfall.map fun entry => (entry.1, entry.2.1)).Nodup)
    (lacking : (venue, asset, needed) ∈ shortfall) :
    r.arriving shortfall (venue, asset) < needed := by
  induction shortfall with
  | nil => cases lacking
  | cons entry shortfall ih =>
    obtain ⟨first, others⟩ := List.forall_mem_cons.mp positive
    obtain ⟨fresh, once⟩ := List.nodup_cons.mp once
    rw [arriving_cons]
    rcases List.mem_cons.mp lacking with rfl | later
    · have rest : r.arriving shortfall (venue, asset) ≤ 0 := by
        apply arriving_nonpos others
        intro entry hentry heq
        exact fresh (List.mem_map.mpr ⟨entry, hentry, heq⟩)
      have own : r.arrivingOf (venue, asset, needed) (venue, asset) < needed := arrivingOf_lt first
      linarith
    · have own : r.arrivingOf entry (venue, asset) ≤ 0 := by
        apply arrivingOf_nonpos first
        intro heq
        exact fresh (List.mem_map.mpr ⟨_, later, heq.symm⟩)
      linarith [ih others once later]

/-! ## What is lacking -/

theorem mem_shortfallAt {needs : Venue → List (String × ℚ)} {entry : Venue × String × ℚ} :
    entry ∈ r.shortfallAt needs venue ↔
      ∃ need ∈ needs venue, r.tracker.getAvailable venue need.1 < need.2 ∧
        entry = (venue, need.1, need.2 - r.tracker.getAvailable venue need.1) := by
  unfold shortfallAt lackingOf
  constructor
  · intro h
    obtain ⟨lacking, hlacking, rfl⟩ := List.mem_map.mp h
    obtain ⟨need, hneed, found⟩ := List.mem_filterMap.mp hlacking
    split at found
    · rename_i lacks
      cases found
      exact ⟨need, hneed, lacks, rfl⟩
    · cases found
  · rintro ⟨need, hneed, lacks, rfl⟩
    exact List.mem_map.mpr
      ⟨_, List.mem_filterMap.mpr ⟨need, hneed, if_pos lacks⟩, rfl⟩

/-- A shortfall names no account twice where the needs name no asset twice. -/
theorem shortfallAt_nodup {needs : Venue → List (String × ℚ)}
    (once : ((needs venue).map Prod.fst).Nodup) :
    ((r.shortfallAt needs venue).map fun entry => (entry.1, entry.2.1)).Nodup := by
  have kept : ∀ assets : List (String × ℚ),
      ((assets.filterMap (lackingOf r.tracker venue)).map Prod.fst).Sublist
        (assets.map Prod.fst) := by
    intro assets
    induction assets with
    | nil => exact List.Sublist.refl _
    | cons need assets ih =>
      by_cases lacks : r.tracker.getAvailable venue need.1 < need.2
      · have found : lackingOf r.tracker venue need =
            some (need.1, need.2 - r.tracker.getAvailable venue need.1) := if_pos lacks
        rw [List.filterMap_cons_some found]
        exact ih.cons_cons _
      · have found : lackingOf r.tracker venue need = none := if_neg lacks
        rw [List.filterMap_cons_none found]
        exact ih.cons _
  have named : (r.shortfallAt needs venue).map (fun entry => (entry.1, entry.2.1)) =
      (((needs venue).filterMap (lackingOf r.tracker venue)).map Prod.fst).map (Prod.mk venue) := by
    unfold shortfallAt
    rw [List.map_map, List.map_map]
    rfl
  rw [named]
  exact (once.sublist (kept _)).map fun _ _ h => (Prod.mk.inj h).2

/-! ## The plan -/

/-- **Nothing is lacking**: every venue has what the opportunity needs there. -/
def Covered (r : PredictiveRebalancer) (opp : ArbOpportunity) : Prop :=
  ∀ venue, ∀ need ∈ opp.requiredCapital venue, need.2 ≤ r.tracker.getAvailable venue need.1

/-- **A plan is enough**: after its transfers every venue has what the opportunity needs there,
    the sources among them. -/
structure Sufficient (r : PredictiveRebalancer) (opp : ArbOpportunity) (plan : PrepositionPlan) :
    Prop where
  supplied : ∀ venue, ∀ need ∈ opp.requiredCapital venue,
    need.2 ≤ (r.tracker.applyTransfers plan.transfers).getAvailable venue need.1
  sources : ∀ transfer ∈ plan.transfers, ∀ need ∈ opp.requiredCapital transfer.fromVenue,
    need.1 = transfer.asset →
      need.2 ≤ (r.tracker.applyTransfers plan.transfers).getAvailable transfer.fromVenue need.1

/-- A plan that says go is the transfers of what is lacking. -/
theorem transfers_of_go (h : r.planForOpportunity env opp = .ok plan)
    (go : plan.shouldExecute = true) :
    plan.transfers = ((ArbOpportunity.venues env.walletFirst).flatMap
      (r.shortfallAt opp.requiredCapital)).filterMap r.transferOf := by
  unfold planForOpportunity at h
  split at h
  · cases h
    cases go
  · obtain ⟨lacking, hlacking, h⟩ := Outcome.bind_eq_ok.mp h
    obtain ⟨-, rfl⟩ := shortfall_eq_ok_iff.mp hlacking
    change r.planForShortfall env opp ((ArbOpportunity.venues env.walletFirst).flatMap
      (r.shortfallAt opp.requiredCapital)) = _ at h
    unfold planForShortfall at h
    split at h
    · rename_i enough
      cases h
      rw [enough]
      rfl
    · obtain ⟨transfers, htransfers, h⟩ := Outcome.bind_eq_ok.mp h
      obtain ⟨cost, -, h⟩ := Outcome.bind_eq_ok.mp h
      obtain ⟨ratio, -, h⟩ := Outcome.bind_eq_ok.mp h
      obtain ⟨-, rfl⟩ := r.buildTransfers_eq_ok_iff.mp htransfers
      cases h
      rfl

/-- In whichever order the venues come, an account gets what is sent to its venue and gives what
    is sent to the other. -/
theorem arriving_venues (needs : Venue → List (String × ℚ)) (walletFirst : Bool)
    (k : Venue × String) :
    r.arriving ((ArbOpportunity.venues walletFirst).flatMap (r.shortfallAt needs)) k =
      r.arriving (r.shortfallAt needs k.1) k +
        r.arriving (r.shortfallAt needs (sourceVenue k.1)) k := by
  have two : (ArbOpportunity.venues walletFirst).flatMap (r.shortfallAt needs) =
        r.shortfallAt needs k.1 ++ r.shortfallAt needs (sourceVenue k.1) ∨
      (ArbOpportunity.venues walletFirst).flatMap (r.shortfallAt needs) =
        r.shortfallAt needs (sourceVenue k.1) ++ r.shortfallAt needs k.1 := by
    obtain ⟨venue, asset⟩ := k
    cases walletFirst <;> cases venue <;> simp [ArbOpportunity.venues, sourceVenue]
  rcases two with h | h
  · rw [h, arriving_append]
  · rw [h, arriving_append, add_comm]

theorem needed_pos {needs : Venue → List (String × ℚ)} :
    ∀ entry ∈ r.shortfallAt needs venue, 0 < entry.2.2 := by
  intro entry hentry
  obtain ⟨need, -, lacks, rfl⟩ := mem_shortfallAt.mp hentry
  exact sub_pos.mpr lacks

/-- Where a venue lacks an asset it still does once everything has arrived. -/
theorem still_lacking {needs : Venue → List (String × ℚ)} {need : String × ℚ} (walletFirst : Bool)
    (once : ∀ venue, ((needs venue).map Prod.fst).Nodup) (hneed : need ∈ needs venue)
    (lacks : r.tracker.getAvailable venue need.1 < need.2) :
    r.tracker.getAvailable venue need.1 + r.arriving
      ((ArbOpportunity.venues walletFirst).flatMap (r.shortfallAt needs)) (venue, need.1) <
        need.2 := by
  rw [arriving_venues]
  have here : r.arriving (r.shortfallAt needs venue) (venue, need.1) <
      need.2 - r.tracker.getAvailable venue need.1 :=
    arriving_lt needed_pos (shortfallAt_nodup (once venue))
      (mem_shortfallAt.mpr ⟨need, hneed, lacks, rfl⟩)
  have there : r.arriving (r.shortfallAt needs (sourceVenue venue)) (venue, need.1) ≤ 0 := by
    apply arriving_nonpos needed_pos
    intro entry hentry heq
    obtain ⟨_, -, -, rfl⟩ := mem_shortfallAt.mp hentry
    exact sourceVenue_ne venue (Prod.mk.inj heq).1
  linarith

/-- **A plan that says go is enough exactly where nothing is lacking**, so that it moves
    nothing. -/
theorem plan_sufficient_iff (once : ∀ venue, ((opp.requiredCapital venue).map Prod.fst).Nodup)
    (h : r.planForOpportunity env opp = .ok plan) (go : plan.shouldExecute = true) :
    r.Sufficient opp plan ↔ r.Covered opp := by
  have transfers := transfers_of_go h go
  constructor
  · intro enough venue need hneed
    by_contra lacks
    have short := still_lacking env.walletFirst once hneed (not_le.mp lacks)
    have supplied := enough.supplied venue need hneed
    rw [InventoryTracker.getAvailable_applyTransfers, transfers] at supplied
    exact absurd supplied (not_le.mpr short)
  · intro covered
    have none_lacking : ∀ venue, r.shortfallAt opp.requiredCapital venue = [] := by
      intro venue
      rw [List.eq_nil_iff_forall_not_mem]
      intro entry hentry
      obtain ⟨need, hneed, lacks, -⟩ := mem_shortfallAt.mp hentry
      exact absurd (covered venue need hneed) (not_le.mpr lacks)
    have nothing : plan.transfers = [] := by
      rw [transfers]
      simp [none_lacking]
    refine ⟨?_, ?_⟩
    · intro venue need hneed
      rw [nothing]
      exact covered venue need hneed
    · intro transfer htransfer
      rw [nothing] at htransfer
      cases htransfer

end Sufficiency

/-! ## An opportunity in two assets -/

/-- The profit is a hundred dollars, and the exchange has to hold ether for it. -/
def sampleOpportunity (asset : String) (needed : ℚ) : ArbOpportunity where
  id := "arb-1a2b3c4d"
  requiredCapital := fun
    | .wallet => []
    | .cex => [(asset, needed)]
  expectedProfitUsd := 100
  ttl := 12
  discoveredAt := 0

/-- Two ether at the exchange, eight in the wallet. -/
def sampleStocked : PredictiveRebalancer :=
  { sampleRebalancer with
    tracker :=
      ((InventoryTracker.new none).addFree .cex "ETH" 2).addFree .wallet "ETH" 8 }

/-- The verdict and the transfers of a plan. -/
def verdict (r : PredictiveRebalancer) (opp : ArbOpportunity) :
    Option (Bool × List TransferPlan) :=
  (r.planForOpportunity sampleEnv opp).toOption.map fun plan => (plan.shouldExecute, plan.transfers)

theorem planned_of_verdict {r : PredictiveRebalancer} {opp : ArbOpportunity} {go : Bool}
    {transfers : List TransferPlan} (h : r.verdict opp = some (go, transfers)) :
    ∃ plan, r.planForOpportunity sampleEnv opp = .ok plan ∧ plan.shouldExecute = go ∧
      plan.transfers = transfers := by
  obtain ⟨plan, hplan, hverdict⟩ := Option.map_eq_some_iff.mp h
  obtain ⟨rfl, rfl⟩ := Prod.mk.inj hverdict
  exact ⟨plan, Outcome.toOption_eq_some.mp hplan, rfl, rfl⟩

theorem sampleOpportunity_once (asset : String) (needed : ℚ) (venue : Venue) :
    (((sampleOpportunity asset needed).requiredCapital venue).map Prod.fst).Nodup := by
  cases venue with
  | wallet => exact List.nodup_nil
  | cex => exact List.nodup_singleton asset

/-- One ether is there already. -/
theorem sample_plan_sufficient :
    ∃ plan, sampleStocked.planForOpportunity sampleEnv (sampleOpportunity "ETH" 1) = .ok plan ∧
      plan.shouldExecute = true ∧ sampleStocked.Sufficient (sampleOpportunity "ETH" 1) plan := by
  have seen : sampleStocked.verdict (sampleOpportunity "ETH" 1) = some (true, []) := by
    decide +kernel
  obtain ⟨plan, hplan, go, -⟩ := planned_of_verdict seen
  refine ⟨plan, hplan, go, (plan_sufficient_iff (sampleOpportunity_once _ _) hplan go).mpr ?_⟩
  intro venue need hneed
  cases venue with
  | wallet => cases hneed
  | cex =>
    obtain rfl := List.mem_singleton.mp hneed
    decide +kernel

/-- **A go with too little**: of three ether the third is sent and arrives without its fee; of an
    asset that no fee is known for nothing is sent. -/
theorem sample_plan_short :
    (∃ plan, sampleStocked.planForOpportunity sampleEnv (sampleOpportunity "ETH" 3) = .ok plan ∧
      plan.shouldExecute = true ∧ plan.transfers.length = 1 ∧
      ¬sampleStocked.Sufficient (sampleOpportunity "ETH" 3) plan) ∧
    ∃ plan, sampleStocked.planForOpportunity sampleEnv (sampleOpportunity "PEPE" 3) = .ok plan ∧
      plan.shouldExecute = true ∧ plan.transfers = [] ∧
      ¬sampleStocked.Sufficient (sampleOpportunity "PEPE" 3) plan := by
  have ether : sampleStocked.verdict (sampleOpportunity "ETH" 3) = some (true,
      [{ fromVenue := .wallet, toVenue := .cex, asset := "ETH", amount := 1
         estimatedFee := 5 / 1000, estimatedTimeMin := 15 }]) := by decide +kernel
  have pepe : sampleStocked.verdict (sampleOpportunity "PEPE" 3) = some (true, []) := by
    decide +kernel
  constructor
  · obtain ⟨plan, hplan, go, transfers⟩ := planned_of_verdict ether
    refine ⟨plan, hplan, go, by rw [transfers]; rfl, fun enough => ?_⟩
    have supplied := enough.supplied .cex ("ETH", 3) (List.mem_singleton.mpr rfl)
    rw [transfers] at supplied
    revert supplied
    decide +kernel
  · obtain ⟨plan, hplan, go, transfers⟩ := planned_of_verdict pepe
    refine ⟨plan, hplan, go, transfers, fun enough => ?_⟩
    have supplied := enough.supplied .cex ("PEPE", 3) (List.mem_singleton.mpr rfl)
    rw [transfers] at supplied
    revert supplied
    decide +kernel

end PredictiveRebalancer

end ArbEngine
