import ArbEngine.Inventory.Opportunities
import ArbEngine.Lib.BoundedQueue
import ArbEngine.Proof.Inventory.Preposition

/-!
# What becomes of opportunities

The queue is a bounded queue whose entries expire (`serveAll_eq`), so what was pushed is accounted
for over any sequence of requests (`opportunities_accounted`). An opportunity may still be popped
when it has expired: only a push looks at the clock.

Who asks for the transfers of an opportunity gets those of its plan (`transfersNeededFor_of_plan`).
The two answers part where something is lacking and nothing can be moved: then there is no plan,
but the plan says go, for the ratio of its profit to no cost is the largest number there is.
-/

namespace ArbEngine

open BoundedQueue (Policy Op pushes)

namespace PredictiveRebalancer

/-- The queue, as what it is an instance of. -/
def queuePolicy (maxQueueSize : ℕ) : Policy ArbOpportunity String ℚ where
  maxSize := maxQueueSize
  key := ArbOpportunity.id
  expired := ArbOpportunity.isExpired

def queueOp : QueueRequest → Op ArbOpportunity String ℚ
  | .push opp now => .push opp now
  | .pop id => .pop id

theorem serveAll_eq (maxQueueSize : ℕ) (requests : List QueueRequest) :
    serveAll maxQueueSize requests =
      (((queuePolicy maxQueueSize).run (requests.map queueOp)).queue,
        ((queuePolicy maxQueueSize).run (requests.map queueOp)).popped) := by
  induction requests using List.reverseRecOn with
  | nil => rfl
  | append_singleton requests request ih =>
    have step : serveAll maxQueueSize (requests ++ [request]) =
        serve maxQueueSize (serveAll maxQueueSize requests) request := by
      simp only [serveAll, List.foldl_append, List.foldl_cons, List.foldl_nil]
    rw [step, ih, List.map_append, List.map_singleton, Policy.run_append]
    cases request <;> rfl

/-- The opportunities that were pushed, in their order. -/
def pushed (requests : List QueueRequest) : List ArbOpportunity :=
  requests.filterMap fun
    | .push opp _ => some opp
    | .pop _ => none

theorem pushes_map_queueOp (requests : List QueueRequest) :
    pushes (requests.map queueOp) = pushed requests := by
  rw [pushes, List.filterMap_map, pushed]
  refine List.filterMap_congr fun request _ => ?_
  cases request <;> rfl

/-- The opportunity was pushed and this request came later. -/
def Followed (requests : List QueueRequest) (opp : ArbOpportunity) (request : QueueRequest) :
    Prop :=
  ∃ before own middle after, requests = before ++ .push opp own :: (middle ++ request :: after)

/-- Where the opportunities of a run have gone. The four lists share the pushed ones out among
    them, each of them as often as it was pushed. -/
structure Accounted (maxQueueSize : ℕ) (requests : List QueueRequest)
    (queue popped expired refused : List ArbOpportunity) : Prop where
  all : (pushed requests).Perm (queue ++ popped ++ expired ++ refused)
  ordered : queue.Sublist (pushed requests)
  bounded : queue.length ≤ maxQueueSize
  asked : ∀ opp ∈ popped, Followed requests opp (.pop opp.id)
  overdue : ∀ opp ∈ expired,
    ∃ later now, Followed requests opp (.push later now) ∧ opp.isExpired now = true
  full : ∀ opp ∈ refused, ∃ before now after, requests = before ++ .push opp now :: after ∧
    maxQueueSize ≤ ((serveAll maxQueueSize before).1.filter fun o => !o.isExpired now).length

theorem queueOp_injective : Function.Injective queueOp := by
  intro request request' same
  cases request <;> cases request' <;> cases same <;> rfl

/-- A run that splits at an operation of the library splits at its request. -/
theorem split_at_queueOp {requests : List QueueRequest} (request : QueueRequest)
    {before after : List (Op ArbOpportunity String ℚ)}
    (h : requests.map queueOp = before ++ queueOp request :: after) :
    ∃ before' after', requests = before' ++ request :: after' ∧
      before'.map queueOp = before ∧ after'.map queueOp = after := by
  obtain ⟨before', rest, rfl, rfl, hrest⟩ := List.map_eq_append_iff.mp h
  obtain ⟨request', after', rfl, same, rfl⟩ := List.map_eq_cons_iff.mp hrest
  rw [queueOp_injective same]
  exact ⟨before', after', rfl, rfl, rfl⟩

theorem followed_of_queueOp {requests : List QueueRequest} {opp : ArbOpportunity}
    {request : QueueRequest}
    (h : BoundedQueue.Followed (requests.map queueOp) opp (queueOp request)) :
    Followed requests opp request := by
  obtain ⟨before, own, middle, after, split⟩ := h
  obtain ⟨before', rest, rfl, -, hrest⟩ := split_at_queueOp (.push opp own) split
  obtain ⟨middle', after', rfl, -, -⟩ := split_at_queueOp request hrest
  exact ⟨before', own, middle', after', rfl⟩

/-- **No opportunity is lost or comes twice**: it is in the queue, or was popped under its name,
    or had expired when a later one was pushed, or met a queue that was full of live ones. -/
theorem opportunities_accounted (maxQueueSize : ℕ) (requests : List QueueRequest) :
    ∃ expired refused, Accounted maxQueueSize requests (serveAll maxQueueSize requests).1
      (serveAll maxQueueSize requests).2 expired refused := by
  obtain ⟨expired, refused, all, ordered, bounded, asked, overdue, full⟩ :=
    (queuePolicy maxQueueSize).accounted_run (requests.map queueOp)
  refine ⟨expired, refused, ?_⟩
  rw [pushes_map_queueOp] at all ordered
  rw [serveAll_eq]
  constructor
  case all => exact all
  case ordered => exact ordered
  case bounded => exact bounded
  case asked =>
    intro opp hopp
    exact followed_of_queueOp (asked opp hopp)
  case overdue =>
    intro opp hopp
    obtain ⟨later, now, hlater, gone⟩ := overdue opp hopp
    exact ⟨later, now, followed_of_queueOp hlater, gone⟩
  case full =>
    intro opp hopp
    obtain ⟨before, now, after, split, room⟩ := full opp hopp
    obtain ⟨before', after', hsplit, rfl, -⟩ :=
      split_at_queueOp (.push opp now) split
    refine ⟨before', now, after', hsplit, ?_⟩
    rw [serveAll_eq]
    exact room

/-! ## Two answers for one opportunity -/

variable {r : PredictiveRebalancer} {env : PredictiveEnv} {opp : ArbOpportunity}
  {plan : PrepositionPlan}

theorem planForOpportunity_live (live : opp.isExpired env.planned = false) :
    r.planForOpportunity env opp =
      (opp.shortfall r.tracker >>= fun lacking =>
        r.planForShortfall env opp
          ((ArbOpportunity.venues env.walletFirst).flatMap fun venue =>
            (lacking venue).map fun entry => (venue, entry.1, entry.2))) := by
  rw [planForOpportunity, live]
  rfl

/-- Setting prices changes the prices and nothing else. -/
theorem updatePrices_eq (r : PredictiveRebalancer) (updates : List (String × ℚ)) :
    ∃ prices, r.updatePrices updates = { r with pricesUsd := prices } := by
  induction updates generalizing r with
  | nil => exact ⟨r.pricesUsd, rfl⟩
  | cons update updates ih => exact ih (r.updatePrice update.1 update.2)

/-- The fees of a transfer are the same at all prices, and so are the transfers. -/
theorem buildTransfers_withPrices (r : PredictiveRebalancer) (prices : String → Option ℚ)
    (shortfall : List (Venue × String × ℚ)) :
    ({ r with pricesUsd := prices } : PredictiveRebalancer).buildTransfersForShortfall shortfall =
      r.buildTransfersForShortfall shortfall := by
  induction shortfall with
  | nil => rfl
  | cons entry shortfall ih =>
    obtain ⟨venue, asset', needed⟩ := entry
    rw [buildTransfersForShortfall, ih]
    rfl

theorem transfersNeededFor_updatePrices (r : PredictiveRebalancer)
    (updates : List (String × ℚ)) (order : MapOrder (Venue × String × ℚ)) :
    (r.updatePrices updates).transfersNeededFor order opp = r.transfersNeededFor order opp := by
  obtain ⟨prices, same⟩ := r.updatePrices_eq updates
  rw [same]
  unfold transfersNeededFor transfersForShortfall
  simp only [buildTransfers_withPrices]

/-! What is lacking is listed by venue; both calls go through this list, each in an order of its
own. -/

/-- All that is lacking, the wallet first. -/
def lackingEntries (r : PredictiveRebalancer) (opp : ArbOpportunity) :
    List (Venue × String × ℚ) :=
  (ArbOpportunity.venues true).flatMap (r.shortfallAt opp.requiredCapital)

theorem mem_lackingEntries {entry : Venue × String × ℚ} :
    entry ∈ r.lackingEntries opp ↔
      ∃ venue, ∃ need ∈ opp.requiredCapital venue, r.tracker.getAvailable venue need.1 < need.2 ∧
        entry = (venue, need.1, need.2 - r.tracker.getAvailable venue need.1) := by
  simp only [lackingEntries, List.mem_flatMap, mem_shortfallAt]
  constructor
  · rintro ⟨venue, -, found⟩
    exact ⟨venue, found⟩
  · rintro ⟨venue, found⟩
    exact ⟨venue, by cases venue <;> simp [ArbOpportunity.venues], found⟩

theorem lackingEntries_eq_nil : r.lackingEntries opp = [] ↔ r.Covered opp := by
  constructor
  · intro none venue need hneed
    by_contra lacks
    have entry := mem_lackingEntries.mpr ⟨venue, need, hneed, not_le.mp lacks, rfl⟩
    rw [none] at entry
    cases entry
  · intro covered
    rw [List.eq_nil_iff_forall_not_mem]
    intro entry hentry
    obtain ⟨venue, need, hneed, lacks, -⟩ := mem_lackingEntries.mp hentry
    exact absurd (covered venue need hneed) (not_le.mpr lacks)

/-- The plan goes through the same entries with either venue first. -/
theorem entries_perm (r : PredictiveRebalancer) (opp : ArbOpportunity) (walletFirst : Bool) :
    ((ArbOpportunity.venues walletFirst).flatMap (r.shortfallAt opp.requiredCapital)).Perm
      (r.lackingEntries opp) := by
  cases walletFirst with
  | true => exact List.Perm.refl _
  | false =>
    simp only [lackingEntries, ArbOpportunity.venues, if_true, Bool.false_eq_true, if_false,
      List.flatMap_cons, List.flatMap_nil, List.append_nil]
    exact List.perm_append_comm

/-- **Nothing can be moved** for what is lacking: not enough is there at the other venue, or the
    asset has no known fee, or less than its smallest withdrawal is asked for. -/
def NothingMoves (r : PredictiveRebalancer) (opp : ArbOpportunity) : Prop :=
  ∀ venue, ∀ need ∈ opp.requiredCapital venue, r.tracker.getAvailable venue need.1 < need.2 →
    r.transferFor venue need.1 (need.2 - r.tracker.getAvailable venue need.1) = .ok none

/-- Transfers can be built in any order of the entries, and are the same but for the order. -/
theorem buildTransfers_perm {shortfall shortfall' : List (Venue × String × ℚ)}
    {transfers : List TransferPlan} (same : shortfall'.Perm shortfall)
    (h : r.buildTransfersForShortfall shortfall = .ok transfers) :
    ∃ transfers', r.buildTransfersForShortfall shortfall' = .ok transfers' ∧
      transfers'.Perm transfers := by
  obtain ⟨fits, rfl⟩ := r.buildTransfers_eq_ok_iff.mp h
  have fits' : ∀ entry ∈ shortfall', r.MovableFits entry.1 entry.2.1 :=
    fun entry hentry => fits entry (same.subset hentry)
  exact ⟨_, r.buildTransfers_eq_ok_iff.mpr ⟨fits', rfl⟩, same.filterMap _⟩

theorem nothingMoves_iff {transfers : List TransferPlan}
    (h : r.buildTransfersForShortfall (r.lackingEntries opp) = .ok transfers) :
    r.NothingMoves opp ↔ transfers = [] := by
  obtain ⟨fits, rfl⟩ := r.buildTransfers_eq_ok_iff.mp h
  rw [List.filterMap_eq_nil_iff]
  constructor
  · intro none entry hentry
    obtain ⟨venue, need, hneed, lacks, rfl⟩ := mem_lackingEntries.mp hentry
    exact (r.transferFor_eq_ok_iff.mp (none venue need hneed lacks)).2.symm
  · intro none venue need hneed lacks
    have entry : (venue, need.1, need.2 - r.tracker.getAvailable venue need.1) ∈
        r.lackingEntries opp := mem_lackingEntries.mpr ⟨venue, need, hneed, lacks, rfl⟩
    have fit := fits _ entry
    have same := none _ entry
    rw [r.transferFor_eq_ok_iff]
    exact ⟨fit, same.symm⟩

/-- A plan that moves nothing costs nothing, and its ratio is the largest. -/
theorem nothing_to_move {shortfall : List (Venue × String × ℚ)} (lacks : shortfall ≠ [])
    (built : r.buildTransfersForShortfall shortfall = .ok [])
    (h : r.planForShortfall env opp shortfall = .ok plan) :
    plan.transfers = [] ∧ plan.estimatedCostUsd = 0 ∧
      (plan.shouldExecute = true ↔ r.config.minProfitToCostRatio ≤ maxDecimal) := by
  rw [planForShortfall, if_neg lacks, built, Outcome.ok_bind, estimateTransferCostUsd,
    Outcome.ok_bind, profitRatio, if_neg (lt_irrefl 0), Outcome.ok_bind] at h
  obtain rfl := Outcome.ok.inj h
  exact ⟨rfl, rfl, decide_eq_true_iff⟩

/-- A plan has the transfers that can be made; where nothing is lacking these are none. -/
theorem built_of_plan {shortfall : List (Venue × String × ℚ)}
    (h : r.planForShortfall env opp shortfall = .ok plan) :
    r.buildTransfersForShortfall shortfall = .ok plan.transfers := by
  unfold planForShortfall at h
  split at h
  · rename_i enough
    cases h
    rw [enough]
    rfl
  · obtain ⟨transfers, built, h⟩ := Outcome.bind_eq_ok.mp h
    obtain ⟨cost, -, h⟩ := Outcome.bind_eq_ok.mp h
    obtain ⟨ratio, -, h⟩ := Outcome.bind_eq_ok.mp h
    obtain rfl := Outcome.ok.inj h
    exact built

/-- The plan was made for the entries in its own order. -/
theorem planForShortfall_of_live (live : opp.isExpired env.planned = false)
    (planned : r.planForOpportunity env opp = .ok plan) :
    ∃ lacking, opp.shortfall r.tracker = .ok lacking ∧ ∃ shortfall,
      shortfall.Perm (r.lackingEntries opp) ∧
      r.planForShortfall env opp shortfall = .ok plan := by
  rw [planForOpportunity_live live] at planned
  obtain ⟨lacking, hlacking, h⟩ := Outcome.bind_eq_ok.mp planned
  obtain ⟨-, rfl⟩ := shortfall_eq_ok_iff.mp hlacking
  exact ⟨_, hlacking, _, r.entries_perm opp env.walletFirst, h⟩

/-- Where nothing is lacking the plan says go. -/
theorem shouldExecute_of_covered (live : opp.isExpired env.planned = false)
    (planned : r.planForOpportunity env opp = .ok plan) (covered : r.Covered opp) :
    plan.shouldExecute = true := by
  obtain ⟨-, -, shortfall, same, h⟩ := planForShortfall_of_live live planned
  rw [lackingEntries_eq_nil.mpr covered] at same
  rw [same.eq_nil, planForShortfall, if_pos rfl] at h
  obtain rfl := Outcome.ok.inj h
  rfl

/-- Where something is lacking and nothing is moved, the verdict looks at no cost. -/
theorem verdict_of_nothing (live : opp.isExpired env.planned = false)
    (planned : r.planForOpportunity env opp = .ok plan) (lacks : ¬r.Covered opp)
    (moves : plan.transfers = []) :
    plan.estimatedCostUsd = 0 ∧
      (plan.shouldExecute = true ↔ r.config.minProfitToCostRatio ≤ maxDecimal) := by
  obtain ⟨-, -, shortfall, same, h⟩ := planForShortfall_of_live live planned
  have some : shortfall ≠ [] := by
    intro none
    rw [none] at same
    exact lacks (lackingEntries_eq_nil.mp same.nil_eq.symm)
  have built := built_of_plan h
  rw [moves] at built
  exact (nothing_to_move some built h).2

/-- The answer for a list of entries. -/
theorem transfersForShortfall_eq {shortfall : List (Venue × String × ℚ)}
    {transfers : List TransferPlan}
    (built : r.buildTransfersForShortfall shortfall = .ok transfers) :
    ∃ hasPlan, r.transfersForShortfall shortfall = .ok (hasPlan, transfers) ∧
      (hasPlan = false ↔ shortfall ≠ [] ∧ transfers = []) := by
  by_cases lacks : shortfall = []
  · subst lacks
    cases built
    exact ⟨true, rfl, by simp⟩
  · refine ⟨!transfers.isEmpty, ?_, ?_⟩
    · rw [transfersForShortfall, if_neg lacks, built]
      rfl
    · rw [Bool.not_eq_false', List.isEmpty_iff]
      exact ⟨fun none => ⟨lacks, none⟩, And.right⟩

/-- Whoever asks after a plan was made gets an answer, with the plan's transfers. -/
theorem transfersNeededFor_eq (live : opp.isExpired env.planned = false)
    (planned : r.planForOpportunity env opp = .ok plan) (order : MapOrder (Venue × String × ℚ)) :
    ∃ hasPlan transfers, r.transfersNeededFor order opp = .ok (hasPlan, transfers) ∧
      transfers.Perm plan.transfers ∧
      (hasPlan = false ↔ ¬r.Covered opp ∧ r.NothingMoves opp) ∧
      (r.NothingMoves opp ↔ transfers = []) := by
  obtain ⟨lacking, hlacking, shortfall, entries, h⟩ := planForShortfall_of_live live planned
  obtain ⟨-, rfl⟩ := shortfall_eq_ok_iff.mp hlacking
  obtain ⟨listed, hlisted, same⟩ := buildTransfers_perm entries.symm (built_of_plan h)
  have arranged := order.perm (r.lackingEntries opp)
  obtain ⟨transfers, built, same'⟩ := buildTransfers_perm arranged hlisted
  obtain ⟨hasPlan, answer, without⟩ := transfersForShortfall_eq built
  have none_iff : r.NothingMoves opp ↔ transfers = [] := by
    rw [nothingMoves_iff hlisted]
    exact ⟨fun none => (none ▸ same').eq_nil, fun none => (none ▸ same').nil_eq.symm⟩
  have lacks : order.arrange (r.lackingEntries opp) ≠ [] ↔ ¬r.Covered opp := by
    rw [← lackingEntries_eq_nil]
    refine not_congr ⟨fun none => ?_, fun none => ?_⟩
    · rw [none] at arranged
      exact arranged.nil_eq.symm
    · rw [none] at arranged ⊢
      exact arranged.eq_nil
  refine ⟨hasPlan, transfers, ?_, same'.trans same, ?_, none_iff⟩
  · rw [transfersNeededFor, hlacking, Outcome.ok_bind]
    exact answer
  · rw [without, lacks, none_iff]

/-- **The transfers that are needed are those of the plan**, whatever prices have been set since
    and in whatever order the entries come. The answer is that there is no plan exactly where
    something is lacking and nothing can be moved for it; the plan itself costs nothing then, and
    says go all the same. -/
theorem transfersNeededFor_of_plan (r : PredictiveRebalancer) (env : PredictiveEnv)
    (opp : ArbOpportunity) (plan : PrepositionPlan) (live : opp.isExpired env.planned = false)
    (planned : r.planForOpportunity env opp = .ok plan) (updates : List (String × ℚ))
    (order : MapOrder (Venue × String × ℚ)) :
    ∃ hasPlan transfers,
      (r.updatePrices updates).transfersNeededFor order opp = .ok (hasPlan, transfers) ∧
      transfers.Perm plan.transfers ∧
      (hasPlan = false ↔ ¬r.Covered opp ∧ r.NothingMoves opp) ∧
      (hasPlan = true ∧ transfers = [] → plan.shouldExecute = true) ∧
      (hasPlan = false → transfers = [] ∧ plan.estimatedCostUsd = 0 ∧
        (plan.shouldExecute = true ↔ r.config.minProfitToCostRatio ≤ maxDecimal)) := by
  rw [transfersNeededFor_updatePrices]
  obtain ⟨hasPlan, transfers, answer, same, without, none_iff⟩ :=
    transfersNeededFor_eq live planned order
  refine ⟨hasPlan, transfers, answer, same, without, ?_, ?_⟩
  · rintro ⟨found, none⟩
    have covered : r.Covered opp := by
      by_contra lacks
      rw [without.mpr ⟨lacks, none_iff.mpr none⟩] at found
      cases found
    exact shouldExecute_of_covered live planned covered
  · intro nothing
    obtain ⟨lacks, stays⟩ := without.mp nothing
    have none := none_iff.mp stays
    have moves : plan.transfers = [] := (none ▸ same).nil_eq.symm
    exact ⟨none, verdict_of_nothing live planned lacks moves⟩

/-! ## A token that has no transfer fee -/

/-- The entries the other way round. -/
def backwards (α : Type) : MapOrder α := ⟨List.reverse, List.reverse_perm⟩

/-- Three of a token without a fee are lacking: there is no plan, and the plan says go. -/
theorem sample_needs_part :
    ∃ plan transfers,
      sampleStocked.planForOpportunity sampleEnv (sampleOpportunity "PEPE" 3) = .ok plan ∧
      (sampleStocked.updatePrices [("PEPE", 2), ("ETH", 3000)]).transfersNeededFor
        (backwards _) (sampleOpportunity "PEPE" 3) = .ok (false, transfers) ∧
      transfers = [] ∧ plan.estimatedCostUsd = 0 ∧ plan.shouldExecute = true := by
  have seen : sampleStocked.verdict (sampleOpportunity "PEPE" 3) = some (true, []) := by
    decide +kernel
  obtain ⟨plan, planned, go, -⟩ := planned_of_verdict seen
  obtain ⟨hasPlan, transfers, needed, -, without, -, nothing⟩ :=
    transfersNeededFor_of_plan sampleStocked sampleEnv (sampleOpportunity "PEPE" 3) plan
      (by decide +kernel) planned [("PEPE", 2), ("ETH", 3000)] (backwards _)
  have lacks : ¬sampleStocked.Covered (sampleOpportunity "PEPE" 3) := by
    intro covered
    have enough := covered .cex ("PEPE", 3) (List.mem_singleton.mpr rfl)
    revert enough
    decide +kernel
  have stays : sampleStocked.NothingMoves (sampleOpportunity "PEPE" 3) := by
    intro venue need hneed _
    cases venue with
    | wallet => cases hneed
    | cex =>
      obtain rfl := List.mem_singleton.mp hneed
      decide +kernel
  obtain rfl := without.mpr ⟨lacks, stays⟩
  obtain ⟨none, free, -⟩ := nothing rfl
  exact ⟨plan, transfers, planned, needed, none, free, go⟩

end PredictiveRebalancer

end ArbEngine
