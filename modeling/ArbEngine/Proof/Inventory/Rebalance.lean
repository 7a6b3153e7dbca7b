import ArbEngine.Inventory.Rebalancer
import ArbEngine.Proof.Inventory.Preposition

/-!
# What the rebalancing planner does

A plan moves at most what the source has beyond one half of the total, so that it never tips the
balance the other way; and after it nothing is left to move that would be worth a withdrawal
(`plan_settles`). The fee that is lost on the way makes the half a little smaller, and the
reserve of the source may keep the venues apart, but neither calls for another transfer.

Whether an asset is looked at at all is decided by a fixed threshold, whatever the planner was
made with (`thresholdDecides_iff`). It is near thirty points: shares are doubles, and in doubles
0.8 less a half is more than 0.30, so that a share of 80% is over it (`offBalance_iff`).

What a plan moves is the smaller of what the source can spare and what would balance the venues, so
each claim about it is a bound on one of the two.
-/

namespace ArbEngine

/-- Every asset of the table costs less to withdraw than the least that can be withdrawn, so
    something always arrives. -/
theorem transferFees_lt {asset : String} {cfg : TransferConfig}
    (h : transferFees asset = some cfg) : cfg.withdrawalFee < cfg.minWithdrawal := by
  unfold transferFees at h
  split at h
  · obtain rfl := Option.some.inj h
    norm_num
  · split at h
    · obtain rfl := Option.some.inj h
      norm_num
    · cases h

/-! ## Balances -/

namespace InventoryTracker

variable {t : InventoryTracker} {venue fromVenue toVenue : Venue} {asset : String}
  {plan : TransferPlan}

/-- No balance is negative. -/
def NonNegative (t : InventoryTracker) : Prop :=
  ∀ v a b, t.balances v a = some b → 0 ≤ b.free ∧ 0 ≤ b.locked

/-- The total is what is free and what is locked. -/
theorem total_eq (t : InventoryTracker) (venue : Venue) (asset : String) :
    t.total venue asset = t.getAvailable venue asset + t.locked (venue, asset) := by
  unfold total getAvailable locked
  cases t.balances venue asset <;> simp

/-- An asset that is not listed has nothing free, which is not negative either. -/
theorem NonNegative.free (h : t.NonNegative) (venue : Venue) (asset : String) :
    0 ≤ t.getAvailable venue asset := by
  unfold getAvailable
  cases hb : t.balances venue asset with
  | none => exact le_rfl
  | some b => exact (h venue asset b hb).1

theorem NonNegative.locked (h : t.NonNegative) (venue : Venue) (asset : String) :
    0 ≤ t.locked (venue, asset) := by
  unfold InventoryTracker.locked
  cases hb : t.balances venue asset with
  | none => exact le_rfl
  | some b => exact (h venue asset b hb).2

theorem NonNegative.total (h : t.NonNegative) (venue : Venue) (asset : String) :
    0 ≤ t.total venue asset := by
  rw [total_eq]
  exact add_nonneg (h.free venue asset) (h.locked venue asset)

theorem NonNegative.free_le_total (h : t.NonNegative) (venue : Venue) (asset : String) :
    t.getAvailable venue asset ≤ t.total venue asset := by
  rw [total_eq]
  exact le_add_of_nonneg_right (h.locked venue asset)

/-- What both venues hold of the asset. -/
def held (t : InventoryTracker) (asset : String) : ℚ :=
  t.total .cex asset + t.total .wallet asset

/-- Both venues, in either order. -/
theorem held_eq (h : fromVenue ≠ toVenue) :
    t.held asset = t.total fromVenue asset + t.total toVenue asset := by
  unfold held
  cases fromVenue <;> cases toVenue
  · exact absurd rfl h
  · rfl
  · exact add_comm _ _
  · exact absurd rfl h

/-! ### Transfers -/

/-- A transfer moves what is free. -/
theorem locked_applyTransfer : (t.applyTransfer plan).locked = t.locked := by
  rw [applyTransfer, locked_addFree, locked_addFree]

/-- What is free after a transfer is what was, and what was posted. -/
theorem getAvailable_applyTransfer (venue : Venue) (asset : String) :
    (t.applyTransfer plan).getAvailable venue asset =
      t.getAvailable venue asset + Ledger.net plan.postings (venue, asset) := by
  have one : (t.applyTransfers [plan]).getAvailable venue asset =
      t.getAvailable venue asset + Ledger.net ([plan].flatMap TransferPlan.postings)
        (venue, asset) := getAvailable_applyTransfers venue asset
  rwa [List.flatMap_singleton] at one

/-- The source loses the amount. -/
theorem getAvailable_source (h : plan.fromVenue ≠ plan.toVenue) :
    (t.applyTransfer plan).getAvailable plan.fromVenue plan.asset =
      t.getAvailable plan.fromVenue plan.asset - plan.amount := by
  rw [getAvailable_applyTransfer]
  simp [TransferPlan.postings, h.symm, sub_eq_add_neg]

/-- The destination gets it without the fee. -/
theorem getAvailable_destination (h : plan.fromVenue ≠ plan.toVenue) :
    (t.applyTransfer plan).getAvailable plan.toVenue plan.asset =
      t.getAvailable plan.toVenue plan.asset + plan.netAmount := by
  rw [getAvailable_applyTransfer]
  simp [TransferPlan.postings, h]

/-- And so do the totals. -/
theorem total_source (h : plan.fromVenue ≠ plan.toVenue) :
    (t.applyTransfer plan).total plan.fromVenue plan.asset =
      t.total plan.fromVenue plan.asset - plan.amount := by
  rw [total_eq, total_eq, locked_applyTransfer, getAvailable_source h]
  ring

/-- Of the destination as well. -/
theorem total_destination (h : plan.fromVenue ≠ plan.toVenue) :
    (t.applyTransfer plan).total plan.toVenue plan.asset =
      t.total plan.toVenue plan.asset + plan.netAmount := by
  rw [total_eq, total_eq, locked_applyTransfer, getAvailable_destination h]
  ring

/-- The fee is all that a transfer costs. -/
theorem held_applyTransfer (h : plan.fromVenue ≠ plan.toVenue) :
    (t.applyTransfer plan).held plan.asset = t.held plan.asset - plan.estimatedFee := by
  rw [held_eq h, held_eq h, total_source h, total_destination h, TransferPlan.netAmount]
  ring

end InventoryTracker

/-! ## Plans -/

namespace RebalancePlanner

open InventoryTracker

variable {p : RebalancePlanner} {asset : String} {fromVenue toVenue : Venue}
  {amountToMove moved : ℚ} {cfg : TransferConfig} {plan : TransferPlan}

/-- Something is moved away from the venue that has more than one half free. -/
theorem direction_eq_some
    (h : p.direction asset = some (fromVenue, toVenue, amountToMove)) :
    fromVenue ≠ toVenue ∧ p.tracker.held asset / 2 < p.tracker.getAvailable fromVenue asset ∧
      amountToMove = p.tracker.getAvailable fromVenue asset - p.tracker.held asset / 2 := by
  unfold direction at h
  dsimp only at h
  split at h
  · rename_i more
    cases h
    exact ⟨by decide, more, rfl⟩
  · split at h
    · rename_i more
      cases h
      exact ⟨by decide, more, rfl⟩
    · cases h

/-- What is moved is worth a withdrawal, no more than would even out the venues, and leaves the
    source its reserve; and it is all of that, or all that the reserve allows. -/
theorem amount_eq_some (h : p.amount asset cfg fromVenue amountToMove = some moved) :
    cfg.minWithdrawal ≤ moved ∧ moved ≤ amountToMove ∧
      minOperatingBalance asset ≤ p.tracker.getAvailable fromVenue asset - moved ∧
      (moved = amountToMove ∨
        p.tracker.getAvailable fromVenue asset - moved = minOperatingBalance asset) := by
  unfold amount at h
  dsimp only at h
  split at h
  · cases h
  · rename_i enough
    split at h
    · rename_i short
      split at h
      · cases h
      · rename_i worth
        obtain rfl := Option.some.inj h
        refine ⟨not_lt.mp worth, by linarith, by linarith, .inr (by ring)⟩
    · rename_i keeps
      obtain rfl := Option.some.inj h
      exact ⟨not_lt.mp enough, le_rfl, not_lt.mp keeps, .inl rfl⟩

/-- There is no plan or there is one, with a direction, an entry in the table of fees and an
    amount. -/
theorem plan_cases (p : RebalancePlanner) (asset : String) :
    p.plan asset = [] ∨ ∃ fromVenue toVenue amountToMove cfg moved,
      p.direction asset = some (fromVenue, toVenue, amountToMove) ∧
      transferFees asset = some cfg ∧ p.amount asset cfg fromVenue amountToMove = some moved ∧
      p.plan asset =
        [{ fromVenue, toVenue, asset, amount := moved, estimatedFee := cfg.withdrawalFee
           estimatedTimeMin := cfg.estimatedTimeMin }] := by
  unfold plan planBy transfers
  split
  · exact .inl rfl
  · cases hdir : p.direction asset with
    | none => exact .inl rfl
    | some dir =>
      obtain ⟨fromVenue, toVenue, amountToMove⟩ := dir
      cases hcfg : transferFees asset with
      | none => exact .inl rfl
      | some cfg =>
        dsimp only
        cases hmoved : p.amount asset cfg fromVenue amountToMove with
        | none => exact .inl rfl
        | some moved =>
          exact .inr ⟨fromVenue, toVenue, amountToMove, cfg, moved, rfl, rfl, hmoved, rfl⟩

/-- A plan for a transfer of an asset: what may be moved, and what it leaves behind. `balanced` is
    that it does not overshoot, `settled` that it is not followed by another. -/
structure SafePlan (p : RebalancePlanner) (asset : String) (cfg : TransferConfig)
    (plan : TransferPlan) : Prop where
  moves : plan.asset = asset
  venues : plan.fromVenue ≠ plan.toVenue
  worth : cfg.minWithdrawal ≤ plan.amount
  net : 0 < plan.netAmount
  reserve : minOperatingBalance asset ≤
    p.tracker.getAvailable plan.fromVenue asset - plan.amount
  balanced : (p.tracker.applyTransfer plan).total plan.toVenue asset ≤
    (p.tracker.applyTransfer plan).total plan.fromVenue asset
  settled : { p with tracker := p.tracker.applyTransfer plan }.plan asset = []

/-- **Nothing is left to move** where the source keeps just its reserve, or half of what both
    hold before the fee is gone, and the other venue has no more than one half. -/
theorem plan_settles (nonneg : 0 ≤ p.tracker.locked (toVenue, asset)) (hne : fromVenue ≠ toVenue)
    (hcfg : transferFees asset = some cfg)
    (behind : p.tracker.total toVenue asset ≤ p.tracker.total fromVenue asset)
    (left : p.tracker.getAvailable fromVenue asset =
        (p.tracker.held asset + cfg.withdrawalFee) / 2 ∨
      p.tracker.getAvailable fromVenue asset = minOperatingBalance asset) :
    p.plan asset = [] := by
  rcases p.plan_cases asset with
    none | ⟨source, toVenue', move, cfg', moved, hdir, hcfg', hmoved, -⟩
  · exact none
  · obtain rfl : cfg = cfg' := Option.some.inj (hcfg.symm.trans hcfg')
    obtain ⟨-, more, rfl⟩ := direction_eq_some hdir
    obtain ⟨worth, small, reserve, -⟩ := amount_eq_some hmoved
    have fee := transferFees_lt hcfg
    have fee_pos := PredictiveRebalancer.transferFees_pos hcfg
    have halves : p.tracker.held asset = p.tracker.total fromVenue asset +
        p.tracker.total toVenue asset := held_eq hne
    -- The other venue has no more than one half in all, so it is the same source again.
    have same : source = fromVenue := by
      by_contra other
      obtain rfl : source = toVenue := by
        cases source <;> cases fromVenue <;> cases toVenue <;> simp_all
      have whole := total_eq p.tracker source asset
      linarith
    subst same
    rcases left with half | kept
    · linarith
    · linarith

/-- **A plan that is made is safe.** -/
theorem safe_of_plan (nonneg : p.tracker.NonNegative) (hcfg : transferFees asset = some cfg)
    (h : p.plan asset = [plan]) : p.SafePlan asset cfg plan := by
  rcases p.plan_cases asset with
    none | ⟨source, target, move, cfg', moved, hdir, hcfg', hmoved, heq⟩
  · rw [none] at h
    cases h
  · obtain rfl : cfg = cfg' := Option.some.inj (hcfg.symm.trans hcfg')
    rw [heq] at h
    obtain rfl := (List.cons.inj h).1
    obtain ⟨hne, more, rfl⟩ := direction_eq_some hdir
    obtain ⟨worth, small, reserve, all⟩ := amount_eq_some hmoved
    have fee := transferFees_lt hcfg
    let transfer : TransferPlan :=
      { fromVenue := source, toVenue := target, asset, amount := moved
        estimatedFee := cfg.withdrawalFee, estimatedTimeMin := cfg.estimatedTimeMin }
    have halves : p.tracker.held asset = p.tracker.total source asset +
        p.tracker.total target asset := held_eq hne
    have most := nonneg.free_le_total source asset
    have before : (p.tracker.applyTransfer transfer).held asset =
        p.tracker.held asset - cfg.withdrawalFee := held_applyTransfer hne
    have left : (p.tracker.applyTransfer transfer).getAvailable source asset =
        p.tracker.getAvailable source asset - moved := getAvailable_source hne
    have sent : (p.tracker.applyTransfer transfer).total source asset =
        p.tracker.total source asset - moved := total_source hne
    have arrived : (p.tracker.applyTransfer transfer).total target asset =
        p.tracker.total target asset + (moved - cfg.withdrawalFee) :=
      total_destination hne
    have fee_pos := PredictiveRebalancer.transferFees_pos hcfg
    -- the source has kept at least half, and the fee is off what arrives
    have behind : (p.tracker.applyTransfer transfer).total target asset ≤
        (p.tracker.applyTransfer transfer).total source asset := by
      rw [sent, arrived]
      linarith
    refine ⟨rfl, hne, worth, ?net, reserve, behind, ?settled⟩
    case net => exact sub_pos.mpr (fee.trans_le worth)
    case settled =>
      refine plan_settles (p := { p with tracker := p.tracker.applyTransfer transfer })
        ?_ hne hcfg behind ?_
      · show 0 ≤ (p.tracker.applyTransfer transfer).locked (target, asset)
        rw [locked_applyTransfer]
        exact nonneg.locked target asset
      · dsimp only
        rw [left, before]
        -- all that was beyond one half has been moved, or all that the reserve allows
        rcases all with rfl | kept
        · exact .inl (by ring)
        · exact .inr kept

/-- **Plans are safe and settle**: at most one transfer, which is worth its fee, leaves the source
    its reserve, does not overshoot, and is not followed by another. -/
theorem plan_safe (p : RebalancePlanner) (asset : String) (cfg : TransferConfig)
    (hcfg : transferFees asset = some cfg) (nonneg : p.tracker.NonNegative) :
    p.plan asset = [] ∨ ∃ plan, p.plan asset = [plan] ∧ p.SafePlan asset cfg plan := by
  rcases p.plan_cases asset with none | ⟨source, target, move, cfg', moved, -, -, -, heq⟩
  · exact .inl none
  · exact .inr ⟨_, heq, safe_of_plan nonneg hcfg heq⟩

/-- A planner for a tracker that holds this much at the two venues, nothing of it locked. -/
def samplePlanner (asset : String) (cex wallet threshold : ℚ) : RebalancePlanner where
  tracker :=
    { walletAddress := none
      balances := fun venue a =>
        if a = asset then
          some { venue, asset, free := (match venue with | .cex => cex | .wallet => wallet)
                 locked := 0 }
        else none }
  thresholdPct := threshold

/-- It owes nothing. -/
theorem samplePlanner_nonNegative {asset : String} {cex wallet threshold : ℚ} (hcex : 0 ≤ cex)
    (hwallet : 0 ≤ wallet) : (samplePlanner asset cex wallet threshold).tracker.NonNegative := by
  intro v a b h
  unfold samplePlanner at h
  dsimp only at h
  split at h
  · obtain rfl := Option.some.inj h
    cases v
    · exact ⟨hcex, le_rfl⟩
    · exact ⟨hwallet, le_rfl⟩
  · cases h

/-- Six tenths of a coin at the exchange and nothing in the wallet: one tenth can be moved. -/
theorem samplePlanner_safe :
    ∃ plan cfg, (samplePlanner "ETH" (6 / 10) 0 0).plan "ETH" = [plan] ∧ plan.amount = 1 / 10 ∧
      (samplePlanner "ETH" (6 / 10) 0 0).SafePlan "ETH" cfg plan := by
  have planned : (samplePlanner "ETH" (6 / 10) 0 0).plan "ETH" =
      [{ fromVenue := .cex, toVenue := .wallet, asset := "ETH", amount := 1 / 10
         estimatedFee := 5 / 1000, estimatedTimeMin := 15 }] := by decide +kernel
  have nonneg : (samplePlanner "ETH" (6 / 10) 0 0).tracker.NonNegative :=
    samplePlanner_nonNegative (by norm_num) le_rfl
  rcases plan_safe (samplePlanner "ETH" (6 / 10) 0 0) "ETH" _ rfl nonneg with none | ⟨plan, h, safe⟩
  · rw [planned] at none
    cases none
  · rw [planned] at h
    obtain rfl := (List.cons.inj h).1
    exact ⟨_, _, planned, rfl, safe⟩

end RebalancePlanner

/-! ## The threshold -/

/-- **Which doubles are off one half by more than 0.30**, as doubles are subtracted and compared:
    those from 0.8 on, and those below 0.2. The double 0.8 less a half is a little more than the
    double 0.30, so a share of just 80% counts as over the threshold. -/
theorem offBalance_iff (x : F64) :
    Binary64.nearest (3 / 10) < |Binary64.nearest (x - 1 / 2)| ↔
      Binary64.nearest (8 / 10) ≤ x ∨ (x : ℚ) < Binary64.nearest (2 / 10) := by
  have first_over : Binary64.nearest (3 / 10) <
      Binary64.nearest (Binary64.nearest (8 / 10) - 1 / 2) := by decide +kernel
  have last_within : Binary64.nearest (Binary64.nearest (8 / 10) -
      Binary64.ulp (Binary64.nearest (8 / 10)) - 1 / 2) ≤ Binary64.nearest (3 / 10) := by
    decide +kernel
  have first_within : Binary64.nearest (1 / 2 - Binary64.nearest (2 / 10)) ≤
      Binary64.nearest (3 / 10) := by decide +kernel
  have last_over : Binary64.nearest (3 / 10) < Binary64.nearest (1 / 2 -
      (Binary64.nearest (2 / 10) - Binary64.ulp (Binary64.nearest (2 / 10)))) := by
    decide +kernel
  rcases le_total (1 / 2 : ℚ) x with large | small
  · have nonneg : 0 ≤ Binary64.nearest ((x : ℚ) - 1 / 2) :=
      Binary64.nearest_nonneg (sub_nonneg.mpr large)
    have fifth : Binary64.nearest (2 / 10) ≤ 1 / 2 := by decide +kernel
    rw [abs_of_nonneg nonneg, or_iff_left (not_lt.mpr (fifth.trans large))]
    constructor
    · intro off
      by_contra less
      -- The doubles from one half to 0.8 have one last place.
      have same : Binary64.ulpExponent (x : ℚ) =
          Binary64.ulpExponent (F64.ofRat (8 / 10) : ℚ) := by
        have top : Binary64.ulpExponent (F64.ofRat (8 / 10) : ℚ) = max (-1 - 52) (-1074) := by
          decide +kernel
        have one : Binary64.nearest (8 / 10) ≤ 1 := by decide +kernel
        rw [top]
        refine Binary64.ulpExponent_eq ?_ ?_
        · rw [abs_of_nonneg (by linarith)]
          norm_num
          linarith
        · rw [abs_of_nonneg (by linarith)]
          norm_num
          linarith
      have le := F64.le_sub_ulp same (not_le.mp less)
      have within : Binary64.nearest ((x : ℚ) - 1 / 2) ≤ Binary64.nearest (3 / 10) :=
        (Binary64.nearest_mono (sub_le_sub_right le _)).trans last_within
      exact absurd off (not_lt.mpr within)
    · intro off
      exact first_over.trans_le (Binary64.nearest_mono (sub_le_sub_right off _))
  · have mirrored : |Binary64.nearest ((x : ℚ) - 1 / 2)| = Binary64.nearest (1 / 2 - x) := by
      rw [← neg_sub, Binary64.nearest_neg, abs_neg,
        abs_of_nonneg (Binary64.nearest_nonneg (sub_nonneg.mpr small))]
    have fourth : (1 / 2 : ℚ) < Binary64.nearest (8 / 10) := by decide +kernel
    rw [mirrored, or_iff_right (not_le.mpr (small.trans_lt fourth))]
    constructor
    · intro off
      by_contra more
      have within : Binary64.nearest (1 / 2 - (x : ℚ)) ≤ Binary64.nearest (3 / 10) :=
        (Binary64.nearest_mono (sub_le_sub_left (not_lt.mp more) _)).trans first_within
      exact absurd off (not_lt.mpr within)
    · intro less
      have le : (x : ℚ) ≤ Binary64.nearest (2 / 10) - Binary64.ulp (Binary64.nearest (2 / 10)) := by
        rcases lt_or_ge (x : ℚ) (1 / 8) with tiny | large
        · have eighth : (1 / 8 : ℚ) ≤ Binary64.nearest (2 / 10) -
              Binary64.ulp (Binary64.nearest (2 / 10)) := by decide +kernel
          exact tiny.le.trans eighth
        · refine F64.le_sub_ulp (y := F64.ofRat (2 / 10)) ?_ less
          have quarter : Binary64.nearest (2 / 10) ≤ 1 / 4 := by decide +kernel
          have top : Binary64.ulpExponent (F64.ofRat (2 / 10) : ℚ) = max (-3 - 52) (-1074) := by
            decide +kernel
          rw [top]
          refine Binary64.ulpExponent_eq ?_ ?_
          · rw [abs_of_nonneg (by linarith)]
            norm_num
            linarith
          · rw [abs_of_nonneg (by linarith)]
            norm_num
            linarith
      exact last_over.trans_le (Binary64.nearest_mono (sub_le_sub_left le _))

namespace InventoryTracker

variable {t : InventoryTracker} {asset : String} {read : ℚ → ℚ → F64}

/-- By how many points the larger of the two shares exceeds one half. -/
def sharesDeviation (t : InventoryTracker) (asset : String) : ℚ :=
  max (t.total .cex asset) (t.total .wallet asset) / t.held asset * 100 - 50

/-- **One of the shares is read as 80% or more, or as less than 20%.** Reading is what makes a
    double of a share; how the source rounds on the way there is left open. -/
def OffBalance (read : ℚ → ℚ → F64) (t : InventoryTracker) (asset : String) : Prop :=
  ∃ venue, Binary64.nearest (8 / 10) ≤ read (t.total venue asset) (t.held asset) ∨
    (read (t.total venue asset) (t.held asset) : ℚ) < Binary64.nearest (2 / 10)

/-- A rebalance is called for where one of the two shares is off one half. -/
theorem needsRebalanceBy_iff (pos : 0 < t.held asset) :
    t.needsRebalanceBy (.binary64 read) asset = true ↔ t.OffBalance read asset := by
  unfold needsRebalanceBy maxDeviationBy OffBalance ShareReading.binary64
  unfold held at pos ⊢
  simp only [if_neg pos.ne', decide_eq_true_eq, lt_max_iff, offBalance_iff]
  constructor
  · rintro (cex | wallet)
    · exact ⟨.cex, cex⟩
    · exact ⟨.wallet, wallet⟩
  · rintro ⟨venue, off⟩
    cases venue with
    | cex => exact .inl off
    | wallet => exact .inr off

/-- The share of a total, rounded to the nearest double. -/
def readNearest (amount total : ℚ) : F64 := F64.ofRat (amount / total)

/-- With shares rounded to the nearest double, thirty points are already over the threshold. -/
theorem offBalance_of_deviation (h : 30 ≤ t.sharesDeviation asset) :
    t.OffBalance readNearest asset := by
  have share : 8 / 10 ≤ max (t.total .cex asset) (t.total .wallet asset) / t.held asset := by
    unfold sharesDeviation at h
    linarith
  rcases max_choice (t.total .cex asset) (t.total .wallet asset) with cex | wallet
  · rw [cex] at share
    exact ⟨.cex, .inl (Binary64.nearest_mono share)⟩
  · rw [wallet] at share
    exact ⟨.wallet, .inl (Binary64.nearest_mono share)⟩

end InventoryTracker

namespace RebalancePlanner

open InventoryTracker (readNearest)

/-- The set of assets that `check_all` collects, in some order. -/
def Lists (t : InventoryTracker) (assets : List String) : Prop :=
  ∀ a, a ∈ assets ↔ ∃ venue, (t.balances venue a).isSome

/-- **The configured threshold decides** whether the asset is reported and considered. -/
def ThresholdDecides (s : ShareReading) (p : RebalancePlanner) (assets : List String)
    (asset : String) : Prop :=
  ((∃ r ∈ p.checkAllBy s assets, r.asset = asset ∧ r.needsRebalance = true) ↔
      p.thresholdPct < p.tracker.sharesDeviation asset) ∧
    (p.considersBy s asset = true ↔ p.thresholdPct < p.tracker.sharesDeviation asset)

variable {s : ShareReading} {p : RebalancePlanner} {assets : List String} {asset : String}

/-- What the tracker holds something of is listed. -/
theorem mem_of_held (lists : Lists p.tracker assets) (pos : 0 < p.tracker.held asset) :
    asset ∈ assets := by
  rw [lists]
  by_contra nowhere
  have none : ∀ venue, p.tracker.balances venue asset = none := by
    intro venue
    by_contra some
    exact nowhere ⟨venue, Option.isSome_iff_ne_none.mpr some⟩
  have zero : p.tracker.held asset = 0 := by
    simp [InventoryTracker.held, InventoryTracker.total, none]
  exact pos.ne' zero

/-- What is reported is what is considered: both ask the same function. -/
theorem reported_iff (lists : Lists p.tracker assets) (pos : 0 < p.tracker.held asset) :
    (∃ r ∈ p.checkAllBy s assets, r.asset = asset ∧ r.needsRebalance = true) ↔
      p.considersBy s asset = true := by
  unfold checkAllBy
  constructor
  · rintro ⟨r, hr, rfl, needs⟩
    obtain ⟨a, -, rfl⟩ := List.mem_map.mp hr
    exact needs
  · intro needs
    exact ⟨p.tracker.skewBy s asset, List.mem_map_of_mem (mem_of_held lists pos), rfl, needs⟩

/-- **When the threshold decides**: the deviation is above it where a share is read as 80% or
    more, or as less than 20%, and not above it elsewhere. -/
theorem thresholdDecides_iff (read : ℚ → ℚ → F64) (p : RebalancePlanner) (assets : List String)
    (asset : String) (lists : Lists p.tracker assets) (pos : 0 < p.tracker.held asset) :
    p.ThresholdDecides (.binary64 read) assets asset ↔
      (p.tracker.OffBalance read asset ↔
        p.thresholdPct < p.tracker.sharesDeviation asset) := by
  have considered : p.considersBy (.binary64 read) asset = true ↔
      p.tracker.OffBalance read asset := InventoryTracker.needsRebalanceBy_iff pos
  unfold ThresholdDecides
  rw [reported_iff lists pos, considered, and_self]

/-- It lists its one asset. -/
theorem samplePlanner_lists (asset : String) (cex wallet threshold : ℚ) :
    Lists (samplePlanner asset cex wallet threshold).tracker [asset] := by
  intro a
  rw [List.mem_singleton]
  constructor
  · rintro rfl
    exact ⟨.cex, by simp [samplePlanner]⟩
  · rintro ⟨venue, some⟩
    by_contra other
    simp [samplePlanner, other] at some

/-- What it has where. -/
theorem samplePlanner_total (asset : String) (cex wallet threshold : ℚ) (venue : Venue) :
    (samplePlanner asset cex wallet threshold).tracker.total venue asset =
      match venue with | .cex => cex | .wallet => wallet := by
  simp [samplePlanner, InventoryTracker.total]

/-- What it has. -/
theorem samplePlanner_held (asset : String) (cex wallet threshold : ℚ) :
    (samplePlanner asset cex wallet threshold).tracker.held asset = cex + wallet := by
  unfold InventoryTracker.held
  rw [samplePlanner_total, samplePlanner_total]

/-- How far it is off one half. -/
theorem samplePlanner_deviation (asset : String) (cex wallet threshold : ℚ) :
    (samplePlanner asset cex wallet threshold).tracker.sharesDeviation asset =
      max cex wallet / (cex + wallet) * 100 - 50 := by
  unfold InventoryTracker.sharesDeviation
  rw [samplePlanner_held, samplePlanner_total, samplePlanner_total]

/-- Nine coins in ten at the exchange are off by forty points; four in five are off by thirty,
    and the share that is read of them is not below 80%. -/
theorem samplePlanner_decides :
    (samplePlanner "ETH" 9 1 10).ThresholdDecides (.binary64 readNearest) ["ETH"] "ETH" ∧
      (samplePlanner "ETH" 8 2 20).ThresholdDecides (.binary64 readNearest) ["ETH"] "ETH" := by
  have decides : ∀ cex wallet threshold : ℚ, 0 < cex + wallet →
      30 ≤ max cex wallet / (cex + wallet) * 100 - 50 →
      threshold < max cex wallet / (cex + wallet) * 100 - 50 →
      (samplePlanner "ETH" cex wallet threshold).ThresholdDecides (.binary64 readNearest)
        ["ETH"] "ETH" := by
    intro cex wallet threshold pos off above
    rw [← samplePlanner_held "ETH" cex wallet threshold] at pos
    rw [← samplePlanner_deviation "ETH" cex wallet threshold] at off above
    exact (thresholdDecides_iff _ _ _ _ (samplePlanner_lists _ _ _ _) pos).mpr
      (iff_of_true (InventoryTracker.offBalance_of_deviation off) above)
  exact ⟨decides 9 1 10 (by norm_num) (by norm_num) (by norm_num),
    decides 8 2 20 (by norm_num) (by norm_num) (by norm_num)⟩

/-- Seven coins in ten are off by twenty points, which is more than ten, and not reported. -/
theorem samplePlanner_undecided :
    ¬ ∀ p : RebalancePlanner, ∀ assets asset, p.tracker.NonNegative → Lists p.tracker assets →
        0 < p.tracker.held asset → 0 ≤ p.thresholdPct → p.thresholdPct < 50 →
        p.ThresholdDecides (.binary64 readNearest) assets asset := by
  intro decides
  have nonneg : (samplePlanner "ETH" 7 3 10).tracker.NonNegative :=
    samplePlanner_nonNegative (by norm_num) (by norm_num)
  have pos : 0 < (samplePlanner "ETH" 7 3 10).tracker.held "ETH" := by
    rw [samplePlanner_held]
    norm_num
  have configured := decides (samplePlanner "ETH" 7 3 10) ["ETH"] "ETH" nonneg
    (samplePlanner_lists _ _ _ _) pos (by norm_num [samplePlanner]) (by norm_num [samplePlanner])
  have considered : (samplePlanner "ETH" 7 3 10).considersBy (.binary64 readNearest) "ETH" =
      true := by
    apply configured.2.mpr
    rw [samplePlanner_deviation]
    norm_num [samplePlanner]
  have silent : (samplePlanner "ETH" 7 3 10).considersBy (.binary64 readNearest) "ETH" =
      false := by decide +kernel
  rw [silent] at considered
  cases considered

end RebalancePlanner
end ArbEngine
