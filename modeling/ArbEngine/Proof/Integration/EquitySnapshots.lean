import Mathlib.Algebra.BigOperators.Group.Finset.Sigma
import ArbEngine.Integration.Equity
import ArbEngine.Proof.Integration.Sections
import ArbEngine.Proof.Inventory.TrackerLedger

/-!
# What a snapshot is worth

What the tracker holds is a ledger over two venues and the assets of the pairs, and it has a worth
in dollars (`worthUsd`). A fill changes that by what its postings are worth
(`Ledger.worth_postAll`): the base against the quote at the price of the fill, and the fee. The
balances are valued at the prices of the snapshot, the fills at their own.

The equity of a snapshot is computed in doubles, so it is that worth only nearly: each balance and
each price is read with an error, and each of the four operations for an asset, as well as the last
addition, loses half a unit in the last place (`computeEquityBreakdown_error`). Whatever is read and
lost, the sums of a snapshot are those of its own breakdown (`Balanced`): the assets that the
breakdown leaves out add nothing, not even a rounding.
-/

namespace ArbEngine
namespace ArbBot

variable {f : DecimalFloats} {toF64 : ℚ → F64} {b : ArbBot} {mid : String → Option ℚ}
  {events : List EquityEvent}

/-! ## The breakdown -/

/-- The loop over the assets adds up two sums and lists the assets of which there is something. -/
theorem foldl_addEquity (entries : List EquityEntry) (sums : EquityBreakdown) :
    entries.foldl addEquity sums =
      { cexUsd := (entries.map EquityEntry.cexUsd).foldl (· + ·) sums.cexUsd
        walletUsd := (entries.map EquityEntry.walletUsd).foldl (· + ·) sums.walletUsd
        totalUsd := sums.totalUsd
        breakdown := sums.breakdown ++ entries.filter EquityEntry.listed } := by
  induction entries generalizing sums with
  | nil => simp
  | cons entry entries ih =>
    rw [List.foldl_cons, ih, addEquity]
    cases some : entry.listed <;> simp [some]

/-- The snapshot in closed form. The additions are in the order of the loop, which matters to
    doubles. -/
theorem computeEquityBreakdown_eq (toF64 : ℚ → F64) (b : ArbBot) (mid : String → Option ℚ) :
    computeEquityBreakdown toF64 b mid =
      { cexUsd := F64.sumLeft
          (((equityAssetList b.pairs).map (equityEntry toF64 b mid)).map EquityEntry.cexUsd)
        walletUsd := F64.sumLeft
          (((equityAssetList b.pairs).map (equityEntry toF64 b mid)).map EquityEntry.walletUsd)
        totalUsd :=
          F64.sumLeft
              (((equityAssetList b.pairs).map (equityEntry toF64 b mid)).map EquityEntry.cexUsd) +
            F64.sumLeft
              (((equityAssetList b.pairs).map (equityEntry toF64 b mid)).map
                EquityEntry.walletUsd)
        breakdown :=
          ((equityAssetList b.pairs).map (equityEntry toF64 b mid)).filter
            EquityEntry.listed } := by
  unfold computeEquityBreakdown
  rw [foldl_addEquity]
  rfl

/-- An asset of which there is nothing is worth nothing. -/
theorem equityEntry_unlisted {asset : String}
    (none : (equityEntry toF64 b mid asset).listed = false) :
    (equityEntry toF64 b mid asset).cexUsd = 0 ∧
      (equityEntry toF64 b mid asset).walletUsd = 0 := by
  unfold EquityEntry.listed at none
  rw [decide_eq_false_iff_not, not_or, not_not, not_not] at none
  obtain ⟨cex, wallet⟩ := none
  have cex' : (equityEntry toF64 b mid asset).cexAmount = 0 := F64.ext (cex.trans F64.coe_zero.symm)
  have wallet' : (equityEntry toF64 b mid asset).walletAmount = 0 :=
    F64.ext (wallet.trans F64.coe_zero.symm)
  constructor
  · show (equityEntry toF64 b mid asset).cexAmount * _ = 0
    rw [cex', F64.zero_mul_eq]
  · show (equityEntry toF64 b mid asset).walletAmount * _ = 0
    rw [wallet', F64.zero_mul_eq]

/-- **The breakdown explains its sums**: they are what one gets by adding its entries up again. -/
structure Balanced (e : EquityBreakdown) : Prop where
  cex : e.cexUsd = F64.sumLeft (e.breakdown.map EquityEntry.cexUsd)
  wallet : e.walletUsd = F64.sumLeft (e.breakdown.map EquityEntry.walletUsd)
  total : e.totalUsd = e.cexUsd + e.walletUsd
  once : (e.breakdown.map EquityEntry.asset).Nodup

/-- The breakdown leaves out the assets that add zero to either sum, and adding zero never rounds.
    So what is listed adds up to the same doubles. -/
theorem balanced_computeEquityBreakdown (toF64 : ℚ → F64) (b : ArbBot)
    (mid : String → Option ℚ) : Balanced (computeEquityBreakdown toF64 b mid) := by
  have zero : ∀ e ∈ (equityAssetList b.pairs).map (equityEntry toF64 b mid),
      e.listed = false → e.cexUsd = 0 ∧ e.walletUsd = 0 := by
    intro e he none
    obtain ⟨asset, -, rfl⟩ := List.mem_map.mp he
    exact equityEntry_unlisted none
  rw [computeEquityBreakdown_eq]
  constructor
  case cex => exact (F64.sumLeft_filter fun e he none => (zero e he none).1).symm
  case wallet => exact (F64.sumLeft_filter fun e he none => (zero e he none).2).symm
  case total => rfl
  case once =>
    refine (List.Nodup.sublist (List.Sublist.map _ List.filter_sublist) ?_)
    rw [List.map_map]
    show ((equityAssetList b.pairs).map id).Nodup
    rw [List.map_id]
    exact Finset.sort_nodup _ _

/-! ## The equity as the worth of a ledger -/

/-- What counts for the equity. -/
def equityAccounts (pairs : List String) : Finset (Venue × String) :=
  ({.cex, .wallet} : Finset Venue) ×ˢ equityAssets pairs

/-- What the tracker has is worth this much. -/
def worthUsd (b : ArbBot) (mid : String → Option ℚ) : ℚ :=
  Ledger.worth (equityAccounts b.pairs) (fun k => assetPriceUsd mid k.2) b.sharedInventory.free

/-- What one asset is worth at one venue. -/
def holdingUsd (b : ArbBot) (mid : String → Option ℚ) (venue : Venue) (asset : String) : ℚ :=
  b.sharedInventory.getBalance venue asset * assetPriceUsd mid asset

/-- What is held, a debt counting as much as an asset. -/
def grossUsd (b : ArbBot) (mid : String → Option ℚ) : ℚ :=
  ((equityAssetList b.pairs).map fun asset => |b.holdingUsd mid .cex asset|).sum +
    ((equityAssetList b.pairs).map fun asset => |b.holdingUsd mid .wallet asset|).sum

/-- A sum over a sorted set does not depend on the order. -/
theorem sum_sort {f : String → ℚ} (s : Finset String) :
    ((s.sort (· ≤ ·)).map f).sum = ∑ a ∈ s, f a := by
  rw [← Finset.sum_map_toList]
  exact ((Finset.sort_perm_toList s _).map f).sum_eq

theorem abs_sum_map_le (assets : List String) (value : String → ℚ) :
    |(assets.map value).sum| ≤ (assets.map fun asset => |value asset|).sum := by
  have sums := Multiset.abs_sum_le_sum_abs (s := (assets.map value : Multiset ℚ))
  rw [Multiset.map_coe, Multiset.sum_coe, Multiset.sum_coe, List.map_map] at sums
  exact sums

/-- The worth of the ledger is that of the exchange and that of the wallet, asset by asset. -/
theorem worthUsd_eq_sums (b : ArbBot) (mid : String → Option ℚ) :
    b.worthUsd mid = ((equityAssetList b.pairs).map (b.holdingUsd mid .cex)).sum +
      ((equityAssetList b.pairs).map (b.holdingUsd mid .wallet)).sum := by
  unfold worthUsd Ledger.worth equityAccounts equityAssetList
  rw [Finset.sum_product, Finset.sum_pair (by decide), sum_sort, sum_sort]
  rfl

/-! ## What the doubles lose

The bound is one number of dollars that nothing on the way reaches, a power of two: half a unit in
its last place is what an operation loses at most. -/

/-- **A snapshot can be read**: each number to within a share `ε` of it, and all of them together
    are worth less than `2 ^ m` dollars, with what is lost on the way. -/
structure Legible (toF64 : ℚ → F64) (b : ArbBot) (mid : String → Option ℚ) (ε : ℚ) (m : ℤ) :
    Prop where
  share : 0 ≤ ε
  amounts : ∀ venue, ∀ asset ∈ equityAssets b.pairs,
    |(toF64 (b.sharedInventory.getBalance venue asset) : ℚ) -
      b.sharedInventory.getBalance venue asset| ≤ ε * |b.sharedInventory.getBalance venue asset|
  prices : ∀ asset ∈ equityAssets b.pairs, ∀ price, mid asset = some price →
    |(toF64 price : ℚ) - price| ≤ ε * |price|
  one : 1 ≤ m
  small : (1 + ε) ^ 2 * b.grossUsd mid +
    4 * (equityAssetList b.pairs).length * 2 ^ (m - 54) < 2 ^ m

/-- How far the equity may be from the worth: what is misread, and half a last place for each of
    the four operations on each asset and for the last addition. -/
def slackUsd (b : ArbBot) (mid : String → Option ℚ) (ε : ℚ) (m : ℤ) : ℚ :=
  (2 * ε + ε ^ 2) * b.grossUsd mid + (4 * (equityAssetList b.pairs).length + 1) * 2 ^ (m - 54)

section Rounding

variable {ε : ℚ} {m : ℤ}

/-- The price of a stable coin is one, exactly; any other is misread by its share. -/
theorem assetPriceF64_error (legible : Legible toF64 b mid ε m) {asset : String}
    (counts : asset ∈ equityAssets b.pairs) :
    |(assetPriceF64 toF64 mid asset : ℚ) - assetPriceUsd mid asset| ≤
      ε * |assetPriceUsd mid asset| := by
  unfold assetPriceF64 assetPriceUsd
  split
  · rw [F64.coe_one, sub_self, abs_zero, abs_one, mul_one]
    exact legible.share
  · cases price : mid asset with
    | none => simp
    | some price' => exact legible.prices asset counts price' price

theorem holding_le_gross (b : ArbBot) (mid : String → Option ℚ) (venue : Venue) :
    ((equityAssetList b.pairs).map fun asset => |b.holdingUsd mid venue asset|).sum ≤
      b.grossUsd mid := by
  have nonneg : ∀ venue,
      0 ≤ ((equityAssetList b.pairs).map fun asset => |b.holdingUsd mid venue asset|).sum :=
    fun venue => List.sum_nonneg (List.forall_mem_map.mpr fun asset _ => abs_nonneg _)
  unfold grossUsd
  cases venue with
  | wallet => linarith [nonneg .cex]
  | cex => linarith [nonneg .wallet]

/-- The value of an asset, as a double. -/
theorem value_error (legible : Legible toF64 b mid ε m) (venue : Venue) {asset : String}
    (counts : asset ∈ equityAssetList b.pairs) :
    |((toF64 (b.sharedInventory.getBalance venue asset) * assetPriceF64 toF64 mid asset : F64) : ℚ) -
        b.holdingUsd mid venue asset| ≤
      (2 * ε + ε ^ 2) * |b.holdingUsd mid venue asset| + 2 ^ (m - 54) := by
  have counts' : asset ∈ equityAssets b.pairs := (Finset.mem_sort _).mp counts
  have read := F64.mul_read_error legible.share (legible.amounts venue asset counts')
    (assetPriceF64_error legible counts')
  set exact := (toF64 (b.sharedInventory.getBalance venue asset) : ℚ) *
    (assetPriceF64 toF64 mid asset : ℚ) with hexact
  change |exact - b.holdingUsd mid venue asset| ≤ (2 * ε + ε ^ 2) *
    |b.holdingUsd mid venue asset| at read
  -- The product is no larger than what all assets are worth together.
  have part : |b.holdingUsd mid venue asset| ≤ b.grossUsd mid :=
    (List.single_le_sum (fun x hx => by
      obtain ⟨a, -, rfl⟩ := List.mem_map.mp hx
      exact abs_nonneg _) _ (List.mem_map.mpr ⟨asset, counts, rfl⟩)).trans
      (holding_le_gross b mid venue)
  have unit : (0 : ℚ) < 2 ^ (m - 54) := zpow_pos two_pos _
  have share : 0 ≤ (1 + ε) ^ 2 := sq_nonneg _
  have size := abs_sub_abs_le_abs_sub exact (b.holdingUsd mid venue asset)
  have bound : |exact| < 2 ^ m := by
    have scaled := mul_le_mul_of_nonneg_left part share
    have turns : (0 : ℚ) ≤ 4 * (equityAssetList b.pairs).length * 2 ^ (m - 54) := by positivity
    have square : (1 + ε) ^ 2 * |b.holdingUsd mid venue asset| =
        |b.holdingUsd mid venue asset| +
          (2 * ε + ε ^ 2) * |b.holdingUsd mid venue asset| := by ring
    linarith [legible.small]
  have rounded := Binary64.nearest_error_of_lt legible.one bound
  rw [F64.coe_mul, ← hexact]
  have far := abs_sub_le (Binary64.nearest exact) exact (b.holdingUsd mid venue asset)
  linarith

/-- What the loop adds up at one venue. -/
def sumAt (toF64 : ℚ → F64) (b : ArbBot) (mid : String → Option ℚ) (venue : Venue) : F64 :=
  F64.sumLeft ((equityAssetList b.pairs).map fun asset =>
    toF64 (b.sharedInventory.getBalance venue asset) * assetPriceF64 toF64 mid asset)

/-- At one venue: each product is off by what is misread and half a last place, and each addition
    by another half. The bound on the sums keeps all of them below the power of two. -/
theorem sumAt_error (legible : Legible toF64 b mid ε m) (venue : Venue) :
    |(sumAt toF64 b mid venue : ℚ) -
        ((equityAssetList b.pairs).map (b.holdingUsd mid venue)).sum| ≤
      (2 * ε + ε ^ 2) *
          ((equityAssetList b.pairs).map fun asset => |b.holdingUsd mid venue asset|).sum +
        2 * (equityAssetList b.pairs).length * 2 ^ (m - 54) := by
  refine F64.sumLeft_error legible.one (fun asset counts => value_error legible venue counts) ?_
  have part := holding_le_gross b mid venue
  have share : 0 ≤ (1 + ε) ^ 2 := sq_nonneg _
  have scaled := mul_le_mul_of_nonneg_left part share
  have unit : (0 : ℚ) < 2 ^ (m - 54) := zpow_pos two_pos _
  have turns : (0 : ℚ) ≤ 2 * (equityAssetList b.pairs).length * 2 ^ (m - 54) := by positivity
  have square : 1 + (2 * ε + ε ^ 2) = (1 + ε) ^ 2 := by ring
  rw [square]
  linarith [legible.small]

/-- **The equity is the worth of what is held, but for what the doubles lose.** The two venues are
    added up apart, and one more addition makes the total. -/
theorem computeEquityBreakdown_error (legible : Legible toF64 b mid ε m) :
    |((computeEquityBreakdown toF64 b mid).totalUsd : ℚ) - b.worthUsd mid| ≤
      b.slackUsd mid ε m := by
  have total : (computeEquityBreakdown toF64 b mid).totalUsd =
      sumAt toF64 b mid .cex + sumAt toF64 b mid .wallet := by
    rw [computeEquityBreakdown_eq, List.map_map, List.map_map]
    rfl
  have cex := sumAt_error legible .cex
  have wallet := sumAt_error legible .wallet
  have small := legible.small
  rw [total, worthUsd_eq_sums, F64.coe_add]
  unfold slackUsd
  unfold grossUsd at small ⊢
  set exactCex := ((equityAssetList b.pairs).map (b.holdingUsd mid .cex)).sum
  set exactWallet := ((equityAssetList b.pairs).map (b.holdingUsd mid .wallet)).sum
  set grossCex := ((equityAssetList b.pairs).map fun asset => |b.holdingUsd mid .cex asset|).sum
    with hgrossCex
  set grossWallet :=
    ((equityAssetList b.pairs).map fun asset => |b.holdingUsd mid .wallet asset|).sum
    with hgrossWallet
  have sizeCex : |exactCex| ≤ grossCex := by
    rw [hgrossCex]
    exact abs_sum_map_le _ _
  have sizeWallet : |exactWallet| ≤ grossWallet := by
    rw [hgrossWallet]
    exact abs_sum_map_le _ _
  have square : (1 + ε) ^ 2 * (grossCex + grossWallet) = grossCex + grossWallet +
      ((2 * ε + ε ^ 2) * grossCex + (2 * ε + ε ^ 2) * grossWallet) := by ring
  -- The two sums together stay below the bound, so the last addition loses one unit more.
  have bound : |(sumAt toF64 b mid .cex : ℚ) + sumAt toF64 b mid .wallet| < 2 ^ m := by
    rw [abs_le] at cex wallet sizeCex sizeWallet
    rw [abs_lt]
    constructor <;>
      linarith [cex.1, cex.2, wallet.1, wallet.2, sizeCex.1, sizeCex.2, sizeWallet.1, sizeWallet.2]
  have rounded := Binary64.nearest_error_of_lt legible.one bound
  rw [abs_le] at cex wallet rounded ⊢
  constructor <;>
    linarith [cex.1, cex.2, wallet.1, wallet.2, rounded.1, rounded.2]

end Rounding

/-! ## Fills -/

/-- The price of an asset, if it counts for the equity. -/
def countedPrice (pairs : List String) (mid : String → Option ℚ) (asset : String) : ℚ :=
  if asset ∈ equityAssets pairs then assetPriceUsd mid asset else 0

/-- What a fill changes: it trades at its own price what is worth something at those of the
    snapshot, and pays a tenth of a percent of what it receives. -/
def fillGain (worth : String → ℚ) (fill : BookedFill) : ℚ :=
  match splitPair fill.signal.pair with
  | [base, quote] =>
      let bought := fill.filled * worth base
      let paid := fill.filled * fill.price * worth quote
      match legSide fill.signal.direction (venueOf fill.venueStr) with
      | .buy => bought - paid - bought * (1 / 1000)
      | .sell => paid - bought - paid * (1 / 1000)
  | _ => 0

/-- A posting is worth its amount at the price of its asset, and nothing where the asset does not
    count. -/
theorem postingWorth_eq (pairs : List String) (venue : Venue) (asset : String) (amount : ℚ) :
    Ledger.postingWorth (equityAccounts pairs) (fun k => assetPriceUsd mid k.2)
      ((venue, asset), amount) = amount * countedPrice pairs mid asset := by
  have counted : (venue, asset) ∈ equityAccounts pairs ↔ asset ∈ equityAssets pairs := by
    unfold equityAccounts
    rw [Finset.mem_product]
    cases venue <;> simp
  unfold Ledger.postingWorth countedPrice
  dsimp only
  rw [mul_ite, mul_zero]
  exact if_congr counted rfl rfl

/-- **A fill gains what it trades for less than it is worth, less its fee.** -/
theorem worthUsd_bookFill (b : ArbBot) (mid : String → Option ℚ) (fill : BookedFill) :
    (b.bookFill fill).worthUsd mid =
      b.worthUsd mid + fillGain (countedPrice b.pairs mid) fill := by
  have booked : (b.bookFill fill).sharedInventory.free = Ledger.postAll b.sharedInventory.free
      (fillPostings fill.signal (venueOf fill.venueStr) fill.filled fill.price) :=
    free_updateInventory
  show Ledger.worth (equityAccounts b.pairs) _ (b.bookFill fill).sharedInventory.free = _
  rw [booked, Ledger.worth_postAll]
  refine congrArg (b.worthUsd mid + ·) ?_
  unfold fillPostings fillGain
  generalize splitPair fill.signal.pair = parts
  rcases parts with _ | ⟨base, _ | ⟨quote, _ | ⟨third, rest⟩⟩⟩
  · rfl
  · rfl
  · dsimp only
    cases legSide fill.signal.direction (venueOf fill.venueStr) with
    | buy =>
      simp only [InventoryTracker.tradePostings, List.map_cons, List.map_nil, List.sum_cons,
        List.sum_nil, postingWorth_eq]
      ring
    | sell =>
      simp only [InventoryTracker.tradePostings, List.map_cons, List.map_nil, List.sum_cons,
        List.sum_nil, postingWorth_eq]
      ring
  · rfl

/-- **What an arbitrage gains does not depend on what the base is worth**, but for the fee that is
    paid in it: the difference of the prices, and two fees. -/
theorem fillGain_opposite {worth : String → ℚ} {signal : Signal} {base quote : String}
    (pair : splitPair signal.pair = [base, quote]) {first second : String}
    (buys : legSide signal.direction (venueOf first) = .buy)
    (sells : legSide signal.direction (venueOf second) = .sell) (filled buyPrice sellPrice : ℚ) :
    fillGain worth { venueStr := first, signal, filled, price := buyPrice } +
        fillGain worth { venueStr := second, signal, filled, price := sellPrice } =
      filled * (sellPrice - buyPrice) * worth quote -
        filled * (worth base + sellPrice * worth quote) * (1 / 1000) := by
  unfold fillGain
  dsimp only
  rw [pair, buys, sells]
  ring

/-! ## Runs -/

/-- What the fills among the events change. -/
def gains (worth : String → ℚ) : List EquityEvent → ℚ
  | [] => 0
  | .fill fill :: events => fillGain worth fill + gains worth events
  | .snapshot _ _ :: events => gains worth events

theorem equityRun_append (f : DecimalFloats) (b : ArbBot) (events : List EquityEvent)
    (event : EquityEvent) :
    b.equityRun f (events ++ [event]) = equityStep f (b.equityRun f events) event := by
  unfold equityRun
  rw [List.foldl_append]
  rfl

/-- What the fills of two stretches of a run change is added up. -/
theorem gains_append (worth : String → ℚ) (events more : List EquityEvent) :
    gains worth (events ++ more) = gains worth events + gains worth more := by
  induction events with
  | nil => exact (zero_add _).symm
  | cons event events ih =>
    cases event with
    | fill fill =>
      show fillGain worth fill + gains worth (events ++ more) = _
      rw [ih, ← add_assoc]
      rfl
    | snapshot now mid => exact ih

/-- The pairs of the bot stay the same, and with them what counts. -/
theorem pairs_equityRun (f : DecimalFloats) (b : ArbBot) (events : List EquityEvent) :
    (b.equityRun f events).1.pairs = b.pairs := by
  induction events using List.reverseRecOn with
  | nil => rfl
  | append_singleton events event ih =>
    rw [equityRun_append]
    cases event <;> exact ih

/-- **The worth after a run is the worth at first and what the fills have gained.** By induction on
    the events; the snapshots change nothing. -/
theorem worthUsd_equityRun (f : DecimalFloats) (b : ArbBot) (mid : String → Option ℚ)
    (events : List EquityEvent) :
    (b.equityRun f events).1.worthUsd mid =
      b.worthUsd mid + gains (countedPrice b.pairs mid) events := by
  induction events using List.reverseRecOn with
  | nil => exact (add_zero _).symm
  | append_singleton events event ih =>
    rw [equityRun_append, gains_append, ← add_assoc, ← ih]
    cases event with
    | fill fill =>
      show ((b.equityRun f events).1.bookFill fill).worthUsd mid = _
      rw [worthUsd_bookFill, pairs_equityRun]
      show _ = _ + (_ + 0)
      rw [add_zero]
    | snapshot now mid' => exact (add_zero _).symm

/-- The row a snapshot leaves, with what came before it, and the doubles that were written into
    it. -/
structure Taken (f : DecimalFloats) (b : ArbBot) (before : List EquityEvent) (now : ℚ)
    (mid : String → Option ℚ) (row : BalanceSnapshot) (cexUsd walletUsd : F64) : Prop where
  timestamp : row.timestamp = storedTime now
  written : row.cexUsd = f.fromF64 cexUsd ∧ row.walletUsd = f.fromF64 walletUsd ∧
    row.totalUsd = f.fromF64 (cexUsd + walletUsd)
  cex : cexUsd = F64.sumLeft (row.breakdown.map EquityEntry.cexUsd)
  wallet : walletUsd = F64.sumLeft (row.breakdown.map EquityEntry.walletUsd)
  /-- What there was and what the fills have gained since, at the prices of the snapshot. -/
  worth : ∀ ε m, Legible f.toF64 (b.equityRun f before).1 mid ε m →
    |((cexUsd + walletUsd : F64) : ℚ) -
        (b.worthUsd mid + gains (countedPrice b.pairs mid) before)| ≤
      (b.equityRun f before).1.slackUsd mid ε m

/-- A snapshot adds one row, and this is what the row says. -/
theorem taken_snapshot (f : DecimalFloats) (b : ArbBot) (before : List EquityEvent) (now : ℚ)
    (mid : String → Option ℚ) (rows : List BalanceSnapshot) :
    ∃ row cexUsd walletUsd,
      recordBalanceSnapshot f (b.equityRun f before).1 true now mid rows = rows ++ [row] ∧
        Taken f b before now mid row cexUsd walletUsd := by
  have balanced := balanced_computeEquityBreakdown f.toF64 (b.equityRun f before).1 mid
  refine ⟨_, (computeEquityBreakdown f.toF64 (b.equityRun f before).1 mid).cexUsd,
    (computeEquityBreakdown f.toF64 (b.equityRun f before).1 mid).walletUsd, rfl, ?_⟩
  constructor
  case timestamp => rfl
  case written => exact ⟨rfl, rfl, by rw [← balanced.total]⟩
  case cex => exact balanced.cex
  case wallet => exact balanced.wallet
  case worth =>
    intro ε m legible
    rw [← balanced.total, ← worthUsd_equityRun f]
    exact computeEquityBreakdown_error legible

/-- A row of the table and the event it comes from. By induction on the run, from its end: the row
    is the last one, or it was there before. -/
theorem mem_equityRun {row : BalanceSnapshot} (h : row ∈ (b.equityRun f events).2) :
    ∃ before now mid after cexUsd walletUsd, events = before ++ .snapshot now mid :: after ∧
      Taken f b before now mid row cexUsd walletUsd := by
  -- the events that come later do not change the row, they only stand behind it
  induction events using List.reverseRecOn with
  | nil => cases h
  | append_singleton events event ih =>
    rw [equityRun_append] at h
    have earlier : row ∈ (b.equityRun f events).2 →
        ∃ before now mid after cexUsd walletUsd,
          events ++ [event] = before ++ .snapshot now mid :: after ∧
          Taken f b before now mid row cexUsd walletUsd := by
      intro old
      obtain ⟨before, now, mid, after, cexUsd, walletUsd, rfl, taken⟩ := ih old
      exact ⟨before, now, mid, after ++ [event], cexUsd, walletUsd, by simp, taken⟩
    -- A fill leaves the table as it is; a snapshot puts its row at the end.
    cases event with
    | fill fill => exact earlier h
    | snapshot now mid =>
      obtain ⟨new, cexUsd, walletUsd, rows, taken⟩ :=
        taken_snapshot f b events now mid (b.equityRun f events).2
      change row ∈ recordBalanceSnapshot f (b.equityRun f events).1 true now mid
        (b.equityRun f events).2 at h
      rw [rows] at h
      rcases List.mem_append.mp h with old | here
      · exact earlier old
      · rw [List.mem_singleton.mp here]
        exact ⟨events, now, mid, [], cexUsd, walletUsd, rfl, taken⟩

/-- Every snapshot is in the table. -/
theorem exists_row (f : DecimalFloats) (b : ArbBot) (before after : List EquityEvent) (now : ℚ)
    (mid : String → Option ℚ) :
    ∃ row ∈ (b.equityRun f (before ++ .snapshot now mid :: after)).2,
      row.timestamp = storedTime now := by
  induction after using List.reverseRecOn with
  | nil =>
    obtain ⟨row, cexUsd, walletUsd, rows, taken⟩ :=
      taken_snapshot f b before now mid (b.equityRun f before).2
    refine ⟨row, ?_, taken.timestamp⟩
    rw [equityRun_append]
    show row ∈ recordBalanceSnapshot f (b.equityRun f before).1 true now mid
      (b.equityRun f before).2
    rw [rows]
    exact List.mem_append_right _ (List.mem_singleton.mpr rfl)
  | append_singleton after event ih =>
    obtain ⟨row, hrow, time⟩ := ih
    refine ⟨row, ?_, time⟩
    rw [← List.cons_append, ← List.append_assoc, equityRun_append]
    cases event with
    | fill fill => exact hrow
    | snapshot now' mid' => exact List.mem_append_left _ hrow

/-- A bot without any balances. -/
def sampleEmptyBot : ArbBot :=
  build sampleConfig 0#160 sampleStart.metrics
    { ewmGasPrice := 1, alpha := 1 / 10, count := 1, m2 := 0, ethPriceUsd := 3000 }

/-- A hundredth of an ether, bought at 2000. -/
def sampleFill : BookedFill where
  venueStr := "cex"
  signal := sampleSpread 0
  filled := 1 / 100
  price := 2000

def sampleMid (asset : String) : Option ℚ := if asset = "WETH" then some 2100 else none

/-- Decimals are read to the nearest double, and doubles written with fifteen places. -/
def sampleFloats : DecimalFloats where
  toF64 := F64.ofRat
  fromF64 := fun x => roundHalfEven (x * 10 ^ 15) / 10 ^ 15

theorem sampleEmptyBot_assets :
    equityAssetList sampleEmptyBot.pairs = ["ETH", "PEPE", "USDT", "WETH"] := by
  have assets : equityAssets sampleEmptyBot.pairs = ["ETH", "PEPE", "USDT", "WETH"].toFinset := by
    decide +kernel
  rw [equityAssetList, assets]
  exact (List.toFinset_sort (· ≤ ·) (by decide)).mpr (by decide)

/-- The row that is written. -/
def sampleRow : BalanceSnapshot :=
  let equity := computeEquityBreakdown sampleFloats.toF64 (sampleEmptyBot.bookFill sampleFill)
    sampleMid
  { timestamp := storedTime 5
    cexUsd := sampleFloats.fromF64 equity.cexUsd
    walletUsd := sampleFloats.fromF64 equity.walletUsd
    totalUsd := sampleFloats.fromF64 equity.totalUsd
    breakdown := equity.breakdown }

/-- The total as it is stored: fifteen places of a double. -/
theorem sampleRow_total : sampleRow.totalUsd = 979000000000003 / 10 ^ 15 := by
  show sampleFloats.fromF64 (computeEquityBreakdown _ _ _).totalUsd = _
  rw [computeEquityBreakdown_eq]
  show sampleFloats.fromF64
    (F64.sumLeft (((equityAssetList sampleEmptyBot.pairs).map _).map _) +
      F64.sumLeft (((equityAssetList sampleEmptyBot.pairs).map _).map _)) = _
  rw [sampleEmptyBot_assets]
  decide +kernel

/-- The worth in exact numbers. -/
theorem sampleEmptyBot_gains :
    sampleEmptyBot.worthUsd sampleMid +
      gains (countedPrice sampleEmptyBot.pairs sampleMid) [.fill sampleFill] = 979 / 1000 := by
  decide +kernel

/-- The bot holds 21 dollars in ether less the fee, and owes 20. -/
theorem sampleEmptyBot_gross :
    (sampleEmptyBot.bookFill sampleFill).grossUsd sampleMid = 40979 / 1000 := by
  show ((equityAssetList sampleEmptyBot.pairs).map _).sum +
    ((equityAssetList sampleEmptyBot.pairs).map _).sum = _
  rw [sampleEmptyBot_assets]
  decide +kernel

/-- Doubles have 53 bits, and this account is worth less than 64 dollars. -/
theorem sampleEmptyBot_legible :
    Legible sampleFloats.toF64 (sampleEmptyBot.bookFill sampleFill) sampleMid (2 ^ (-53 : ℤ)) 6 where
  share := by positivity
  amounts := by
    intro venue
    cases venue <;> decide +kernel
  prices := by
    intro asset _ price found
    by_cases weth : asset = "WETH"
    · rw [sampleMid, if_pos weth] at found
      cases found
      decide +kernel
    · rw [sampleMid, if_neg weth] at found
      cases found
  one := by norm_num
  small := by
    rw [sampleEmptyBot_gross]
    show _ + 4 * ((equityAssetList sampleEmptyBot.pairs).length : ℚ) * _ < _
    rw [sampleEmptyBot_assets]
    decide +kernel

/-- So the doubles lose less than a trillionth of a dollar here. -/
theorem sampleEmptyBot_slack :
    (sampleEmptyBot.bookFill sampleFill).slackUsd sampleMid (2 ^ (-53 : ℤ)) 6 ≤ 1 / 10 ^ 12 := by
  unfold slackUsd
  rw [sampleEmptyBot_gross]
  show _ + (4 * ((equityAssetList sampleEmptyBot.pairs).length : ℚ) + 1) * _ ≤ _
  rw [sampleEmptyBot_assets]
  decide +kernel

end ArbBot
end ArbEngine
