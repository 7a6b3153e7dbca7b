import Mathlib.Algebra.Ring.Rat
import Mathlib.Tactic.Linarith
import Mathlib.Tactic.Ring
import ArbEngine.Executor.Engine
import ArbEngine.Lib.Ledger

/-!
# The tracker as a ledger

The free balances of a tracker are a ledger whose accounts are pairs of a venue and an
asset. `recordTrade` makes three postings on it, one for the base, one for the quote and one
for the fee, also where two of the assets are the same; locked balances never move. What an
execution books is then a statement about nets of postings.
-/

namespace ArbEngine
namespace InventoryTracker

/-- The ledger of free balances. -/
def free (t : InventoryTracker) : Venue × String → ℚ := fun k => t.getAvailable k.1 k.2

/-- The locked balances. -/
def locked (t : InventoryTracker) : Venue × String → ℚ :=
  fun k => ((t.balances k.1 k.2).map Balance.locked).getD 0

/-- The postings of a trade. -/
def tradePostings (venue : Venue) (side : TradeSide) (base quote : String)
    (baseAmount quoteAmount fee : ℚ) (feeAsset : String) : List ((Venue × String) × ℚ) :=
  match side with
  | .buy => [((venue, base), baseAmount), ((venue, quote), -quoteAmount), ((venue, feeAsset), -fee)]
  | .sell =>
      [((venue, base), -baseAmount), ((venue, quote), quoteAmount), ((venue, feeAsset), -fee)]

section AddFree

variable {t : InventoryTracker} {venue : Venue} {asset : String} {delta : ℚ}

theorem free_addFree :
    (t.addFree venue asset delta).free = Ledger.post t.free ((venue, asset), delta) := by
  funext ⟨v, a⟩
  rw [Ledger.post_apply]
  by_cases h : (venue, asset) = (v, a)
  · cases h
    cases hb : t.balances venue asset with
    | none => simp [free, getAvailable, addFree, hb]
    | some b => simp [free, getAvailable, addFree, hb]
  · have hne : ¬ (v = venue ∧ a = asset) := by
      rintro ⟨rfl, rfl⟩
      exact h rfl
    rw [if_neg h, add_zero]
    simp only [free, getAvailable, addFree, if_neg hne]

theorem locked_addFree : (t.addFree venue asset delta).locked = t.locked := by
  funext ⟨v, a⟩
  by_cases h : v = venue ∧ a = asset
  · obtain ⟨rfl, rfl⟩ := h
    cases hb : t.balances v a with
    | none => simp [locked, addFree, hb]
    | some b => simp [locked, addFree, hb]
  · simp only [locked, addFree, if_neg h]

end AddFree

section RecordTrade

variable {t : InventoryTracker} {venue : Venue} {side : TradeSide} {base quote : String}
  {baseAmount quoteAmount fee : ℚ} {feeAsset : String}

/-- **A recorded trade is its postings.** -/
theorem free_recordTrade :
    (t.recordTrade venue side base quote baseAmount quoteAmount fee feeAsset).free =
      Ledger.postAll t.free
        (tradePostings venue side base quote baseAmount quoteAmount fee feeAsset) := by
  cases side <;> simp only [recordTrade, free_addFree, tradePostings, Ledger.postAll,
    List.foldl_cons, List.foldl_nil]

theorem locked_recordTrade :
    (t.recordTrade venue side base quote baseAmount quoteAmount fee feeAsset).locked =
      t.locked := by
  cases side <;> simp only [recordTrade, locked_addFree]

end RecordTrade

end InventoryTracker

/-! ## Booked fills -/

/-- The postings `updateInventory` makes for a fill. -/
def fillPostings (signal : Signal) (venue : Venue) (filled price : ℚ) :
    List ((Venue × String) × ℚ) :=
  match splitPair signal.pair with
  | [base, quote] =>
      let side := legSide signal.direction venue
      let fee :=
        match side with
        | .buy => filled * (1 / 1000)
        | .sell => filled * price * (1 / 1000)
      let feeAsset :=
        match side with
        | .buy => base
        | .sell => quote
      InventoryTracker.tradePostings venue side base quote filled (filled * price) fee feeAsset
  | _ => []

/-- **What a fill does to the books**: nothing but its postings. -/
theorem free_updateInventory {t : InventoryTracker} {venueStr : String} {signal : Signal}
    {filled price : ℚ} :
    (updateInventory t venueStr signal filled price).free =
      Ledger.postAll t.free (fillPostings signal (venueOf venueStr) filled price) := by
  unfold updateInventory fillPostings
  generalize splitPair signal.pair = parts
  rcases parts with _ | ⟨base, _ | ⟨quote, _ | ⟨third, rest⟩⟩⟩
  · rfl
  · rfl
  · exact InventoryTracker.free_recordTrade
  · rfl

theorem locked_updateInventory {t : InventoryTracker} {venueStr : String} {signal : Signal}
    {filled price : ℚ} : (updateInventory t venueStr signal filled price).locked = t.locked := by
  unfold updateInventory
  split
  · exact InventoryTracker.locked_recordTrade
  · rfl

/-- What a fill adds to one account. -/
theorem net_fillPostings {signal : Signal} {base quote : String}
    (hpair : splitPair signal.pair = [base, quote]) {venue : Venue} {filled price : ℚ}
    {k : Venue × String} :
    Ledger.net (fillPostings signal venue filled price) k =
      match legSide signal.direction venue with
      | .buy =>
          (if (venue, base) = k then filled * (999 / 1000) else 0) -
            (if (venue, quote) = k then filled * price else 0)
      | .sell =>
          (if (venue, quote) = k then filled * price * (999 / 1000) else 0) -
            (if (venue, base) = k then filled else 0) := by
  unfold fillPostings
  rw [hpair]
  cases legSide signal.direction venue with
  | buy =>
    simp only [InventoryTracker.tradePostings, Ledger.net_cons, Ledger.net_nil]
    split_ifs <;> ring
  | sell =>
    simp only [InventoryTracker.tradePostings, Ledger.net_cons, Ledger.net_nil]
    split_ifs <;> ring

/-- A fill moves nothing at another venue. -/
theorem net_fillPostings_other {signal : Signal} {venue : Venue} {filled price : ℚ}
    {k : Venue × String} (h : venue ≠ k.1) :
    Ledger.net (fillPostings signal venue filled price) k = 0 := by
  have away : ∀ asset, ¬ (venue, asset) = k := by
    intro asset heq
    exact h (congrArg Prod.fst heq)
  unfold fillPostings
  split
  · cases legSide signal.direction venue <;>
      simp [InventoryTracker.tradePostings, away]
  · rfl

/-- Another asset of the venue is booked elsewhere. -/
theorem other_asset (venue : Venue) {base quote : String} (h : ¬ base = quote) :
    ¬ (venue, quote) = (venue, base) := by
  intro same
  exact h (Prod.mk.inj same).2.symm

/-- What a purchase adds to the asset it buys, after the fee. -/
theorem net_fillPostings_bought {signal : Signal} {base quote : String}
    (hpair : splitPair signal.pair = [base, quote]) {venue : Venue}
    (buys : legSide signal.direction venue = .buy) {filled price : ℚ} :
    Ledger.net (fillPostings signal venue filled price) (venue, base) =
      filled * (999 / 1000) - if base = quote then filled * price else 0 := by
  rw [net_fillPostings hpair, buys]
  simp only [if_true]
  by_cases heq : base = quote
  · rw [if_pos heq, if_pos (by rw [heq])]
  · rw [if_neg heq, if_neg (other_asset venue heq)]

/-- A price at which a trade of an asset against itself pays exactly for its fee. -/
def PaysItsFee (side : TradeSide) (price : ℚ) : Prop :=
  match side with
  | .buy => price = 999 / 1000
  | .sell => price = 1000 / 999

/-- **A fill leaves no mark on the books** only if it is empty, or trades an asset against itself
    at the one price that pays for the fee. A pair like `ETH/ETH` is nothing the code rules out. -/
theorem net_fillPostings_eq_zero_iff {signal : Signal} {base quote : String}
    (hpair : splitPair signal.pair = [base, quote]) {venue : Venue} {filled price : ℚ} :
    (∀ k, Ledger.net (fillPostings signal venue filled price) k = 0) ↔
      filled = 0 ∨ (base = quote ∧ PaysItsFee (legSide signal.direction venue) price) := by
  simp only [net_fillPostings hpair]
  cases legSide signal.direction venue with
  | buy =>
    constructor
    · -- it is enough to look at the base asset
      intro h
      have hbase := h (venue, base)
      by_cases heq : base = quote
      · subst heq
        simp only [if_true] at hbase
        have hfac : filled * (999 / 1000 - price) = 0 := by linarith
        rcases mul_eq_zero.mp hfac with h0 | hp
        · exact Or.inl h0
        · exact Or.inr ⟨rfl, by show price = 999 / 1000; linarith⟩
      · simp only [if_true, if_neg (other_asset venue heq)] at hbase
        exact Or.inl (by linarith)
    · rintro (rfl | ⟨rfl, hp⟩) k
      · simp
      · have hp : price = 999 / 1000 := hp
        rw [hp]
        split_ifs <;> ring
  | sell =>
    constructor
    · intro h
      have hbase := h (venue, base)
      by_cases heq : base = quote
      · subst heq
        simp only [if_true] at hbase
        have hfac : filled * (price * (999 / 1000) - 1) = 0 := by linarith
        rcases mul_eq_zero.mp hfac with h0 | hp
        · exact Or.inl h0
        · exact Or.inr ⟨rfl, by show price = 1000 / 999; linarith⟩
      · simp only [if_true, if_neg (other_asset venue heq)] at hbase
        exact Or.inl (by linarith)
    · rintro (rfl | ⟨rfl, hp⟩) k
      · simp
      · have hp : price = 1000 / 999 := hp
        rw [hp]
        split_ifs <;> ring

end ArbEngine
