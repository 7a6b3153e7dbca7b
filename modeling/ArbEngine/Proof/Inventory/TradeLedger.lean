import Mathlib.Algebra.BigOperators.Group.List.Basic
import ArbEngine.Proof.Inventory.TrackerLedger

/-!
# A run of recorded trades

Recording a trade makes three postings on one venue, and two or all three of them may be on the
same asset. What a whole sequence of trades leaves of a balance is its start and the sum of what
each trade changes (`recordAll_ledger`), in whatever order they were recorded. Nothing else of
the tracker moves.
-/

namespace ArbEngine

/-- The arguments of `record_trade`; any side but `"buy"` is a sale. -/
structure Trade where
  venue : Venue
  side : String
  baseAsset : String
  quoteAsset : String
  baseAmount : ℚ
  quoteAmount : ℚ
  fee : ℚ
  feeAsset : String
deriving DecidableEq, Repr

namespace Trade

def tradeSide (trade : Trade) : TradeSide := if trade.side = "buy" then .buy else .sell

/-- The base amount with its sign. -/
def baseChange (trade : Trade) : ℚ :=
  if trade.side = "buy" then trade.baseAmount else -trade.baseAmount

/-- The quote amount with its sign. -/
def quoteChange (trade : Trade) : ℚ :=
  if trade.side = "buy" then -trade.quoteAmount else trade.quoteAmount

/-- What the trade adds to the free balance of an asset at a venue. -/
def change (trade : Trade) (venue : Venue) (asset : String) : ℚ :=
  if trade.venue = venue then
    (if trade.baseAsset = asset then trade.baseChange else 0) +
      (if trade.quoteAsset = asset then trade.quoteChange else 0) -
      (if trade.feeAsset = asset then trade.fee else 0)
  else 0

/-- The trade names the asset at the venue. -/
def Names (trade : Trade) (venue : Venue) (asset : String) : Prop :=
  trade.venue = venue ∧
    (trade.baseAsset = asset ∨ trade.quoteAsset = asset ∨ trade.feeAsset = asset)

def postings (trade : Trade) : List ((Venue × String) × ℚ) :=
  InventoryTracker.tradePostings trade.venue trade.tradeSide trade.baseAsset trade.quoteAsset
    trade.baseAmount trade.quoteAmount trade.fee trade.feeAsset

theorem net_postings (trade : Trade) (venue : Venue) (asset : String) :
    Ledger.net trade.postings (venue, asset) = trade.change venue asset := by
  unfold postings change tradeSide baseChange quoteChange
  by_cases buys : trade.side = "buy"
  · simp only [if_pos buys, InventoryTracker.tradePostings, Ledger.net_cons, Ledger.net_nil,
      Prod.mk.injEq]
    by_cases here : trade.venue = venue
    · simp only [here, true_and, if_true]
      split_ifs <;> ring
    · simp [here]
  · simp only [if_neg buys, InventoryTracker.tradePostings, Ledger.net_cons, Ledger.net_nil,
      Prod.mk.injEq]
    by_cases here : trade.venue = venue
    · simp only [here, true_and, if_true]
      split_ifs <;> ring
    · simp [here]

end Trade

namespace InventoryTracker

/-- One call of `record_trade`. -/
def record (t : InventoryTracker) (trade : Trade) : InventoryTracker :=
  t.recordTrade trade.venue trade.tradeSide trade.baseAsset trade.quoteAsset trade.baseAmount
    trade.quoteAmount trade.fee trade.feeAsset

/-- The calls one after another. -/
def recordAll (t : InventoryTracker) (trades : List Trade) : InventoryTracker :=
  trades.foldl record t

variable {t : InventoryTracker} {trades : List Trade} {venue v : Venue} {asset a : String}
  {delta : ℚ}

/-! ## Balances -/

theorem free_recordAll :
    (t.recordAll trades).free = Ledger.postAll t.free (trades.flatMap Trade.postings) := by
  induction trades generalizing t with
  | nil => rfl
  | cons trade trades ih =>
    show ((t.record trade).recordAll trades).free = _
    rw [ih, List.flatMap_cons, Ledger.postAll_append, record, free_recordTrade]
    rfl

theorem net_tradePostings :
    Ledger.net (trades.flatMap Trade.postings) (venue, asset) =
      (trades.map fun trade => trade.change venue asset).sum := by
  induction trades with
  | nil => rfl
  | cons trade trades ih =>
    rw [List.flatMap_cons, Ledger.net_append, ih, Trade.net_postings, List.map_cons, List.sum_cons]

theorem getAvailable_recordAll :
    (t.recordAll trades).getAvailable venue asset =
      t.getAvailable venue asset + (trades.map fun trade => trade.change venue asset).sum := by
  show (t.recordAll trades).free (venue, asset) = _
  rw [free_recordAll, Ledger.postAll_apply, net_tradePostings]
  rfl

theorem locked_recordAll : (t.recordAll trades).locked = t.locked := by
  induction trades generalizing t with
  | nil => rfl
  | cons trade trades ih =>
    show ((t.record trade).recordAll trades).locked = _
    rw [ih, record, locked_recordTrade]

/-! ## Entries -/

/-- What a change of free balances may do to the entries: those it does not name stay as they
    are, the others keep all but their free balance, and a new one stands under its own names. -/
structure Touches (named : Venue → String → Prop) (t t' : InventoryTracker) : Prop where
  wallet : t'.walletAddress = t.walletAddress
  untouched : ∀ v a, ¬ named v a → t'.balances v a = t.balances v a
  kept : ∀ v a b, t.balances v a = some b →
    ∃ free, t'.balances v a = some { b with free := free }
  fresh : ∀ v a b, t.balances v a = none → t'.balances v a = some b →
    b.venue = v ∧ b.asset = a ∧ b.locked = 0

namespace Touches

variable {named named' : Venue → String → Prop} {t' t'' : InventoryTracker}

theorem refl (named : Venue → String → Prop) (t : InventoryTracker) : Touches named t t where
  wallet := rfl
  untouched _ _ _ := rfl
  kept _ _ b h := ⟨b.free, h⟩
  fresh _ _ _ none some := by
    rw [none] at some
    cases some

theorem trans (h : Touches named t t') (h' : Touches named t' t'') : Touches named t t'' where
  wallet := h'.wallet.trans h.wallet
  untouched v a away := (h'.untouched v a away).trans (h.untouched v a away)
  kept v a b old := by
    obtain ⟨free, mid⟩ := h.kept v a b old
    obtain ⟨free', last⟩ := h'.kept v a _ mid
    exact ⟨free', last⟩
  fresh v a b none some := by
    cases mid : t'.balances v a with
    | none => exact h'.fresh v a b mid some
    | some m =>
      obtain ⟨free, last⟩ := h'.kept v a m mid
      rw [some] at last
      obtain rfl := Option.some.inj last
      exact h.fresh v a m none mid

theorem mono (h : Touches named t t') (sub : ∀ v a, named v a → named' v a) :
    Touches named' t t' where
  wallet := h.wallet
  untouched v a away := h.untouched v a fun near => away (sub v a near)
  kept := h.kept
  fresh := h.fresh

end Touches

theorem touches_addFree (t : InventoryTracker) (venue : Venue) (asset : String) (delta : ℚ) :
    Touches (fun v a => v = venue ∧ a = asset) t (t.addFree venue asset delta) where
  wallet := rfl
  untouched _ _ away := if_neg away
  kept v a b old := by
    by_cases here : v = venue ∧ a = asset
    · obtain ⟨rfl, rfl⟩ := here
      refine ⟨b.free + delta, ?_⟩
      simp [addFree, old]
    · exact ⟨b.free, (if_neg here).trans old⟩
  fresh v a b none some := by
    by_cases here : v = venue ∧ a = asset
    · obtain ⟨rfl, rfl⟩ := here
      simp only [addFree, none, and_self, if_true, Option.getD_none, Option.some.injEq] at some
      subst some
      exact ⟨rfl, rfl, rfl⟩
    · rw [addFree] at some
      dsimp only at some
      rw [if_neg here, none] at some
      cases some

/-- A recorded trade touches only what it names. -/
theorem touches_record (t : InventoryTracker) (trade : Trade) :
    Touches trade.Names t (t.record trade) := by
  have named : ∀ (asset : String) (delta : ℚ) (t : InventoryTracker),
      trade.baseAsset = asset ∨ trade.quoteAsset = asset ∨ trade.feeAsset = asset →
        Touches trade.Names t (t.addFree trade.venue asset delta) := by
    intro asset delta t h
    refine (touches_addFree t trade.venue asset delta).mono ?_
    rintro v a ⟨rfl, rfl⟩
    exact ⟨rfl, h⟩
  unfold record recordTrade
  cases trade.tradeSide with
  | buy =>
    exact ((named _ _ _ (.inl rfl)).trans (named _ _ _ (.inr (.inl rfl)))).trans
      (named _ _ _ (.inr (.inr rfl)))
  | sell =>
    exact ((named _ _ _ (.inl rfl)).trans (named _ _ _ (.inr (.inl rfl)))).trans
      (named _ _ _ (.inr (.inr rfl)))

theorem touches_recordAll (t : InventoryTracker) (trades : List Trade) :
    Touches (fun v a => ∃ trade ∈ trades, trade.Names v a) t (t.recordAll trades) := by
  induction trades generalizing t with
  | nil => exact Touches.refl _ t
  | cons trade trades ih =>
    have first : Touches (fun v a => ∃ tr ∈ trade :: trades, tr.Names v a) t (t.record trade) := by
      refine (touches_record t trade).mono ?_
      intro v a h
      exact ⟨trade, List.mem_cons_self, h⟩
    refine first.trans ((ih (t.record trade)).mono ?_)
    rintro v a ⟨tr, htr, h⟩
    exact ⟨tr, List.mem_cons_of_mem _ htr, h⟩

/-! ## The result -/

/-- The tracker after these trades is the one before them with the trades booked. -/
structure Booked (t : InventoryTracker) (trades : List Trade) (t' : InventoryTracker) : Prop where
  free : ∀ venue asset, t'.getAvailable venue asset =
    t.getAvailable venue asset + (trades.map fun trade => trade.change venue asset).sum
  locked : ∀ venue asset, t'.locked (venue, asset) = t.locked (venue, asset)
  entries : Touches (fun v a => ∃ trade ∈ trades, trade.Names v a) t t'

/-- **The inventory is a ledger**: recording trades books each of them, and in any other order
    they leave the same balances. -/
theorem recordAll_ledger (t : InventoryTracker) (trades : List Trade) :
    Booked t trades (t.recordAll trades) ∧
      ∀ trades', trades.Perm trades' → ∀ venue asset,
        (t.recordAll trades').getAvailable venue asset =
          (t.recordAll trades).getAvailable venue asset := by
  constructor
  · refine ⟨fun venue asset => getAvailable_recordAll, ?_, touches_recordAll t trades⟩
    intro venue asset
    rw [locked_recordAll]
  · intro trades' same venue asset
    rw [getAvailable_recordAll, getAvailable_recordAll, (same.map _).sum_eq]

/-- A purchase whose fee is taken from what is bought. -/
example :
    ((new none).recordAll
      [{ venue := .cex, side := "buy", baseAsset := "ETH", quoteAsset := "USDT", baseAmount := 1
         quoteAmount := 500, fee := 1 / 10, feeAsset := "ETH" }]).getAvailable .cex "ETH" =
      9 / 10 := by
  have other : "USDT" ≠ "ETH" := by decide
  rw [getAvailable_recordAll]
  norm_num [Trade.change, Trade.baseChange, getAvailable, new, other]

end InventoryTracker
end ArbEngine
