import Mathlib.Algebra.Order.BigOperators.Group.List
import Mathlib.Algebra.Order.Field.Rat
import ArbEngine.Integration.Records
import ArbEngine.Inventory.TradeStore
import ArbEngine.Proof.Exchange.BookPrices

/-!
# What the reports say of the trades

The bot hands its trades to the database one by one, and the database keeps the first of each key.
`reports_of_records` says that the reports are about the trades that were kept and about no others,
whatever order the database gives rows of the same time.
-/

namespace ArbEngine

namespace ArbRecord

/-- The record as it comes back: both legs carry the key, the symbol of the buying leg, and the
    time in microseconds. -/
def stored (r : ArbRecord) : ArbRecord := r.row.record

@[simp] theorem id_stored (r : ArbRecord) : r.stored.id = r.id := rfl

@[simp] theorem timestamp_stored (r : ArbRecord) : r.stored.timestamp = storedTime r.timestamp :=
  rfl

@[simp] theorem notional_stored (r : ArbRecord) : r.stored.notional = r.notional := rfl

@[simp] theorem totalFees_stored (r : ArbRecord) : r.stored.totalFees = r.totalFees := rfl

@[simp] theorem netPnl_stored (r : ArbRecord) : r.stored.netPnl = r.netPnl := rfl

@[simp] theorem netPnlBps_stored (r : ArbRecord) : r.stored.netPnlBps = r.netPnlBps := rfl

@[simp] theorem ofText_text (venue : Venue) : Venue.ofText venue.text = venue := by
  cases venue <;> rfl

/-- A record whose legs agree with it comes back as it was, but for its time. -/
theorem stored_eq {r : ArbRecord} (buyId : r.buyLeg.id = r.id ++ "-buy")
    (sellId : r.sellLeg.id = r.id ++ "-sell") (symbol : r.sellLeg.symbol = r.buyLeg.symbol)
    (buys : r.buyLeg.side = .buy) (sells : r.sellLeg.side = .sell) :
    r.stored =
      { r with
        timestamp := storedTime r.timestamp
        buyLeg := { r.buyLeg with timestamp := storedTime r.timestamp }
        sellLeg := { r.sellLeg with timestamp := storedTime r.timestamp } } := by
  simp only [stored, row, TradeRow.record, ofText_text, buyId, sellId, symbol, buys, sells]

end ArbRecord

/-- What the bot records comes back as it was, but for its time. -/
theorem ArbBot.stored_persistArbRecord (b : ArbBot) (now : ℚ) (ctx : ExecutionContext)
    (signal : Signal) :
    (b.persistArbRecord now ctx signal).stored =
      { b.persistArbRecord now ctx signal with
        timestamp := storedTime now
        buyLeg :=
          { (b.persistArbRecord now ctx signal).buyLeg with timestamp := storedTime now }
        sellLeg :=
          { (b.persistArbRecord now ctx signal).sellLeg with timestamp := storedTime now } } := by
  unfold persistArbRecord
  cases signal.direction with
  | buyCexSellDex => exact ArbRecord.stored_eq rfl rfl rfl rfl rfl
  | buyDexSellCex => exact ArbRecord.stored_eq rfl rfl rfl rfl rfl

namespace PnLEngine

open Table (Firsts totalAt)

/-- The average lies between the worst and the best trade, and the win rate is a percentage. -/
structure Balanced (s : TradeSummary) : Prop where
  worst : roundDp s.worstTradePnl 2 ≤ s.avgPnlPerTrade
  best : s.avgPnlPerTrade ≤ roundDp s.bestTradePnl 2
  wins : 0 ≤ s.winRate ∧ s.winRate ≤ 100

/-- **The reports are about these trades.** -/
structure ReportsOf (kept : List ArbRecord) (answer : List TradeRow) : Prop where
  fetched : (fetchAllTrades answer).Perm (kept.map ArbRecord.stored)
  columns : ∀ row ∈ answer, row.netPnl = row.record.netPnl ∧ row.bps = row.record.netPnlBps
  cumulative : ∀ t, totalAt 0 (cumulativePnl answer) t =
    ((kept.filter fun r => storedTime r.timestamp ≤ t).map ArbRecord.netPnl).sum
  summary : summary answer = summarize kept
  balanced : ∀ s, PnLEngine.summary answer = some s → Balanced s
  recent : ∀ n, ∃ latest others : List ArbRecord,
    (latest ++ others).Perm (kept.map ArbRecord.stored) ∧ latest.length = min n kept.length ∧
    recent answer n = latest.map recentTrade ∧
    (latest.Pairwise fun a b => b.timestamp ≤ a.timestamp) ∧
    ∀ a ∈ latest, ∀ b ∈ others, b.timestamp ≤ a.timestamp

/-! ## The rows -/

/-- The trades that the database has taken. -/
def taken (trades : List ArbRecord) : List ArbRecord := Table.insertAll ArbRecord.id [] trades

theorem recordAll_eq (trades : List ArbRecord) :
    recordAll [] trades = (taken trades).map ArbRecord.row := by
  have rows : recordAll [] trades = Table.insertAll TradeRow.id [] (trades.map ArbRecord.row) := by
    rw [Table.insertAll, List.foldl_map]
    rfl
  have keys : ∀ r : ArbRecord, r.row.id = r.id := fun _ => rfl
  rw [rows, taken, Table.map_insertAll ArbRecord.id ArbRecord.row keys]

variable {kept : List ArbRecord} {answer : List TradeRow}

theorem fetchAllTrades_perm (h : answer.Perm (kept.map ArbRecord.row)) :
    (fetchAllTrades answer).Perm (kept.map ArbRecord.stored) := by
  have fetched := h.map TradeRow.record
  rw [List.map_map] at fetched
  exact fetched

theorem columns_of_perm (h : answer.Perm (kept.map ArbRecord.row)) :
    ∀ row ∈ answer, row.netPnl = row.record.netPnl ∧ row.bps = row.record.netPnlBps := by
  intro row hrow
  obtain ⟨r, -, rfl⟩ := List.mem_map.mp (h.mem_iff.mp hrow)
  exact ⟨rfl, rfl⟩

theorem sorted_fetched (sorted : answer.Pairwise fun a b => a.timestamp ≤ b.timestamp) :
    (fetchAllTrades answer).Pairwise fun a b => a.timestamp ≤ b.timestamp :=
  List.pairwise_map.mpr sorted

/-! ## The reports -/

theorem cumulativePnl_total (h : answer.Perm (kept.map ArbRecord.row))
    (sorted : answer.Pairwise fun a b => a.timestamp ≤ b.timestamp) (t : ℚ) :
    totalAt 0 (cumulativePnl answer) t =
      ((kept.filter fun r => storedTime r.timestamp ≤ t).map ArbRecord.netPnl).sum := by
  have entries : ((fetchAllTrades answer).map fun t => (t.timestamp, t.netPnl)).Perm
      (kept.map fun r => (storedTime r.timestamp, r.netPnl)) := by
    have mapped := (fetchAllTrades_perm h).map fun t => (t.timestamp, t.netPnl)
    rw [List.map_map] at mapped
    exact mapped
  rw [cumulativePnl, Table.totalAt_cumulate (List.pairwise_map.mpr (sorted_fetched sorted)),
    zero_add, ((entries.filter _).map Prod.snd).sum_eq, List.filter_map, List.map_map]
  rfl

/-- The largest of some numbers does not depend on their order. -/
theorem max?_perm {xs ys : List ℚ} (h : xs.Perm ys) : xs.max? = ys.max? := by
  ext a
  simp only [List.max?_eq_some_iff, h.mem_iff]

theorem min?_perm {xs ys : List ℚ} (h : xs.Perm ys) : xs.min? = ys.min? := by
  ext a
  simp only [List.min?_eq_some_iff, h.mem_iff]

/-- **The summary depends on no order**, and on nothing that the database changes. -/
theorem summarize_perm {trades : List ArbRecord}
    (h : trades.Perm (kept.map ArbRecord.stored)) : summarize trades = summarize kept := by
  have same : ∀ f : ArbRecord → ℚ, (∀ r, f r.stored = f r) →
      (trades.map f).Perm (kept.map f) := by
    intro f keeps
    have mapped := h.map f
    rw [List.map_map] at mapped
    exact mapped.trans (List.Perm.of_eq (List.map_congr_left fun r _ => keeps r))
  have pnls := same ArbRecord.netPnl fun _ => rfl
  have length : trades.length = kept.length := by
    rw [h.length_eq, List.length_map]
  have empty : trades = [] ↔ kept = [] := by
    rw [← List.length_eq_zero_iff, ← List.length_eq_zero_iff, length]
  unfold summarize
  simp only [empty, length, pnls.sum_eq, (pnls.filter _).length_eq, max?_perm pnls, min?_perm pnls,
    (same ArbRecord.totalFees fun _ => rfl).sum_eq, (same ArbRecord.notional fun _ => rfl).sum_eq,
    (same ArbRecord.netPnlBps fun _ => rfl).sum_eq]

/-- The figures of a summary fit together: the average lies between the worst and the best trade,
    also after all three were rounded, and the win rate is a percentage. -/
theorem balanced_summarize {trades : List ArbRecord} {s : TradeSummary}
    (h : summarize trades = some s) : Balanced s := by
  unfold summarize at h
  split at h
  · cases h
  · rename_i nonempty
    obtain rfl := Option.some.inj h
    set pnls := trades.map ArbRecord.netPnl with hpnls
    have length : pnls.length = trades.length := List.length_map _
    have positive : 0 < (trades.length : ℚ) :=
      Nat.cast_pos.mpr (List.length_pos_iff_ne_nil.mpr nonempty)
    have some_pnls : pnls ≠ [] := mt List.map_eq_nil_iff.mp nonempty
    -- there is a trade, so there is a best and a worst one
    obtain ⟨best, hbest⟩ := Option.ne_none_iff_exists'.mp (mt List.max?_eq_none_iff.mp some_pnls)
    obtain ⟨worst, hworst⟩ := Option.ne_none_iff_exists'.mp (mt List.min?_eq_none_iff.mp some_pnls)
    constructor
    · rw [hworst, Option.getD_some]
      apply roundDp_mono
      rw [le_div_iff₀ positive, mul_comm, ← nsmul_eq_mul, ← length]
      exact List.card_nsmul_le_sum _ _ (List.min?_eq_some_iff.mp hworst).2
    · rw [hbest, Option.getD_some]
      apply roundDp_mono
      rw [div_le_iff₀ positive, mul_comm, ← nsmul_eq_mul, ← length]
      exact List.sum_le_card_nsmul _ _ (List.max?_eq_some_iff.mp hbest).2
    · have some_wins : ((pnls.filter (0 < ·)).length : ℚ) ≤ trades.length := by
        rw [← length]
        exact Nat.cast_le.mpr (List.length_filter_le _ _)
      refine ⟨by positivity, ?_⟩
      have share : ((pnls.filter (0 < ·)).length : ℚ) / trades.length ≤ 1 :=
        (div_le_one positive).mpr some_wins
      show ((pnls.filter (0 < ·)).length : ℚ) / trades.length * 100 ≤ 100
      linarith

theorem recent_latest (h : answer.Perm (kept.map ArbRecord.row))
    (sorted : answer.Pairwise fun a b => a.timestamp ≤ b.timestamp) (n : ℕ) :
    ∃ latest others : List ArbRecord, (latest ++ others).Perm (kept.map ArbRecord.stored) ∧
      latest.length = min n kept.length ∧ recent answer n = latest.map recentTrade ∧
      (latest.Pairwise fun a b => b.timestamp ≤ a.timestamp) ∧
      ∀ a ∈ latest, ∀ b ∈ others, b.timestamp ≤ a.timestamp := by
  have fetched := fetchAllTrades_perm h
  have descending : (fetchAllTrades answer).reverse.Pairwise fun a b =>
      b.timestamp ≤ a.timestamp := List.pairwise_reverse.mpr (sorted_fetched sorted)
  rw [← List.take_append_drop n (fetchAllTrades answer).reverse,
    List.pairwise_append] at descending
  obtain ⟨latest, -, before⟩ := descending
  refine ⟨(fetchAllTrades answer).reverse.take n, (fetchAllTrades answer).reverse.drop n, ?_, ?_,
    rfl, latest, before⟩
  · rw [List.take_append_drop]
    exact (List.reverse_perm _).trans fetched
  · rw [List.length_take, List.length_reverse, fetched.length_eq, List.length_map]

/-- **The reports say what was recorded.** Of the trades that are handed to the database it keeps
    the first of each key, and every report is about these. -/
theorem reports_of_records (trades : List ArbRecord) (answer : List TradeRow)
    (answered : Answer (recordAll [] trades) answer) :
    ∃ kept, Firsts ArbRecord.id trades kept ∧ ReportsOf kept answer := by
  have perm := answered.perm
  rw [recordAll_eq] at perm
  exact ⟨taken trades, Table.firsts_insertAll ArbRecord.id trades,
    { fetched := fetchAllTrades_perm perm
      columns := columns_of_perm perm
      cumulative := cumulativePnl_total perm answered.sorted
      summary := summarize_perm (fetchAllTrades_perm perm)
      balanced := fun s => balanced_summarize
      recent := recent_latest perm answered.sorted }⟩

/-! ## A key that is taken -/

def sampleTrade (id : String) (timestamp sellPrice : ℚ) : ArbRecord where
  id := id
  timestamp := timestamp
  buyLeg :=
    { id := id ++ "-buy", timestamp := timestamp, venue := .cex, symbol := "ETH/USDT", side := .buy,
      amount := 1, price := 2000, fee := 2, feeAsset := "USDT" }
  sellLeg :=
    { id := id ++ "-sell", timestamp := timestamp, venue := .wallet, symbol := "ETH/USDT",
      side := .sell, amount := 1, price := sellPrice, fee := 0, feeAsset := "ETH" }
  gasCostUsd := 1

/-- The second trade has the key of the first, and is dropped. -/
def sampleTrades : List ArbRecord :=
  [sampleTrade "ETH_USDT-1000" 1 2010, sampleTrade "ETH_USDT-1000" 1 1990,
    sampleTrade "ETH_USDT-2000" 2 2005]

theorem sample_reports :
    ∃ kept, Firsts ArbRecord.id sampleTrades kept ∧
      ReportsOf kept (recordAll [] sampleTrades) :=
  reports_of_records sampleTrades _
    { perm := List.Perm.refl _
      sorted := by decide +kernel }

end PnLEngine

end ArbEngine
