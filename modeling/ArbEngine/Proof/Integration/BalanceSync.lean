import Mathlib.Algebra.Order.Group.Unbundled.Abs
import Mathlib.Tactic.NormNum
import ArbEngine.Lib.Overwrite
import ArbEngine.Proof.Integration.Sections

/-!
# Sync and verify

The sync writes what the exchange reports as `ETH` under the name `WETH`; the watchdog looks a
base asset up under its own name on both sides. The two paths agree on every name but these
two. `sync_then_verify_clean_iff` says what is left of the agreement: an account on which
nothing is reported as a mismatch directly after a sync.

The sync goes through the entries of a map, whose order is that of a hash table. Where an account
reports both `ETH` and `WETH`, the entry that comes last is the one that stays, and so the
condition is about the last of the amounts and not about their sum.
-/

namespace ArbEngine

open Overwrite ArbBot

/-! ## What the sync loads -/

namespace InventoryTracker

/-- The entries of the wallet's map, for amounts that can be read. -/
def walletEntries (amounts : List TokenAmount) : List (String × Balance) :=
  amounts.filterMap fun amount =>
    amount.symbol.map fun symbol =>
      (symbol, { venue := .wallet, asset := symbol, free := amount.human, locked := 0 })

/-- The wallet's map is made by inserting the entries one after the other. Amounts without a symbol
    are passed over, and those that can be read never fail. -/
theorem walletMap_eq {m : String → Option Balance} {amounts : List TokenAmount}
    (readable : ∀ a ∈ amounts, a.decimals ≤ maxDecimalScale) :
    walletMap m amounts = .ok (insertAll m (walletEntries amounts)) := by
  induction amounts generalizing m with
  | nil => rfl
  | cons amount amounts ih =>
    have rest : ∀ a ∈ amounts, a.decimals ≤ maxDecimalScale :=
      fun a ha => readable a (List.mem_cons_of_mem _ ha)
    cases hs : amount.symbol with
    | none =>
      simp only [walletMap, hs]
      rw [ih rest, walletEntries, walletEntries, List.filterMap_cons_none (by rw [hs]; rfl)]
    | some symbol =>
      simp only [walletMap, hs]
      rw [TokenAmount.toHuman_eq_ok (readable amount (List.mem_cons_self ..)), Outcome.ok_bind,
        ih rest]
      have hcons : walletEntries (amount :: amounts) =
          (symbol, { venue := .wallet, asset := symbol, free := amount.human, locked := 0 }) ::
            walletEntries amounts := by
        rw [walletEntries, List.filterMap_cons_some (by rw [hs]; rfl)]
        rfl
      rw [hcons, insertAll_cons]

end InventoryTracker

namespace ExchangeBalance

/-- Both amounts are read as zero; the sync skips such an entry. -/
def IsEmpty (b : ExchangeBalance) : Prop := b.free.human = 0 ∧ b.locked.human = 0

instance (b : ExchangeBalance) : Decidable b.IsEmpty :=
  inferInstanceAs (Decidable (_ ∧ _))

end ExchangeBalance

/-- What the sync inserts for an entry. -/
def loadEntry (asset : String) (b : ExchangeBalance) : Option (String × (ℚ × ℚ)) :=
  if b.IsEmpty then none else some (internalAsset asset, (b.free.human, b.locked.human))

/-- The entries of the tracker's map, under the tracker's names. -/
def loaded (balances : ExchangeBalances) : List (String × (ℚ × ℚ)) :=
  balances.entries.filterMap fun e => loadEntry e.1 e.2

/-- What is loaded under a name: an entry that is not empty, whose internal name this is, with its
    two amounts. -/
theorem mem_loaded {balances : ExchangeBalances} {name : String} {amounts : ℚ × ℚ} :
    (name, amounts) ∈ loaded balances ↔
      ∃ e ∈ balances.entries, ¬e.2.IsEmpty ∧ internalAsset e.1 = name ∧
        (e.2.free.human, e.2.locked.human) = amounts := by
  rw [loaded, List.mem_filterMap]
  constructor
  · rintro ⟨e, he, h⟩
    by_cases hempty : e.2.IsEmpty
    · rw [loadEntry, if_pos hempty] at h
      cases h
    · rw [loadEntry, if_neg hempty] at h
      cases h
      exact ⟨e, he, hempty, rfl, rfl⟩
  · rintro ⟨e, he, hempty, rfl, rfl⟩
    exact ⟨e, he, if_neg hempty⟩

/-- One round of the loop is the insertion of at most one entry. -/
theorem mapBalance_eq (m : String → Option (ℚ × ℚ)) (asset : String) (b : ExchangeBalance) :
    mapBalance m asset b = insertAll m (loadEntry asset b).toList := by
  by_cases hempty : b.IsEmpty
  · rw [loadEntry, if_pos hempty]
    exact if_pos hempty
  · rw [loadEntry, if_neg hempty]
    exact if_neg hempty

/-- The whole loop is the insertion of what is loaded, in the order of the entries. From here on
    the laws of `Overwrite` say what is found under a name. -/
theorem mappedBalances_eq (balances : ExchangeBalances) :
    mappedBalances balances = insertAll (fun _ => none) (loaded balances) := by
  unfold mappedBalances loaded
  generalize (fun _ => none : String → Option (ℚ × ℚ)) = m
  induction balances.entries generalizing m with
  | nil => rfl
  | cons e entries ih =>
    rw [List.foldl_cons, ih, mapBalance_eq, ← insertAll_append, List.filterMap_cons]
    cases loadEntry e.1 e.2 with
    | none => rfl
    | some entry => rfl

/-- What the tracker holds free on the exchange under a name, after the sync. -/
def tracked (balances : ExchangeBalances) (asset : String) : ℚ :=
  ((mappedBalances balances asset).map Prod.fst).getD 0

/-- The free amount of an entry that reaches the tracker as `WETH`. -/
def wethAmount (asset : String) (b : ExchangeBalance) : Option ℚ :=
  if (asset = "ETH" ∨ asset = "WETH") ∧ ¬b.IsEmpty then some b.free.human else none

/-- The amounts that reach the tracker as `WETH`, in the order of iteration. -/
def wethAmounts (balances : ExchangeBalances) : List ℚ :=
  balances.entries.filterMap fun e => wethAmount e.1 e.2

/-- Two names become `WETH`. -/
theorem internalAsset_eq_weth {asset : String} :
    internalAsset asset = "WETH" ↔ asset = "ETH" ∨ asset = "WETH" := by
  unfold internalAsset
  by_cases h : asset = "ETH"
  · simp [h]
  · simp [h]

/-- And none becomes `ETH`. -/
theorem internalAsset_ne_eth (asset : String) : internalAsset asset ≠ "ETH" := by
  unfold internalAsset
  by_cases h : asset = "ETH"
  · rw [if_pos h]
    decide
  · rw [if_neg h]
    exact h

/-- Nothing of the exchange is tracked as `ETH`. -/
theorem tracked_eth (balances : ExchangeBalances) : tracked balances "ETH" = 0 := by
  rw [tracked, mappedBalances_eq, insertAll_of_notMem]
  · rfl
  · rintro ⟨name, amounts⟩ he hname
    obtain ⟨e, _, _, rfl, _⟩ := mem_loaded.mp he
    exact internalAsset_ne_eth e.1 hname

/-- An entry brings an amount of `WETH` if it is one of the two and not empty. -/
theorem wethAmount_eq (asset : String) (b : ExchangeBalance) :
    ((loadEntry asset b).toList.filter fun e => e.1 = "WETH").map (fun e => e.2.1) =
      (wethAmount asset b).toList := by
  by_cases hempty : b.IsEmpty
  · have hnot : ¬((asset = "ETH" ∨ asset = "WETH") ∧ ¬b.IsEmpty) := fun h => h.2 hempty
    rw [loadEntry, if_pos hempty, wethAmount, if_neg hnot]
    rfl
  · rw [loadEntry, if_neg hempty]
    by_cases hname : asset = "ETH" ∨ asset = "WETH"
    · rw [wethAmount, if_pos ⟨hname, hempty⟩, internalAsset_eq_weth.mpr hname]
      rfl
    · have hnot : ¬((asset = "ETH" ∨ asset = "WETH") ∧ ¬b.IsEmpty) := fun h => hname h.1
      have hother : ¬internalAsset asset = "WETH" := fun h => hname (internalAsset_eq_weth.mp h)
      rw [wethAmount, if_neg hnot]
      simp [hother]

/-- So the amounts of `WETH` among what is loaded are those of the two names, in order. -/
theorem wethAmounts_eq (balances : ExchangeBalances) :
    ((loaded balances).filter fun e => e.1 = "WETH").map (fun e => e.2.1) =
      wethAmounts balances := by
  unfold loaded wethAmounts
  induction balances.entries with
  | nil => rfl
  | cons e entries ih =>
    have split : ∀ {α : Type} (f : (Σ _ : String, ExchangeBalance) → Option α),
        (e :: entries).filterMap f = (f e).toList ++ entries.filterMap f := by
      intro α f
      rw [List.filterMap_cons]
      cases f e <;> rfl
    rw [split, split, List.filter_append, List.map_append, ih, wethAmount_eq]

/-- The last of the amounts wins, and without any there is nothing. -/
theorem tracked_weth (balances : ExchangeBalances) :
    tracked balances "WETH" = (wethAmounts balances).getLast?.getD 0 := by
  rw [tracked, mappedBalances_eq, insertAll_apply, ← wethAmounts_eq, List.getLast?_map]
  cases ((loaded balances).filter fun e => e.1 = "WETH").getLast? with
  | none => rfl
  | some e => rfl

/-- An asset that only its own entry reaches is tracked with what is reported for it. There may be
    no entry, an empty one, which is not loaded and counts as nothing on both sides, or one with an
    amount. -/
theorem tracked_of_own_name {balances : ExchangeBalances} {asset : String} (heth : asset ≠ "ETH")
    (own : ∀ e ∈ balances.entries, ¬e.2.IsEmpty → internalAsset e.1 = asset → e.1 = asset) :
    tracked balances asset = BotRun.reportedFree balances asset := by
  -- whatever is loaded under this name comes from the one entry
  have lookup_entry : ∀ e ∈ balances.entries, ¬e.2.IsEmpty → internalAsset e.1 = asset →
      balances.lookup asset = some e.2 := by
    intro e he hnonempty h
    have hlookup : balances.lookup e.1 = some e.2 := AList.mem_lookup_iff.mpr he
    rw [own e he hnonempty h] at hlookup
    exact hlookup
  rw [tracked, BotRun.reportedFree, mappedBalances_eq]
  cases hb : balances.lookup asset with
  | none =>
    rw [insertAll_of_notMem]
    · rfl
    · rintro ⟨name, amounts⟩ he hname
      obtain ⟨e, hmem, hnonempty, hkey, _⟩ := mem_loaded.mp he
      have hlookup := lookup_entry e hmem hnonempty (hkey.trans hname)
      rw [hb] at hlookup
      cases hlookup
  | some b =>
    have hmem : (⟨asset, b⟩ : Σ _ : String, ExchangeBalance) ∈ balances.entries :=
      AList.mem_lookup_iff.mp hb
    by_cases hempty : b.IsEmpty
    · rw [insertAll_of_notMem]
      · exact hempty.1.symm
      · rintro ⟨name, amounts⟩ he hname
        obtain ⟨e, hmem', hnonempty, hkey, _⟩ := mem_loaded.mp he
        have hlookup := lookup_entry e hmem' hnonempty (hkey.trans hname)
        rw [hb] at hlookup
        cases hlookup
        exact hnonempty hempty
    · have hself : internalAsset asset = asset := by
        rw [internalAsset, if_neg heth]
      have hfound : (asset, (b.free.human, b.locked.human)) ∈ loaded balances :=
        mem_loaded.mpr ⟨_, hmem, hempty, hself, rfl⟩
      rw [insertAll_of_agree _ hfound]
      · rfl
      · rintro ⟨name, amounts⟩ he hname
        obtain ⟨e, hmem', hnonempty, hkey, rfl⟩ := mem_loaded.mp he
        have hlookup := lookup_entry e hmem' hnonempty (hkey.trans hname)
        rw [hb] at hlookup
        cases hlookup
        rfl

/-- Every asset but the two is tracked under the name it is reported under. -/
theorem tracked_other {balances : ExchangeBalances} {asset : String} (heth : asset ≠ "ETH")
    (hweth : asset ≠ "WETH") : tracked balances asset = BotRun.reportedFree balances asset := by
  refine tracked_of_own_name heth ?_
  intro e _ _ h
  unfold internalAsset at h
  split at h
  · exact absurd h.symm hweth
  · exact h

/-! ## The tracker after both syncs -/

/-- The tokens of the wallet are read with 6, 8 or 18 decimals. -/
theorem walletDecimals_le (symbol : String) : walletDecimals symbol ≤ maxDecimalScale := by
  unfold walletDecimals
  split
  · decide
  · split <;> decide

/-- What is read of the wallet's tokens has a scale that a `Decimal` can have, and none is called
    `ETH`: the ether is read by itself. -/
theorem mem_tokenAmounts {tokens : AList fun _ : String => Address}
    {balanceOf : Address → Option U256} {amount : TokenAmount}
    (h : amount ∈ tokenAmounts tokens balanceOf) :
    amount.decimals ≤ maxDecimalScale ∧ ∃ symbol, amount.symbol = some symbol ∧ symbol ≠ "ETH" := by
  obtain ⟨e, he, hread⟩ := List.mem_filterMap.mp h
  obtain ⟨raw, _, rfl⟩ := Option.map_eq_some_iff.mp hread
  have hne : e.1 ≠ "ETH" := of_decide_eq_true (List.mem_filter.mp he).2
  exact ⟨walletDecimals_le e.1, e.1, rfl, hne⟩

/-- The tracker holds the ether that was read. No later entry of the wallet comes under its name.
    -/
theorem wallet_eth {b s : ArbBot} {wei : U256} {balanceOf : Address → Option U256}
    (h : b.syncWalletBalances (.ok wei) balanceOf = .ok s) :
    s.sharedInventory.getBalance .wallet "ETH" = (ethAmount wei).human := by
  have readable : ∀ a ∈ ethAmount wei :: tokenAmounts b.tokenAddresses balanceOf,
      a.decimals ≤ maxDecimalScale := by
    intro a ha
    rcases List.mem_cons.mp ha with rfl | ha
    · show 18 ≤ maxDecimalScale
      decide
    · exact (mem_tokenAmounts ha).1
  obtain ⟨inventory, hinv, h⟩ := Outcome.bind_eq_ok.mp h
  obtain ⟨m, hm, hinv⟩ := Outcome.bind_eq_ok.mp hinv
  rw [InventoryTracker.walletMap_eq readable] at hm
  cases hm
  cases hinv
  cases h
  -- The ether is the first entry, and no token is inserted under its name.
  have entries : InventoryTracker.walletEntries
      (ethAmount wei :: tokenAmounts b.tokenAddresses balanceOf) =
        ("ETH", { venue := .wallet, asset := "ETH", free := (ethAmount wei).human, locked := 0 }) ::
          InventoryTracker.walletEntries (tokenAmounts b.tokenAddresses balanceOf) := rfl
  have others : ∀ e ∈ InventoryTracker.walletEntries (tokenAmounts b.tokenAddresses balanceOf),
      e.1 ≠ "ETH" := by
    intro e he
    obtain ⟨amount, hmem, hentry⟩ := List.mem_filterMap.mp he
    obtain ⟨_, symbol, hsymbol, hne⟩ := mem_tokenAmounts hmem
    rw [hsymbol] at hentry
    cases hentry
    exact hne
  simp only [sharedInventory, withInventory, InventoryTracker.getBalance,
    InventoryTracker.withVenue, if_true]
  rw [entries, insertAll_cons, insertAll_of_notMem others]
  rfl

/-- The second sync leaves the exchange's map alone, so what the first one has loaded is what the
    watchdog finds. -/
theorem wallet_keeps_cex {b s : ArbBot} {wei : U256} {balanceOf : Address → Option U256}
    (h : b.syncWalletBalances (.ok wei) balanceOf = .ok s) (asset : String) :
    s.sharedInventory.getBalance .cex asset = b.sharedInventory.getBalance .cex asset := by
  obtain ⟨inventory, hinv, h⟩ := Outcome.bind_eq_ok.mp h
  obtain ⟨m, _, hinv⟩ := Outcome.bind_eq_ok.mp hinv
  cases hinv
  cases h
  rfl

/-- After the first sync the tracker holds what was loaded. -/
theorem cex_tracked {b s : ArbBot} {balances : ExchangeBalances}
    (h : b.syncBinanceBalances (.ok balances) = .ok s) (asset : String) :
    s.sharedInventory.getBalance .cex asset = tracked balances asset := by
  cases h
  simp only [sharedInventory, withInventory, InventoryTracker.getBalance,
    InventoryTracker.updateFromCex, InventoryTracker.withVenue, if_true, tracked, Option.map_map]
  rfl

/-! ## The watchdog -/

namespace BotRun

/-- The watchdog has nothing to say about this pair. -/
def PairClean (balances : ExchangeBalances) (inventory : InventoryTracker) (pair : String) : Prop :=
  ∀ base quote, splitPair pair = [base, quote] →
    |reportedFree balances base - inventory.getBalance .cex base| ≤ mismatchThreshold

/-- A pair that is not two names is not looked at, and it is not reported either. -/
theorem verifyPair_other {balances : ExchangeBalances} {r : BotRun}
    {fetched : Except String ExchangeBalances} {pair : String}
    (hother : ∀ base quote, splitPair pair ≠ [base, quote]) :
    verifyPair balances r fetched pair = .ok r := by
  unfold verifyPair
  split
  · rename_i base quote hsplit
    exact absurd hsplit (hother base quote)
  · rfl

/-- A pair of two names is compared by its base asset only. The quote asset is looked at by no
    pair, unless it is the base of another. -/
theorem verifyPair_two {balances : ExchangeBalances} {r : BotRun}
    {fetched : Except String ExchangeBalances} {pair base quote : String}
    (hsplit : splitPair pair = [base, quote]) :
    verifyPair balances r fetched pair =
      if mismatchThreshold <
          |reportedFree balances base - r.bot.sharedInventory.getBalance .cex base| then
        r.reportCexMismatch fetched base (reportedFree balances base)
          (r.bot.sharedInventory.getBalance .cex base)
      else .ok r := by
  simp only [verifyPair, hsplit]

/-- **A pair is clean and nothing happens, or there is a mismatch and the trace grows.** Triggering
    the switch and flattening leave entries of their own, so a mismatch can be told from the trace.
    -/
theorem verifyPair_ok {balances : ExchangeBalances} {r s : BotRun}
    {fetched : Except String ExchangeBalances} {pair : String}
    (h : verifyPair balances r fetched pair = .ok s) :
    (PairClean balances r.bot.sharedInventory pair ∧ s = r) ∨
      r.trace.length < s.trace.length := by
  by_cases hpair : ∃ base quote, splitPair pair = [base, quote]
  · obtain ⟨base, quote, hsplit⟩ := hpair
    rw [verifyPair_two hsplit] at h
    by_cases mismatched : mismatchThreshold <
        |reportedFree balances base - r.bot.sharedInventory.getBalance .cex base|
    · -- a mismatch is recorded before anything is sold
      right
      rw [if_pos mismatched] at h
      obtain ⟨orders, _, rfl⟩ := flattenAndPause_ok h
      simp only [trigger, record, List.length_append, List.length_singleton]
      omega
    · left
      rw [if_neg mismatched] at h
      cases h
      refine ⟨?_, rfl⟩
      intro base' quote' hsplit'
      rw [hsplit] at hsplit'
      cases hsplit'
      exact not_lt.mp mismatched
  · left
    have hother : ∀ base quote, splitPair pair ≠ [base, quote] :=
      fun base quote hsplit => hpair ⟨base, quote, hsplit⟩
    rw [verifyPair_other hother] at h
    cases h
    exact ⟨fun base quote hsplit => absurd hsplit (hother base quote), rfl⟩

/-- A clean pair changes nothing. -/
theorem verifyPair_clean {balances : ExchangeBalances} {r : BotRun}
    {fetched : Except String ExchangeBalances} {pair : String}
    (clean : PairClean balances r.bot.sharedInventory pair) :
    verifyPair balances r fetched pair = .ok r := by
  by_cases hpair : ∃ base quote, splitPair pair = [base, quote]
  · obtain ⟨base, quote, hsplit⟩ := hpair
    rw [verifyPair_two hsplit, if_neg (not_lt.mpr (clean base quote hsplit))]
  · exact verifyPair_other fun base quote hsplit => hpair ⟨base, quote, hsplit⟩

/-- Nothing is ever taken off the trace. -/
theorem verifyPairs_trace {balances : ExchangeBalances}
    {fetched : ℕ → Except String ExchangeBalances} {pairs : List String} {r s : BotRun} {i : ℕ}
    (h : verifyPairs balances fetched r i pairs = .ok s) :
    r.trace.length ≤ s.trace.length := by
  induction pairs generalizing r i with
  | nil =>
    cases h
    exact le_refl _
  | cons pair pairs ih =>
    obtain ⟨t, ht, h⟩ := Outcome.bind_eq_ok.mp h
    have rest := ih h
    rcases verifyPair_ok ht with ⟨_, rfl⟩ | longer
    · exact rest
    · omega

/-- **The loop over the pairs is silent exactly where every pair is clean.** In one direction a
    mismatch would have left its mark for good. In the other the state never changes, so each pair
    is compared with the inventory that the first one saw. -/
theorem verifyPairs_clean_iff {balances : ExchangeBalances}
    {fetched : ℕ → Except String ExchangeBalances} {pairs : List String} {r : BotRun} {i : ℕ} :
    (∃ s, verifyPairs balances fetched r i pairs = .ok s ∧ s.trace = r.trace ∧
        s.bot.killSwitch = r.bot.killSwitch) ↔
      ∀ pair ∈ pairs, PairClean balances r.bot.sharedInventory pair := by
  induction pairs generalizing i with
  | nil =>
    refine ⟨fun _ pair hpair => ?_, fun _ => ⟨r, rfl, rfl, rfl⟩⟩
    cases hpair
  | cons pair pairs ih =>
    constructor
    · rintro ⟨s, hall, htrace, hkill⟩
      obtain ⟨t, ht, hrest⟩ := Outcome.bind_eq_ok.mp hall
      rcases verifyPair_ok ht with ⟨first, rfl⟩ | longer
      · intro p hp
        rcases List.mem_cons.mp hp with rfl | hp
        · exact first
        · exact ih.mp ⟨s, hrest, htrace, hkill⟩ p hp
      · -- A mismatch makes the trace longer, and nothing shortens it again.
        have rest := verifyPairs_trace hrest
        rw [htrace] at rest
        omega
    · intro clean
      obtain ⟨s, h, hs⟩ := ih.mpr fun p hp => clean p (List.mem_cons_of_mem _ hp)
      refine ⟨s, ?_, hs⟩
      have first := clean pair (List.mem_cons_self ..)
      rw [verifyPairs, verifyPair_clean first, Outcome.ok_bind]
      exact h

/-- The watchdog reports no mismatch, triggers no switch and places no order. -/
def VerifiesClean (r : BotRun) (env : VerifyEnv) : Prop :=
  ∃ s, r.verifyBalances env = .ok s ∧ s.trace = r.trace ∧ s.bot.killSwitch = r.bot.killSwitch

/-- Where the two paths look an asset up under different names, how far apart they may be: ether
    is never tracked as such, and what is tracked as `WETH` is the last of the amounts that
    reach the tracker under this name. -/
def NamesAgree (balances : ExchangeBalances) (pair : String) : Prop :=
  ∀ base quote, splitPair pair = [base, quote] →
    (base = "ETH" → |reportedFree balances "ETH"| ≤ 1 / 1000) ∧
    (base = "WETH" →
      |reportedFree balances "WETH" - (wethAmounts balances).getLast?.getD 0| ≤ 1 / 1000)

theorem threshold_nonneg : (0 : ℚ) ≤ 1 / 1000 := by norm_num

/-- For one pair: what is reported and what is tracked are the same number for every base but the
    two, and for these the distance is what `NamesAgree` bounds. -/
theorem pairClean_iff {balances observed : ExchangeBalances} {inventory : InventoryTracker}
    {pair : String} (same : ∀ asset, observed.lookup asset = balances.lookup asset)
    (synced : ∀ asset, inventory.getBalance .cex asset = tracked balances asset) :
    PairClean observed inventory pair ↔ NamesAgree balances pair := by
  have reported : ∀ asset, reportedFree observed asset = reportedFree balances asset := by
    intro asset
    rw [reportedFree, same, reportedFree]
  refine forall_congr' fun base => forall_congr' fun quote => imp_congr_right fun _ => ?_
  rw [reported, synced, mismatchThreshold]
  -- the cases are the names: ether, wrapped ether, and the rest
  by_cases heth : base = "ETH"
  · rw [heth, tracked_eth, sub_zero]
    simp
  · by_cases hweth : base = "WETH"
    · rw [hweth, tracked_weth]
      simp
    · rw [tracked_other heth hweth, sub_self, abs_zero]
      exact ⟨fun _ => ⟨fun h => absurd h heth, fun h => absurd h hweth⟩, fun _ => threshold_nonneg⟩

/-- On an account without ether the names agree for every pair: `WETH` is then reached by its own
    entry only, and of `ETH` there is nothing on either side. -/
theorem namesAgree_of_no_eth {balances : ExchangeBalances}
    (noEth : ∀ b, balances.lookup "ETH" = some b → b.IsEmpty) (pair : String) :
    NamesAgree balances pair := by
  intro base quote _
  constructor
  · intro _
    have reported : reportedFree balances "ETH" = 0 := by
      rw [reportedFree]
      cases hb : balances.lookup "ETH" with
      | none => rfl
      | some b => exact (noEth b hb).1
    rw [reported, abs_zero]
    exact threshold_nonneg
  · intro _
    rw [← tracked_weth, tracked_of_own_name (by decide), sub_self, abs_zero]
    · exact threshold_nonneg
    · intro e he hnonempty h
      rcases internalAsset_eq_weth.mp h with heth | hweth
      · have hlookup : balances.lookup e.1 = some e.2 := AList.mem_lookup_iff.mpr he
        rw [heth] at hlookup
        exact absurd (noEth e.2 hlookup) hnonempty
      · exact hweth

/-- Directly after a sync the ether in the wallet is what the watchdog reads. -/
theorem verifyDex_synced {r : BotRun} {fetched : Except String ExchangeBalances} {actual : ℚ}
    (h : r.bot.sharedInventory.getBalance .wallet "ETH" = actual) :
    r.verifyDex fetched actual = .ok r := by
  simp only [verifyDex, h, sub_self, abs_zero]
  exact if_neg (not_lt.mpr threshold_nonneg)

/-- **Sync, then verify.** The tracker is loaded from these balances and the watchdog sees the
    same: it is silent exactly where the names agree for every configured pair. -/
theorem sync_then_verify_clean_iff {b b₁ : ArbBot} {r : BotRun}
    {balances observed : ExchangeBalances} {wei : U256} {balanceOf : Address → Option U256}
    {env : VerifyEnv} (cexSync : b.syncBinanceBalances (.ok balances) = .ok b₁)
    (walletSync : b₁.syncWalletBalances (.ok wei) balanceOf = .ok r.bot)
    (sameCex : env.cexBalances = .ok observed)
    (same : ∀ asset, observed.lookup asset = balances.lookup asset)
    (sameEth : env.ethBalance = .ok wei) :
    VerifiesClean r env ↔ ∀ pair ∈ r.bot.pairs, NamesAgree balances pair := by
  have synced : ∀ asset, r.bot.sharedInventory.getBalance .cex asset = tracked balances asset := by
    intro asset
    rw [wallet_keeps_cex walletSync, cex_tracked cexSync]
  have toHuman : (ethAmount wei).toHuman = .ok (ethAmount wei).human :=
    TokenAmount.toHuman_eq_ok (show 18 ≤ maxDecimalScale by decide)
  -- the ether in the wallet agrees, so the verification comes down to the loop over the pairs
  have loop : r.verifyBalances env = verifyPairs observed env.cexFlatten r 0 r.bot.pairs := by
    rw [verifyBalances, sameCex, sameEth]
    simp only
    rw [toHuman, Outcome.ok_bind, verifyDex_synced (wallet_eth walletSync), Outcome.ok_bind]
  rw [VerifiesClean, loop, verifyPairs_clean_iff]
  constructor
  · intro clean pair hpair
    exact (pairClean_iff same synced).mp (clean pair hpair)
  · intro agree pair hpair
    exact (pairClean_iff same synced).mpr (agree pair hpair)

/-! ## Two accounts -/

/-- The sample bot at the head of its loop, its tracker still empty. -/
def sampleEmpty : ArbBot :=
  (start (build sampleConfig 0#160 sampleStart.metrics
    { ewmGasPrice := 1 / 10, alpha := 1 / 10, count := 1, m2 := 0, ethPriceUsd := 3000 })
    0 0 0).bot

/-- The bot after both syncs, the exchange reporting these balances. -/
def sampleSynced (balances : ExchangeBalances) : Outcome ArbBot := do
  let b ← sampleEmpty.syncBinanceBalances (.ok balances)
  b.syncWalletBalances (.ok sampleWei) sampleBalanceOf

/-- The watchdog sees these balances. -/
def sampleVerify (balances : ExchangeBalances) : VerifyEnv where
  cexBalances := .ok balances
  ethBalance := .ok sampleWei
  dexFlatten := .ok balances
  cexFlatten := fun _ => .ok balances

/-- A health check directly after the syncs, with nothing on the trace. -/
def atHealthCheck (b : ArbBot) : BotRun where
  bot := b
  lastReset := 0
  lastHealthCheck := 0
  lastKillSwitchCheck := 0
  trace := []

/-- The two syncs one after the other. -/
theorem sampleSynced_inv {balances : ExchangeBalances} {b : ArbBot}
    (h : (sampleSynced balances).toOption = some b) :
    ∃ b₁, sampleEmpty.syncBinanceBalances (.ok balances) = .ok b₁ ∧
      b₁.syncWalletBalances (.ok sampleWei) sampleBalanceOf = .ok b :=
  Outcome.bind_eq_ok.mp (Outcome.toOption_eq_some.mp h)

/-- Five million `PEPE` and a hundred dollars. -/
def samplePepeBalances : ExchangeBalances :=
  [⟨"PEPE", ExchangeBalance.ofRaw "PEPE" 500000000000000#256 0#256⟩,
    ⟨"USDT", ExchangeBalance.ofRaw "USDT" 10000000000#256 0#256⟩].toAList

/-- An account with a traded token and no ether: the exchange reports the token under the name it
    is tracked under, so both sides of the comparison have the five million. -/
theorem sample_pepe_account_clean :
    ∃ b, (sampleSynced samplePepeBalances).toOption = some b ∧
      b.sharedInventory.getBalance .cex "PEPE" = 5000000 ∧
      reportedFree samplePepeBalances "PEPE" = 5000000 ∧
      VerifiesClean (atHealthCheck b) (sampleVerify samplePepeBalances) := by
  have held : (sampleSynced samplePepeBalances).toOption.map
      (fun b => b.sharedInventory.getBalance .cex "PEPE") = some 5000000 := by
    decide +kernel
  obtain ⟨b, hb, tracked_pepe⟩ := Option.map_eq_some_iff.mp held
  obtain ⟨b₁, cexSync, walletSync⟩ := sampleSynced_inv hb
  refine ⟨b, hb, tracked_pepe, by decide +kernel, ?_⟩
  apply (sync_then_verify_clean_iff (r := atHealthCheck b) cexSync walletSync rfl (fun _ => rfl)
    rfl).mpr
  intro pair _
  apply namesAgree_of_no_eth
  intro eth heth
  cases heth

/-- A hundred dollars and a hundredth of an ether. -/
def sampleEtherBalances : ExchangeBalances :=
  [⟨"ETH", ExchangeBalance.ofRaw "ETH" 1000000#256 0#256⟩,
    ⟨"USDT", ExchangeBalance.ofRaw "USDT" 10000000000#256 0#256⟩].toAList

/-- **A healthy account that is taken for a mismatch**: the tracker holds 0.01 `WETH`, the
    exchange reports no `WETH`, and the watchdog triggers the switch and stops the bot. -/
theorem sample_ether_account_not_clean :
    ∃ b s, (sampleSynced sampleEtherBalances).toOption = some b ∧
      (atHealthCheck b).verifyBalances (sampleVerify sampleEtherBalances) = .ok s ∧
      s.trace = [.cexMismatch "WETH" 0 (1 / 100)] ∧
      s.bot.killSwitch = { triggered := true, reason := some .cexIntegrity } ∧
      s.bot.tradingActive = false ∧
      ¬VerifiesClean (atHealthCheck b) (sampleVerify sampleEtherBalances) := by
  have seen : (((sampleSynced sampleEtherBalances).toOption.bind fun b =>
      ((atHealthCheck b).verifyBalances (sampleVerify sampleEtherBalances)).toOption).map fun s =>
        (s.trace, s.bot.killSwitch, s.bot.tradingActive)) =
      some ([.cexMismatch "WETH" 0 (1 / 100)],
        { triggered := true, reason := some .cexIntegrity }, false) := by
    decide +kernel
  obtain ⟨s, hs, observed⟩ := Option.map_eq_some_iff.mp seen
  obtain ⟨b, hb, hs⟩ := Option.bind_eq_some_iff.mp hs
  have verified := Outcome.toOption_eq_some.mp hs
  simp only [Prod.mk.injEq] at observed
  obtain ⟨htrace, hkill, hpaused⟩ := observed
  refine ⟨b, s, hb, verified, htrace, hkill, hpaused, ?_⟩
  rintro ⟨s', clean, silent, _⟩
  rw [verified] at clean
  cases clean
  rw [htrace] at silent
  cases silent

end BotRun

end ArbEngine
