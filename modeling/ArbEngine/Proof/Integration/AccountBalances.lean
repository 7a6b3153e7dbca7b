import ArbEngine.Integration.FetchedBalances
import ArbEngine.Proof.Core.AmountTexts
import ArbEngine.Proof.Exchange.OrderFields
import ArbEngine.Proof.Integration.BalanceSync

/-!
# From an exchange's answer to the tracker

`fetch_balance` succeeds exactly where every entry of the answer says two amounts of at most eight
decimals (`fetchBalance_isOk_iff`). What the map holds for an asset is then its last entry that
holds anything (`lookup_fetched`), and this is what the tracker holds after the sync, as long as no
other asset of the account has the same name there.

The steps in between are a list of texts, a map and a second map under other names. An entry that
comes later replaces one that came before, unless it is empty, and two assets of the account that
have one name in the tracker replace each other in an order that nobody chose.
-/

namespace ArbEngine

open Overwrite

namespace ExchangeClient

/-- What an entry says, in units of `10⁻⁸`. -/
structure Holding where
  symbol : String
  free : ℕ
  locked : ℕ
deriving DecidableEq

/-- An amount of the exchange: eight decimals, whatever the asset has on the chain. -/
def units (symbol : String) (n : ℕ) : TokenAmount where
  raw := BitVec.ofNat 256 n
  decimals := 8
  symbol := some symbol

namespace Holding

/-- The entry holds nothing, and is left out of the map. -/
def IsEmpty (h : Holding) : Prop := h.free + h.locked = 0

instance (h : Holding) : Decidable h.IsEmpty := inferInstanceAs (Decidable (_ = _))

/-- What is inserted for it. -/
def balance (h : Holding) : Balance where
  free := units h.symbol h.free
  locked := units h.symbol h.locked
  total := units h.symbol (h.free + h.locked)

/-- The entry of the tracker, under its name there. -/
def record (h : Holding) (asset : String) : ArbEngine.Balance where
  venue := .cex
  asset := asset
  free := h.free / 10 ^ 8
  locked := h.locked / 10 ^ 8

end Holding

/-- The last entry of an asset that holds anything. -/
def holding (holdings : List Holding) (asset : String) : Option Holding :=
  (holdings.filter fun h => ¬h.IsEmpty ∧ h.symbol = asset).getLast?

/-! ## Reading the texts -/

section

variable (fromStr : String → Option ℚ)

/-- The text is read as this number of units. What does not fall on a unit is refused, and so is
    what does not fit a `Decimal`. -/
def ReadsUnits (text : String) (n : ℕ) : Prop := n < 2 ^ 96 ∧ fromStr text = some ((n : ℚ) / 10 ^ 8)

/-- All three texts of an entry. The name is taken as it is. -/
structure ReadsAs (texts : BalanceTexts) (h : Holding) : Prop where
  symbol : h.symbol = texts.symbol
  free : ReadsUnits fromStr texts.free h.free
  locked : ReadsUnits fromStr texts.locked h.locked

end

variable {fromStr : String → Option ℚ}

/-- A text that says a number of units is that number. -/
theorem fromHuman_of_readsUnits {text symbol : String} {n : ℕ} (h : ReadsUnits fromStr text n) :
    TokenAmount.fromHuman fromStr text 8 (some symbol) = .ok (units symbol n) := by
  obtain ⟨small, read⟩ := h
  have scaled : (n / 10 ^ 8 : ℚ) * 10 ^ 8 = n := by field_simp
  rw [TokenAmount.fromHuman, read, Outcome.okOr_some, Outcome.ok_bind,
    TokenAmount.fromDecimal_eq_ok_iff (by decide)]
  refine ⟨?_, by positivity, ?_, ?_⟩
  · rw [abs_of_nonneg (by positivity), scaled]
    exact_mod_cast small
  · rw [scaled, Rat.den_natCast]
  · rw [scaled, Rat.num_natCast, Int.toNat_natCast]
    rfl

/-- And no other text is read. -/
theorem readsUnits_of_fromHuman {text : String} {symbol : Option String} {t : TokenAmount}
    (h : TokenAmount.fromHuman fromStr text 8 symbol = .ok t) :
    ReadsUnits fromStr text t.raw.toNat := by
  obtain ⟨r, read, h⟩ := Outcome.bind_eq_ok.mp h
  obtain ⟨decimals, small, -⟩ := TokenAmount.human_of_fromDecimal (by decide) h
  have raw := TokenAmount.fromDecimal_raw (by decide) h
  refine ⟨small, ?_⟩
  rw [Outcome.okOr_eq_ok.mp read, raw]
  field_simp

/-- An entry whose texts say something is inserted with it. -/
theorem readBalance_of_readsAs {texts : BalanceTexts} {h : Holding}
    (read : ReadsAs fromStr texts h) :
    readBalance fromStr texts = .ok h.balance := by
  obtain ⟨symbol, free, locked⟩ := read
  rw [readBalance, fromHuman_of_readsUnits free, Outcome.ok_bind, fromHuman_of_readsUnits locked,
    Outcome.ok_bind]
  -- Both are far below a word, so the sum does not wrap.
  have sum : (units texts.symbol h.free).add (units texts.symbol h.locked) =
      .ok (units texts.symbol (h.free + h.locked)) := by
    simp [TokenAmount.add, units, BitVec.ofNat_add]
  rw [sum, Outcome.ok_bind, Holding.balance, symbol]
  rfl

/-- An entry that was read says something. -/
theorem readsAs_of_readBalance {texts : BalanceTexts} {b : Balance}
    (h : readBalance fromStr texts = .ok b) : ∃ h, ReadsAs fromStr texts h := by
  obtain ⟨free, hfree, h⟩ := Outcome.bind_eq_ok.mp h
  obtain ⟨locked, hlocked, -⟩ := Outcome.bind_eq_ok.mp h
  exact ⟨⟨texts.symbol, free.raw.toNat, locked.raw.toNat⟩, rfl, readsUnits_of_fromHuman hfree,
    readsUnits_of_fromHuman hlocked⟩

/-- The sum of two amounts of 96 bits has room in a word. -/
theorem toNat_units {symbol : String} {n : ℕ} (small : n < 2 ^ 97) :
    (units symbol n).raw.toNat = n := by
  rw [units, BitVec.toNat_ofNat]
  exact Nat.mod_eq_of_lt (small.trans (by norm_num))

/-- The test of the source, on the total, is the test for an empty entry. -/
theorem total_pos_iff {texts : BalanceTexts} {h : Holding} (read : ReadsAs fromStr texts h) :
    0 < h.balance.total.raw ↔ ¬h.IsEmpty := by
  have hfree := read.free.1
  have hlocked := read.locked.1
  have total : h.balance.total.raw.toNat = h.free + h.locked := toNat_units (by omega)
  rw [BitVec.lt_def, total, Holding.IsEmpty]
  exact Nat.pos_iff_ne_zero

/-! ## The loop -/

/-- What is inserted, in the order of the answer. -/
def inserted (holdings : List Holding) : List (String × Balance) :=
  (holdings.filter fun h => ¬h.IsEmpty).map fun h => (h.symbol, h.balance)

/-- One entry: inserted or left out. -/
theorem inserted_cons (h : Holding) (holdings : List Holding) :
    inserted (h :: holdings) =
      if h.IsEmpty then inserted holdings else (h.symbol, h.balance) :: inserted holdings := by
  by_cases hempty : h.IsEmpty
  · simp [inserted, hempty]
  · simp [inserted, hempty]

/-- **The loop answers where every entry says something**, and inserts what they say. -/
theorem readBalances_of_readsAs {texts : List BalanceTexts} {holdings : List Holding}
    (read : List.Forall₂ (ReadsAs fromStr) texts holdings) (m : AList fun _ : String => Balance) :
    ∃ s, readBalances fromStr m texts = .ok s ∧
      ∀ asset, s.lookup asset = insertAll (fun a => m.lookup a) (inserted holdings) asset := by
  induction read generalizing m with
  | nil => exact ⟨m, rfl, fun _ => rfl⟩
  | @cons t h _ _ first _ ih =>
    by_cases hempty : h.IsEmpty
    · obtain ⟨s, hs, found⟩ := ih m
      refine ⟨s, ?_, fun asset => ?_⟩
      · rw [readBalances, readBalance_of_readsAs first, Outcome.ok_bind,
          if_neg (mt (total_pos_iff first).mp (not_not.mpr hempty))]
        exact hs
      · rw [found, inserted_cons, if_pos hempty]
    · obtain ⟨s, hs, found⟩ := ih (m.insert t.symbol h.balance)
      refine ⟨s, ?_, fun asset => ?_⟩
      · rw [readBalances, readBalance_of_readsAs first, Outcome.ok_bind,
          if_pos ((total_pos_iff first).mpr hempty)]
        exact hs
      · rw [found, inserted_cons, if_neg hempty, insertAll_cons]
        congr 1
        funext a
        rw [first.symbol]
        by_cases same : a = t.symbol
        · rw [if_pos same, same, AList.lookup_insert]
        · rw [if_neg same, AList.lookup_insert_ne same]

/-- Where the loop answers, every entry says something: the first that does not ends it. -/
theorem readsAs_of_readBalances {texts : List BalanceTexts} {m s : AList fun _ : String => Balance}
    (h : readBalances fromStr m texts = .ok s) :
    ∃ holdings, List.Forall₂ (ReadsAs fromStr) texts holdings := by
  induction texts generalizing m with
  | nil => exact ⟨[], .nil⟩
  | cons t ts ih =>
    obtain ⟨b, hb, h⟩ := Outcome.bind_eq_ok.mp h
    obtain ⟨first, hfirst⟩ := readsAs_of_readBalance hb
    obtain ⟨rest, hrest⟩ := ih h
    exact ⟨first :: rest, .cons hfirst hrest⟩

/-- What is in the map is the last entry of its name that holds anything. -/
theorem insertAll_inserted (holdings : List Holding) (asset : String) :
    insertAll (fun _ => none) (inserted holdings) asset =
      (holding holdings asset).map Holding.balance := by
  rw [insertAll_apply, Option.or_none, inserted, List.filter_map, List.getLast?_map,
    List.filter_filter, Option.map_map, holding]
  simp only [Function.comp_def, Bool.and_comm, Bool.decide_and]

/-- The texts of the entries of an answer. -/
def texts (client : ExchangeClient) (data : Json) : List BalanceTexts :=
  (balanceItems client.exchangeType data).map (balanceTexts client.exchangeType)

/-- **A call answers exactly where every entry can be read.** One text that cannot, of whatever
    asset, fails the call for all of them. -/
theorem fetchBalance_isOk_iff (client : ExchangeClient) (data : Json) :
    (∃ s, client.fetchBalance fromStr data = .ok s) ↔
      ∃ holdings, List.Forall₂ (ReadsAs fromStr) (client.texts data) holdings := by
  constructor
  · rintro ⟨s, h⟩
    exact readsAs_of_readBalances h
  · rintro ⟨holdings, read⟩
    obtain ⟨s, h, -⟩ := readBalances_of_readsAs read ∅
    exact ⟨s, h⟩

/-- What a call answers with, asset by asset. -/
theorem lookup_fetched {client : ExchangeClient} {data : Json}
    {s : AList fun _ : String => Balance} {holdings : List Holding}
    (read : List.Forall₂ (ReadsAs fromStr) (client.texts data) holdings)
    (h : client.fetchBalance fromStr data = .ok s) (asset : String) :
    s.lookup asset = (holding holdings asset).map Holding.balance := by
  obtain ⟨s', h', found⟩ := readBalances_of_readsAs read ∅
  have same : s = s' := Outcome.ok.inj (h.symm.trans h')
  rw [same, found, ← insertAll_inserted]
  rfl

/-! ## The tracker -/

open ArbBot (internalAsset mappedBalances)
open TokenAmount (readDecimal)

/-- The map as the sync goes through it, in any order. -/
def IterationOf (balances : ExchangeBalances) (s : AList fun _ : String => Balance) : Prop :=
  ∀ asset, balances.lookup asset =
    (s.lookup asset).map fun b => ExchangeBalance.ofRaw asset b.free.raw b.locked.raw

/-- No other asset that is held has the name of this one in the tracker. -/
def OwnName (holdings : List Holding) (asset : String) : Prop :=
  ∀ h ∈ holdings, ¬h.IsEmpty → internalAsset h.symbol = internalAsset asset → h.symbol = asset

/-- The last entry of an asset is one of them. -/
theorem of_holding {holdings : List Holding} {asset : String} {h : Holding}
    (last : holding holdings asset = some h) : h ∈ holdings ∧ ¬h.IsEmpty ∧ h.symbol = asset := by
  obtain ⟨hmem, hprop⟩ := List.mem_filter.mp (List.mem_of_getLast? last)
  exact ⟨hmem, of_decide_eq_true hprop⟩

/-- Amounts that were read are below `2 ^ 96`. -/
theorem small_of_readsAs {texts : List BalanceTexts} {holdings : List Holding}
    (read : List.Forall₂ (ReadsAs fromStr) texts holdings) :
    ∀ h ∈ holdings, h.free < 2 ^ 96 ∧ h.locked < 2 ^ 96 := by
  induction read with
  | nil =>
    intro h hmem
    cases hmem
  | cons first _ ih =>
    intro h hmem
    rcases List.mem_cons.mp hmem with rfl | hmem
    · exact ⟨first.free.1, first.locked.1⟩
    · exact ih h hmem

/-- So the sync reads them back as what they are. -/
theorem human_ofRaw {symbol : String} {n : ℕ} (small : n < 2 ^ 96) :
    (units symbol n).human = n / 10 ^ 8 := by
  have raw : (units symbol n).raw.toNat = n := toNat_units (by omega)
  rw [TokenAmount.human, TokenAmount.parseDecimal_eq_some (by rw [raw]; exact small),
    Option.getD_some, raw]
  rfl

/-- What the sync inserts is what is held. -/
theorem mem_loaded_iff {balances : ExchangeBalances} {s : AList fun _ : String => Balance}
    {holdings : List Holding} (order : IterationOf balances s)
    (small : ∀ h ∈ holdings, h.free < 2 ^ 96 ∧ h.locked < 2 ^ 96)
    (found : ∀ asset, s.lookup asset = (holding holdings asset).map Holding.balance)
    {name : String} {amounts : ℚ × ℚ} :
    (name, amounts) ∈ loaded balances ↔
      ∃ h, holding holdings h.symbol = some h ∧ internalAsset h.symbol = name ∧
        ((h.free : ℚ) / 10 ^ 8, (h.locked : ℚ) / 10 ^ 8) = amounts := by
  have lookup : ∀ asset, balances.lookup asset = (holding holdings asset).map fun h =>
      ExchangeBalance.ofRaw asset h.balance.free.raw h.balance.locked.raw := by
    intro asset
    rw [order, found, Option.map_map]
    rfl
  have human : ∀ h ∈ holdings,
      (ExchangeBalance.ofRaw h.symbol h.balance.free.raw h.balance.locked.raw).free.human =
          h.free / 10 ^ 8 ∧
        (ExchangeBalance.ofRaw h.symbol h.balance.free.raw h.balance.locked.raw).locked.human =
          h.locked / 10 ^ 8 := by
    intro h hmem
    exact ⟨human_ofRaw (small h hmem).1, human_ofRaw (small h hmem).2⟩
  rw [mem_loaded]
  constructor
  · -- an entry of the map is the last one of its asset that holds anything
    rintro ⟨⟨asset, b⟩, he, -, hname, hamounts⟩
    have hb := AList.mem_lookup_iff.mpr he
    rw [lookup, Option.mem_def, Option.map_eq_some_iff] at hb
    obtain ⟨h, last, rfl⟩ := hb
    obtain ⟨hmem, -, rfl⟩ := of_holding last
    rw [(human h hmem).1, (human h hmem).2] at hamounts
    exact ⟨h, last, hname, hamounts⟩
  · rintro ⟨h, last, hname, hamounts⟩
    obtain ⟨hmem, hne, -⟩ := of_holding last
    refine ⟨⟨h.symbol, ExchangeBalance.ofRaw h.symbol h.balance.free.raw h.balance.locked.raw⟩,
      ?_, ?_, hname, ?_⟩
    · rw [← AList.mem_lookup_iff, lookup, last]
      rfl
    · -- the sync leaves out entries of nothing, and this one holds something
      rintro ⟨hfree, hlocked⟩
      rw [(human h hmem).1] at hfree
      rw [(human h hmem).2] at hlocked
      have free : (h.free : ℚ) = 0 := by simpa using hfree
      have locked : (h.locked : ℚ) = 0 := by simpa using hlocked
      apply hne
      rw [Holding.IsEmpty, Nat.cast_eq_zero.mp free, Nat.cast_eq_zero.mp locked]
    · rw [(human h hmem).1, (human h hmem).2]
      exact hamounts

/-- An asset without a namesake is mapped to what is held of it. With one it would be the one that
    the map hands over last. -/
theorem mappedBalances_fetched {balances : ExchangeBalances}
    {s : AList fun _ : String => Balance} {holdings : List Holding}
    (order : IterationOf balances s)
    (small : ∀ h ∈ holdings, h.free < 2 ^ 96 ∧ h.locked < 2 ^ 96)
    (found : ∀ asset, s.lookup asset = (holding holdings asset).map Holding.balance)
    {asset : String} (own : OwnName holdings asset) :
    mappedBalances balances (internalAsset asset) =
      (holding holdings asset).map fun h => ((h.free : ℚ) / 10 ^ 8, (h.locked : ℚ) / 10 ^ 8) := by
  -- no other asset that is held is called so in the tracker, hence the order of the map does not
  -- matter
  have only : ∀ h, holding holdings h.symbol = some h →
      internalAsset h.symbol = internalAsset asset → h.symbol = asset := by
    intro h last same
    obtain ⟨hmem, hne, -⟩ := of_holding last
    exact own h hmem hne same
  rw [mappedBalances_eq]
  cases last : holding holdings asset with
  | none =>
    rw [insertAll_of_notMem]
    · rfl
    · rintro ⟨name, amounts⟩ hmem hname
      obtain ⟨h, hlast, hsymbol, -⟩ := (mem_loaded_iff order small found).mp hmem
      have symbol := only h hlast (hsymbol.trans hname)
      rw [symbol, last] at hlast
      cases hlast
  | some h =>
    have symbol := (of_holding last).2.2
    apply insertAll_of_agree
    · rintro ⟨name, amounts⟩ hmem hname
      obtain ⟨g, glast, gsymbol, rfl⟩ := (mem_loaded_iff order small found).mp hmem
      rw [only g glast (gsymbol.trans hname), last] at glast
      cases glast
      rfl
    · refine (mem_loaded_iff order small found).mpr ⟨h, ?_, congrArg _ symbol, rfl⟩
      rw [symbol]
      exact last

/-- **The tracker holds what the exchange says.** The call answers exactly where every entry of
    the answer can be read, and then, in whatever order the sync goes through the map, an asset is
    tracked with its last entry that holds anything, and not at all if there is none, provided
    that no other asset that is held has its name in the tracker. -/
theorem fetched_balances_are_tracked (client : ExchangeClient) (fromStr : String → Option ℚ)
    (data : Json) :
    ((∃ s, client.fetchBalance fromStr data = .ok s) ↔
        ∃ holdings, List.Forall₂ (ReadsAs fromStr) (client.texts data) holdings) ∧
      ∀ s holdings, client.fetchBalance fromStr data = .ok s →
        List.Forall₂ (ReadsAs fromStr) (client.texts data) holdings →
        ∀ balances, IterationOf balances s →
        ∀ b b' : ArbBot, b.syncBinanceBalances (.ok balances) = .ok b' →
        ∀ asset, OwnName holdings asset →
          b'.sharedInventory.balances .cex (internalAsset asset) =
            (holding holdings asset).map fun h => h.record (internalAsset asset) := by
  refine ⟨fetchBalance_isOk_iff client data, ?_⟩
  intro s holdings fetched read balances order b b' synced asset own
  cases synced
  have mapped := mappedBalances_fetched order (small_of_readsAs read) (lookup_fetched read fetched)
    own
  simp only [ArbBot.sharedInventory, ArbBot.withInventory, InventoryTracker.updateFromCex,
    InventoryTracker.withVenue, if_true, mapped, Option.map_map]
  rfl

/-! ## An account with ether -/

/-- An entry of a Binance account. -/
def sampleEntry (asset free locked : String) : Json :=
  jsonObj [("asset", jsonStr asset), ("free", jsonStr free), ("locked", jsonStr locked)]

/-- Half an ether, and a second entry of ether that holds nothing. -/
def sampleAccount : Json :=
  jsonObj [("balances", .arr [sampleEntry "ETH" "0.5" "0", sampleEntry "ETH" "0.00" "0"])]

def sampleBinance : ExchangeClient where
  exchangeType := .binance
  baseUrl := "https://api.binance.com"
  caseTable := asciiCases

def sampleEther : Holding := ⟨"ETH", 50000000, 0⟩

/-- The empty entry does not replace the other, and the ether is tracked as `WETH`. -/
theorem sample_account_is_tracked :
    ∃ b, BotRun.sampleEmpty.syncBinanceBalances
          (.ok [⟨"ETH", ExchangeBalance.ofRaw "ETH" 50000000#256 0#256⟩].toAList) = .ok b ∧
      b.sharedInventory.balances .cex "WETH" =
        some { venue := .cex, asset := "WETH", free := 1 / 2, locked := 0 } := by
  refine ⟨_, rfl, ?_⟩
  have half : ReadsUnits readDecimal "0.5" 50000000 := ⟨by decide, by decide +kernel⟩
  have zero : ReadsUnits readDecimal "0" 0 := ⟨by decide, by decide +kernel⟩
  have nothing : ReadsUnits readDecimal "0.00" 0 := ⟨by decide, by decide +kernel⟩
  have first : ReadsAs readDecimal ⟨"ETH", "0.5", "0"⟩ sampleEther := ⟨rfl, half, zero⟩
  have second : ReadsAs readDecimal ⟨"ETH", "0.00", "0"⟩ ⟨"ETH", 0, 0⟩ := ⟨rfl, nothing, zero⟩
  have read : List.Forall₂ (ReadsAs readDecimal) (sampleBinance.texts sampleAccount)
      [sampleEther, ⟨"ETH", 0, 0⟩] := .cons first (.cons second .nil)
  have fetched : sampleBinance.fetchBalance readDecimal sampleAccount =
      .ok (AList.insert "ETH" sampleEther.balance ∅) := by
    show readBalances readDecimal ∅ [⟨"ETH", "0.5", "0"⟩, ⟨"ETH", "0.00", "0"⟩] = _
    rw [readBalances, readBalance_of_readsAs first, Outcome.ok_bind,
      if_pos ((total_pos_iff first).mpr (by decide)), readBalances, readBalance_of_readsAs second,
      Outcome.ok_bind, if_neg (mt (total_pos_iff second).mp (by decide))]
    rfl
  have order : IterationOf [⟨"ETH", ExchangeBalance.ofRaw "ETH" 50000000#256 0#256⟩].toAList
      (AList.insert "ETH" sampleEther.balance ∅) := by
    intro asset
    by_cases h : asset = "ETH"
    · rw [h]
      rfl
    · rw [AList.lookup_insert_ne h, AList.lookup_empty]
      exact (AList.lookup_insert_ne h).trans (AList.lookup_empty asset)
  have own : OwnName [sampleEther, ⟨"ETH", 0, 0⟩] "ETH" := by
    intro h hmem _ _
    rcases List.mem_cons.mp hmem with rfl | hmem
    · rfl
    · rw [List.mem_singleton.mp hmem]
  have tracked := (fetched_balances_are_tracked sampleBinance readDecimal sampleAccount).2 _ _
    fetched read _ order BotRun.sampleEmpty _ rfl "ETH" own
  have last : holding [sampleEther, ⟨"ETH", 0, 0⟩] "ETH" = some sampleEther := by decide
  rw [last, Option.map_some, Holding.record] at tracked
  refine tracked.trans ?_
  norm_num [sampleEther]
  decide

end ExchangeClient

end ArbEngine
