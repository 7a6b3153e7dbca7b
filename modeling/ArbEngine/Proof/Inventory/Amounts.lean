import Mathlib.Data.Set.Insert
import Mathlib.Tactic.FieldSimp
import Mathlib.Tactic.Positivity
import ArbEngine.Lib.Overwrite
import ArbEngine.Proof.Integration.BalanceSync

/-!
# What an on-chain amount is read as

`to_human` prints the raw amount and parses the digits again as a `Decimal`. The mantissa of a
`Decimal` has 96 bits, and an amount beyond them is read as zero (`human_of_large`); below them
the reading is exact (`human_mul_pow`), so it keeps the order of amounts of one token.

`ReadsExactly` collects what the rest of the system takes from the reading for a set of amounts:
each is exact, their order is kept, and the tracker holds of each token what the wallet holds.
`readsExactly_iff` says for which sets that is so.
-/

namespace ArbEngine

open Overwrite

namespace TokenAmount

/-! ## One amount -/

theorem parseDecimal_eq_some {raw : U256} (fits : raw.toNat < 2 ^ 96) :
    parseDecimal raw = some (raw.toNat : ℚ) := by
  rw [parseDecimal, if_pos fits]

theorem parseDecimal_eq_none {raw : U256} (large : ¬raw.toNat < 2 ^ 96) :
    parseDecimal raw = none := by
  rw [parseDecimal, if_neg large]

theorem human_mul_pow {t : TokenAmount} (fits : t.raw.toNat < 2 ^ 96) :
    t.human * 10 ^ t.decimals = t.raw.toNat := by
  rw [human, parseDecimal_eq_some fits, Option.getD_some]
  field_simp

/-- Beyond the mantissa the reading is zero. -/
theorem human_of_large {t : TokenAmount} (large : ¬t.raw.toNat < 2 ^ 96) : t.human = 0 := by
  rw [human, parseDecimal_eq_none large, Option.getD_none, zero_div]

/-- The reading loses nothing: scaled back up it is the raw amount. -/
def ReadExactly (t : TokenAmount) : Prop :=
  ∃ h, t.toHuman = .ok h ∧ h * 10 ^ t.decimals = t.raw.toNat

theorem readExactly_iff {t : TokenAmount} (scale : t.decimals ≤ 18) :
    t.ReadExactly ↔ t.raw.toNat < 2 ^ 96 := by
  have readable : t.toHuman = .ok t.human := toHuman_eq_ok (le_trans scale (by decide))
  constructor
  · rintro ⟨h, hread, hexact⟩
    rw [readable] at hread
    cases hread
    by_contra large
    rw [human_of_large large, zero_mul] at hexact
    have zero : t.raw.toNat = 0 := by exact_mod_cast hexact.symm
    omega
  · intro fits
    exact ⟨t.human, readable, human_mul_pow fits⟩

/-- Two exact readings at one scale are ordered as the raw amounts are. -/
theorem human_le_iff {a b : TokenAmount} (ha : a.raw.toNat < 2 ^ 96) (hb : b.raw.toNat < 2 ^ 96)
    (same : a.decimals = b.decimals) : a.human ≤ b.human ↔ a.raw ≤ b.raw := by
  have pos : (0 : ℚ) < 10 ^ b.decimals := by positivity
  rw [← mul_le_mul_iff_left₀ pos, human_mul_pow hb, ← same, human_mul_pow ha, Nat.cast_le]
  exact BitVec.le_def.symm

end TokenAmount

/-! ## What the tracker keeps -/

namespace InventoryTracker

/-- The entries of one asset are its amounts. -/
theorem filter_walletEntries (amounts : List TokenAmount) (asset : String) :
    (walletEntries amounts).filter (fun e => e.1 = asset) =
      (amounts.filter fun a => a.symbol = some asset).map fun a =>
        (asset, { venue := .wallet, asset := asset, free := a.human, locked := 0 }) := by
  induction amounts with
  | nil => rfl
  | cons a amounts ih =>
    cases hs : a.symbol with
    | none =>
      rw [List.filter_cons_of_neg (by simp [hs]), ← ih, walletEntries, walletEntries,
        List.filterMap_cons_none (by rw [hs]; rfl)]
    | some symbol =>
      rw [walletEntries, List.filterMap_cons_some (by rw [hs]; rfl), ← walletEntries]
      by_cases heq : symbol = asset
      · subst heq
        rw [List.filter_cons_of_pos (by simp), ih, List.filter_cons_of_pos (by simp [hs]),
          List.map_cons]
      · rw [List.filter_cons_of_neg (by simpa using heq), ih,
          List.filter_cons_of_neg (by simpa [hs] using heq)]

theorem updateFromWallet_eq_ok {t : InventoryTracker} {amounts : List TokenAmount}
    (readable : ∀ a ∈ amounts, a.decimals ≤ maxDecimalScale) :
    t.updateFromWallet amounts =
      .ok (t.withVenue .wallet (insertAll (fun _ => none) (walletEntries amounts))) := by
  rw [updateFromWallet, walletMap_eq readable, Outcome.ok_bind, Outcome.pure_eq_ok]

/-- The wallet map holds the reading of the last amount of each asset. -/
theorem getBalance_updateFromWallet {t : InventoryTracker} {amounts : List TokenAmount}
    {asset : String} {a : TokenAmount}
    (last : (amounts.filter fun b => b.symbol = some asset).getLast? = some a) :
    (t.withVenue .wallet (insertAll (fun _ => none) (walletEntries amounts))).getBalance
      .wallet asset = a.human := by
  simp only [getBalance, withVenue, if_true]
  rw [insertAll_apply, filter_walletEntries, List.getLast?_map, last]
  rfl

end InventoryTracker

/-! ## A set of amounts -/

/-- What the system takes from the readings of these amounts. -/
structure ReadsExactly (S : Set TokenAmount) : Prop where
  exact : ∀ a ∈ S, a.ReadExactly
  injective : ∀ a ∈ S, ∀ b ∈ S, a.decimals = b.decimals → a.toHuman = b.toHuman → a.raw = b.raw
  monotone : ∀ a ∈ S, ∀ b ∈ S, a.decimals = b.decimals → a.raw ≤ b.raw →
    ∃ x y, a.toHuman = .ok x ∧ b.toHuman = .ok y ∧ x ≤ y
  tracked : ∀ (t : InventoryTracker) (amounts : List TokenAmount), (∀ a ∈ amounts, a ∈ S) →
    ∃ t', t.updateFromWallet amounts = .ok t' ∧
      ∀ asset a, (amounts.filter fun b => b.symbol = some asset).getLast? = some a →
        t'.getBalance .wallet asset * 10 ^ a.decimals = a.raw.toNat

/-- **The readings of a set of amounts are exact where every amount fits the mantissa.** -/
theorem readsExactly_iff {S : Set TokenAmount} (scales : ∀ a ∈ S, a.decimals ≤ 18) :
    ReadsExactly S ↔ ∀ a ∈ S, a.raw.toNat < 2 ^ 96 := by
  have readable : ∀ a ∈ S, a.toHuman = .ok a.human :=
    fun a ha => TokenAmount.toHuman_eq_ok (le_trans (scales a ha) (by decide))
  constructor
  · intro reads a ha
    exact (TokenAmount.readExactly_iff (scales a ha)).mp (reads.exact a ha)
  · intro fits
    refine ⟨?exact, ?injective, ?monotone, ?tracked⟩
    case exact =>
      intro a ha
      exact (TokenAmount.readExactly_iff (scales a ha)).mpr (fits a ha)
    case injective =>
      intro a ha b hb same heq
      rw [readable a ha, readable b hb, Outcome.ok.injEq] at heq
      apply BitVec.le_antisymm
      · exact (TokenAmount.human_le_iff (fits a ha) (fits b hb) same).mp heq.le
      · exact (TokenAmount.human_le_iff (fits b hb) (fits a ha) same.symm).mp heq.ge
    case monotone =>
      intro a ha b hb same hle
      exact ⟨a.human, b.human, readable a ha, readable b hb,
        (TokenAmount.human_le_iff (fits a ha) (fits b hb) same).mpr hle⟩
    case tracked =>
      intro t amounts hS
      refine ⟨_, InventoryTracker.updateFromWallet_eq_ok fun a ha =>
        le_trans (scales a (hS a ha)) (by decide), ?_⟩
      intro asset a last
      have ha : a ∈ amounts := List.mem_of_mem_filter (List.mem_of_getLast? last)
      rw [InventoryTracker.getBalance_updateFromWallet last]
      exact TokenAmount.human_mul_pow (fits a (hS a ha))

def sampleStable : TokenAmount := { raw := 1500000, decimals := 6, symbol := some "USDC" }

def sampleQuarter : TokenAmount := { raw := 250000, decimals := 6, symbol := some "USDC" }

/-- One and a half and a quarter of the same token: both are read exactly, the readings stay
    apart and in order, and so does what the tracker makes of them. -/
theorem sample_reads_stable : ReadsExactly {sampleStable, sampleQuarter} := by
  apply (readsExactly_iff ?_).mpr
  · rintro a (rfl | rfl) <;> decide
  · rintro a (rfl | rfl) <;> decide

/-- A hundred billion units of a token of 18 decimals. -/
def sampleWhale : TokenAmount :=
  { raw := BitVec.ofNat 256 (10 ^ 29), decimals := 18, symbol := some "PEPE" }

theorem sample_whale_read_as_zero : sampleWhale.toHuman = .ok 0 ∧ ¬ReadsExactly {sampleWhale} := by
  have large : ¬sampleWhale.raw.toNat < 2 ^ 96 := by decide
  have zero : sampleWhale.toHuman = .ok 0 := by
    rw [TokenAmount.toHuman_eq_ok (by decide), TokenAmount.human_of_large large]
  refine ⟨zero, fun reads => ?_⟩
  obtain ⟨h, hread, hexact⟩ := reads.exact sampleWhale rfl
  rw [zero] at hread
  cases hread
  rw [zero_mul] at hexact
  have raw : sampleWhale.raw.toNat = 0 := by exact_mod_cast hexact.symm
  exact large (by omega)

end ArbEngine
