import Mathlib.Algebra.Order.Floor.Ring
import Mathlib.Tactic.Linarith
import ArbEngine.Proof.Integration.BalanceSync

/-!
# What the emergency sale sells

The sale looks a base asset up in the exchange's own map; the tracker knows ether under the
name `WETH`. So a position in any other asset is sold, whole units of it, and a position in
ether only as far as the exchange happens to report a `WETH` of its own
(`flatten_covers_iff`). An amount too large for a `Decimal` ends the loop where it stands, and
the pairs behind it are not reached.

The amount is a double when its whole units are taken, and a double may have been rounded up to
the next whole number. The conversion is a parameter (`toF64`); one that rounds to the nearest
double leaves amounts below 2²⁷ alone (`floor_ofRat_free`).
-/

namespace ArbEngine

open ArbBot

/-! ## Amounts of an order -/

namespace TokenAmount

/-- Whole units, read with 18 decimals: a text that is no `Decimal` is an error, and a product
    that is none panics. -/
theorem fromHumanWhole_ether (n : ℕ) :
    fromHumanWhole n 18 none =
      if n * 10 ^ 18 < 2 ^ 96 then
        .ok { raw := BitVec.ofNat 256 (n * 10 ^ 18), decimals := 18, symbol := none }
      else if n < 2 ^ 96 then .panic
      else .err "Decimal conversion error" := by
  have scale : ¬ 2 ^ 64 ≤ 10 ^ 18 := by norm_num
  unfold fromHumanWhole
  by_cases fits : n * 10 ^ 18 < 2 ^ 96
  · rw [if_neg (by omega), if_neg (not_or.mpr ⟨scale, not_le.mpr fits⟩), if_pos fits]
  · rw [if_neg fits]
    by_cases text : n < 2 ^ 96
    · rw [if_neg (not_le.mpr text), if_pos (.inr (not_lt.mp fits)), if_pos text]
    · rw [if_pos (not_lt.mp text), if_neg text]

/-- An order for whole units is an order for just as many. -/
theorem human_fromHumanWhole {n : ℕ} {amount : TokenAmount}
    (h : fromHumanWhole n 18 none = .ok amount) : amount.human = n := by
  unfold fromHumanWhole at h
  split at h
  · cases h
  · split at h
    · cases h
    · rename_i fits
      cases h
      have small : n * 10 ^ 18 < 2 ^ 96 := not_le.mp fun hle => fits (.inr hle)
      have word : (BitVec.ofNat 256 (n * 10 ^ 18)).toNat = n * 10 ^ 18 := by
        rw [BitVec.toNat_ofNat]
        exact Nat.mod_eq_of_lt (small.trans (by norm_num))
      unfold human parseDecimal
      rw [word, if_pos small]
      push_cast
      exact mul_div_cancel_right₀ _ (by norm_num)

end TokenAmount

namespace BotRun

/-! ## The loop over the pairs -/

section Loop

variable {toF64 : ℚ → F64} {balances : ExchangeBalances} {pair base quote : String}

/-- The whole units of an asset that the sale sees on the exchange. -/
def wholeUnits (toF64 : ℚ → F64) (balances : ExchangeBalances) (asset : String) : ℤ :=
  ((balances.lookup asset).map fun b => ⌊(toF64 b.free.human : ℚ)⌋).getD 0

/-- What is sold of a pair: the whole units of its base asset, under the exchange's name. -/
theorem flattenAmountBy_two (hsplit : splitPair pair = [base, quote]) :
    flattenAmountBy toF64 balances pair =
      if 0 < wholeUnits toF64 balances base then
        (TokenAmount.fromHumanWhole (wholeUnits toF64 balances base).toNat 18 none).discardErr
      else .ok none := by
  unfold flattenAmountBy wholeUnits
  rw [hsplit]
  simp only
  cases balances.lookup base with
  | none => simp
  | some b =>
    simp only [Option.map_some, Option.getD_some]
    by_cases h : 0 < ⌊(toF64 b.free.human : ℚ)⌋
    · rw [if_pos h, if_pos h]
      cases TokenAmount.fromHumanWhole ⌊(toF64 b.free.human : ℚ)⌋.toNat 18 none <;> rfl
    · rw [if_neg h, if_neg h]

theorem flattenAmountBy_other (hother : ∀ base quote, splitPair pair ≠ [base, quote]) :
    flattenAmountBy toF64 balances pair = .ok none := by
  unfold flattenAmountBy
  split
  · rename_i base quote hsplit
    exact absurd hsplit (hother base quote)
  · rfl

/-- The loop gets past this pair: the whole units fit a `Decimal` with 18 decimals, or their
    text is no `Decimal` at all, which only skips the pair. -/
def Orderable (toF64 : ℚ → F64) (balances : ExchangeBalances) (pair : String) : Prop :=
  ∀ base quote, splitPair pair = [base, quote] →
    (wholeUnits toF64 balances base).toNat * 10 ^ 18 < 2 ^ 96 ∨
      2 ^ 96 ≤ (wholeUnits toF64 balances base).toNat

theorem flattenAmountBy_ok_iff :
    (∃ amount, flattenAmountBy toF64 balances pair = .ok amount) ↔
      Orderable toF64 balances pair := by
  by_cases hpair : ∃ base quote, splitPair pair = [base, quote]
  · obtain ⟨base, quote, hsplit⟩ := hpair
    have only : Orderable toF64 balances pair ↔
        (wholeUnits toF64 balances base).toNat * 10 ^ 18 < 2 ^ 96 ∨
          2 ^ 96 ≤ (wholeUnits toF64 balances base).toNat := by
      constructor
      · intro h
        exact h base quote hsplit
      · intro h base' quote' hsplit'
        rw [hsplit] at hsplit'
        cases hsplit'
        exact h
    rw [only, flattenAmountBy_two hsplit, TokenAmount.fromHumanWhole_ether]
    by_cases pos : 0 < wholeUnits toF64 balances base
    · rw [if_pos pos]
      by_cases fits : (wholeUnits toF64 balances base).toNat * 10 ^ 18 < 2 ^ 96
      · rw [if_pos fits]
        exact iff_of_true ⟨_, rfl⟩ (.inl fits)
      · rw [if_neg fits]
        by_cases text : (wholeUnits toF64 balances base).toNat < 2 ^ 96
        · rw [if_pos text]
          refine iff_of_false ?_ (not_or.mpr ⟨fits, not_le.mpr text⟩)
          rintro ⟨amount, h⟩
          cases h
        · rw [if_neg text]
          exact iff_of_true ⟨_, rfl⟩ (.inr (not_lt.mp text))
    · rw [if_neg pos]
      refine iff_of_true ⟨_, rfl⟩ (.inl ?_)
      rw [Int.toNat_of_nonpos (not_lt.mp pos)]
      norm_num
  · have hother : ∀ base quote, splitPair pair ≠ [base, quote] :=
      fun base quote hsplit => hpair ⟨base, quote, hsplit⟩
    rw [flattenAmountBy_other hother]
    exact iff_of_true ⟨_, rfl⟩ fun base quote hsplit => absurd hsplit (hother base quote)

/-- Two stretches of the list are gone through one after the other. -/
theorem flattenOrdersBy_append {pairs rest : List String} :
    flattenOrdersBy toF64 balances (pairs ++ rest) = (do
      let orders ← flattenOrdersBy toF64 balances pairs
      let later ← flattenOrdersBy toF64 balances rest
      return orders ++ later) := by
  induction pairs with
  | nil =>
    show flattenOrdersBy toF64 balances rest = _
    cases flattenOrdersBy toF64 balances rest <;> rfl
  | cons pair pairs ih =>
    rw [List.cons_append, flattenOrdersBy, ih, flattenOrdersBy]
    cases flattenAmountBy toF64 balances pair with
    | ok amount =>
      cases flattenOrdersBy toF64 balances pairs with
      | ok orders => cases flattenOrdersBy toF64 balances rest <;> simp
      | err msg => rfl
      | panic => rfl
    | err msg => rfl
    | panic => rfl

/-- The loop gets through these pairs. -/
theorem flattenOrdersBy_ok_iff {pairs : List String} :
    (∃ orders, flattenOrdersBy toF64 balances pairs = .ok orders) ↔
      ∀ pair ∈ pairs, Orderable toF64 balances pair := by
  induction pairs with
  | nil =>
    refine iff_of_true ⟨[], rfl⟩ ?_
    intro pair hpair
    cases hpair
  | cons pair pairs ih =>
    rw [List.forall_mem_cons, ← flattenAmountBy_ok_iff, ← ih]
    constructor
    · rintro ⟨orders, h⟩
      obtain ⟨amount, hamount, h⟩ := Outcome.bind_eq_ok.mp h
      obtain ⟨rest, hrest, -⟩ := Outcome.bind_eq_ok.mp h
      exact ⟨⟨amount, hamount⟩, ⟨rest, hrest⟩⟩
    · rintro ⟨⟨amount, hamount⟩, ⟨rest, hrest⟩⟩
      refine ⟨amount.toList.map (BotEvent.marketSell pair) ++ rest, ?_⟩
      rw [flattenOrdersBy, hamount, Outcome.ok_bind, hrest, Outcome.ok_bind]
      rfl

end Loop

/-! ## The sale up to a pair -/

/-- The run with only these pairs configured. -/
def withPairs (r : BotRun) (pairs : List String) : BotRun :=
  { r with bot := { r.bot with pairs := pairs } }

/-- **The sale, when it has come as far as this pair, places an order for it**: the run over
    the pairs up to this one ends, and the last thing it does is to sell `amount`. -/
def Sells (toF64 : ℚ → F64) (r : BotRun) (fetched : Except String ExchangeBalances)
    (before : List String) (pair : String) (amount : TokenAmount) : Prop :=
  ∃ t s, (r.withPairs before).emergencyFlattenBy toF64 fetched = .ok t ∧
    (r.withPairs (before ++ [pair])).emergencyFlattenBy toF64 fetched = .ok s ∧
    s.trace = t.trace ++ [.marketSell pair amount]

section Sale

variable {toF64 : ℚ → F64} {r : BotRun} {balances : ExchangeBalances}
  {before after : List String} {pair : String} {amount : TokenAmount}

theorem emergencyFlattenBy_live (live : r.bot.dryRun = false) (pairs : List String) :
    (r.withPairs pairs).emergencyFlattenBy toF64 (.ok balances) = (do
      let orders ← flattenOrdersBy toF64 balances pairs
      return { r.withPairs pairs with trace := r.trace ++ orders }) := by
  unfold emergencyFlattenBy
  rw [if_neg (by rw [withPairs, live]; decide)]
  rfl

/-- An order is placed where the loop is not ended before, and the pair has something to
    sell. -/
theorem sells_iff (live : r.bot.dryRun = false) :
    r.Sells toF64 (.ok balances) before pair amount ↔
      (∀ p ∈ before, Orderable toF64 balances p) ∧
        flattenAmountBy toF64 balances pair = .ok (some amount) := by
  unfold Sells
  simp only [emergencyFlattenBy_live live, flattenOrdersBy_append]
  rw [← flattenOrdersBy_ok_iff]
  constructor
  · rintro ⟨t, s, ht, hs, hlast⟩
    obtain ⟨orders, horders, ht⟩ := Outcome.bind_eq_ok.mp ht
    cases ht
    refine ⟨⟨orders, horders⟩, ?_⟩
    rw [horders, Outcome.ok_bind, flattenOrdersBy] at hs
    obtain ⟨all, hall, hs⟩ := Outcome.bind_eq_ok.mp hs
    obtain ⟨later, hlater, hall⟩ := Outcome.bind_eq_ok.mp hall
    obtain ⟨sold, hsold, hlater⟩ := Outcome.bind_eq_ok.mp hlater
    cases hs
    cases hall
    cases hlater
    have last : r.trace ++ (orders ++ (sold.toList.map (BotEvent.marketSell pair) ++ [])) =
        r.trace ++ orders ++ [.marketSell pair amount] := hlast
    rw [← List.append_assoc] at last
    have tail := List.append_cancel_left last
    cases sold with
    | none => cases tail
    | some sold =>
      cases tail
      exact hsold
  · rintro ⟨⟨orders, horders⟩, hamount⟩
    refine ⟨{ r.withPairs before with trace := r.trace ++ orders },
      { r.withPairs (before ++ [pair]) with
        trace := r.trace ++ (orders ++ [.marketSell pair amount]) }, ?_, ?_, ?_⟩
    · rw [horders]
      rfl
    · rw [horders, Outcome.ok_bind, flattenOrdersBy, hamount, Outcome.ok_bind, flattenOrdersBy]
      rfl
    · exact (List.append_assoc _ _ _).symm

/-- A sale that ends contains the order of each pair that sells. -/
theorem Sells.mem_trace {s : BotRun} (sells : r.Sells toF64 (.ok balances) before pair amount)
    (live : r.bot.dryRun = false) (hpairs : r.bot.pairs = before ++ pair :: after)
    (h : r.emergencyFlattenBy toF64 (.ok balances) = .ok s) : .marketSell pair amount ∈ s.trace := by
  obtain ⟨-, hamount⟩ := (sells_iff live).mp sells
  have whole : r.withPairs (before ++ pair :: after) = r := by
    rw [withPairs, ← hpairs]
  rw [← whole, emergencyFlattenBy_live live, flattenOrdersBy_append, flattenOrdersBy, hamount,
    Outcome.ok_bind] at h
  obtain ⟨orders, horders, h⟩ := Outcome.bind_eq_ok.mp h
  obtain ⟨first, -, horders⟩ := Outcome.bind_eq_ok.mp horders
  obtain ⟨later, hlater, horders⟩ := Outcome.bind_eq_ok.mp horders
  obtain ⟨rest, -, hlater⟩ := Outcome.bind_eq_ok.mp hlater
  cases h
  cases horders
  cases hlater
  simp

end Sale

/-! ## Positions -/

/-- Whole units of the base asset are tracked on the exchange, and not too many for an order. -/
def HoldsWhole (r : BotRun) (base : String) : Prop :=
  1 ≤ r.bot.sharedInventory.getAvailable .cex base ∧
    r.bot.sharedInventory.getAvailable .cex base < 10 ^ 9

instance (r : BotRun) (base : String) : Decidable (r.HoldsWhole base) := by
  unfold HoldsWhole
  infer_instance

/-- **No tracked position is skipped**: each pair whose base asset is held gets an order for the
    whole units of what the tracker holds. -/
def FlattenCovers (toF64 : ℚ → F64) (r : BotRun) (balances : ExchangeBalances) : Prop :=
  ∀ before pair after, r.bot.pairs = before ++ pair :: after →
    ∀ base quote, splitPair pair = [base, quote] → r.HoldsWhole base →
      ∃ amount, r.Sells toF64 (.ok balances) before pair amount ∧
        amount.human = ⌊r.bot.sharedInventory.getAvailable .cex base⌋

/-- Each held pair is reached, and the double that the sale makes of the amount has its whole
    units. Ether is looked up under the tracker's name: it takes an entry `WETH` of the
    exchange's own, with the whole units that are tracked. -/
def PositionsInSight (toF64 : ℚ → F64) (r : BotRun) (balances : ExchangeBalances) : Prop :=
  ∀ before pair after, r.bot.pairs = before ++ pair :: after →
    ∀ base quote, splitPair pair = [base, quote] → r.HoldsWhole base →
      (∀ p ∈ before, Orderable toF64 balances p) ∧
        (base ≠ "WETH" → ⌊(toF64 (r.bot.sharedInventory.getAvailable .cex base) : ℚ)⌋ =
          ⌊r.bot.sharedInventory.getAvailable .cex base⌋) ∧
        (base = "WETH" → wholeUnits toF64 balances "WETH" =
          ⌊r.bot.sharedInventory.getAvailable .cex "WETH"⌋)

section Positions

variable {toF64 : ℚ → F64} {r : BotRun} {b : ArbBot} {balances : ExchangeBalances}

theorem available_synced (synced : b.syncBinanceBalances (.ok balances) = .ok r.bot)
    (asset : String) : r.bot.sharedInventory.getAvailable .cex asset = tracked balances asset :=
  cex_tracked synced asset

/-- A position in another asset than ether is tracked as it is reported. -/
theorem reported_of_holds {base : String}
    (synced : b.syncBinanceBalances (.ok balances) = .ok r.bot) (holds : r.HoldsWhole base)
    (hweth : base ≠ "WETH") :
    reportedFree balances base = r.bot.sharedInventory.getAvailable .cex base := by
  have heth : base ≠ "ETH" := by
    rintro rfl
    -- Nothing is tracked as `ETH`, so it is not held.
    have one := holds.1
    rw [available_synced synced, tracked_eth] at one
    norm_num at one
  rw [available_synced synced, tracked_other heth hweth]

theorem wholeUnits_of_pos {asset : String} (pos : 0 < reportedFree balances asset) :
    wholeUnits toF64 balances asset = ⌊(toF64 (reportedFree balances asset) : ℚ)⌋ := by
  unfold wholeUnits reportedFree at *
  cases hlookup : balances.lookup asset with
  | none =>
    rw [hlookup] at pos
    exact absurd pos (lt_irrefl 0)
  | some b => rfl

/-- What is sold of a pair is what the exchange reports under the name of its base asset. -/
theorem sells_floor_iff {before : List String} {pair base quote : String} {held : ℚ}
    (live : r.bot.dryRun = false) (hsplit : splitPair pair = [base, quote]) (one : 1 ≤ held)
    (billion : held < 10 ^ 9) :
    (∃ amount, r.Sells toF64 (.ok balances) before pair amount ∧ amount.human = ⌊held⌋) ↔
      (∀ p ∈ before, Orderable toF64 balances p) ∧ wholeUnits toF64 balances base = ⌊held⌋ := by
  simp only [sells_iff live, and_assoc, exists_and_left]
  refine and_congr_right fun _ => ?_
  rw [flattenAmountBy_two hsplit]
  constructor
  · rintro ⟨amount, hamount, human⟩
    by_cases pos : 0 < wholeUnits toF64 balances base
    · rw [if_pos pos] at hamount
      have parsed := Outcome.discardErr_eq_some.mp hamount
      rw [TokenAmount.human_fromHumanWhole parsed] at human
      have whole : ((wholeUnits toF64 balances base).toNat : ℤ) = wholeUnits toF64 balances base :=
        Int.toNat_of_nonneg pos.le
      rw [← whole]
      exact_mod_cast human
    · rw [if_neg pos] at hamount
      cases hamount
  · intro same
    have pos : 0 < ⌊held⌋ := Int.floor_pos.mpr one
    have small : ⌊held⌋ < 10 ^ 9 := by
      rw [Int.floor_lt]
      exact_mod_cast billion
    have fits : ⌊held⌋.toNat * 10 ^ 18 < 2 ^ 96 := by omega
    have parsed := TokenAmount.fromHumanWhole_ether ⌊held⌋.toNat
    rw [if_pos fits] at parsed
    rw [same, if_pos pos]
    refine ⟨_, Outcome.discardErr_eq_some.mpr parsed, ?_⟩
    rw [TokenAmount.human_fromHumanWhole parsed]
    have whole : ((⌊held⌋.toNat : ℕ) : ℤ) = ⌊held⌋ := Int.toNat_of_nonneg pos.le
    exact_mod_cast whole

/-- **The sale covers what the tracker holds exactly where ether is reported under the
    tracker's name**, no amount turns into a double of other whole units, and none before it ends
    the loop. -/
theorem flatten_covers_iff (toF64 : ℚ → F64)
    (synced : b.syncBinanceBalances (.ok balances) = .ok r.bot) (live : r.bot.dryRun = false) :
    r.FlattenCovers toF64 balances ↔ r.PositionsInSight toF64 balances := by
  unfold FlattenCovers PositionsInSight
  refine forall_congr' fun before => forall_congr' fun pair => forall_congr' fun after =>
    forall_congr' fun hpairs => forall_congr' fun base => forall_congr' fun quote =>
      forall_congr' fun hsplit => forall_congr' fun holds => ?_
  rw [sells_floor_iff live hsplit holds.1 holds.2]
  refine and_congr_right fun _ => ?_
  by_cases hweth : base = "WETH"
  · subst hweth
    exact ⟨fun h => ⟨fun other => absurd rfl other, fun _ => h⟩, fun h => h.2 rfl⟩
  · have same := reported_of_holds synced holds hweth
    have pos : 0 < reportedFree balances base := by
      rw [same]
      exact one_pos.trans_le holds.1
    rw [wholeUnits_of_pos pos, same]
    exact ⟨fun h => ⟨fun _ => h, fun weth => absurd weth hweth⟩, fun h => h.1 hweth⟩

end Positions

/-! ### Amounts of eight decimals -/

/-- **Below 2²⁷ a conversion to the nearest double keeps the whole units**: what the exchange
    reports has eight decimals, and doubles are closer together than that. Above it is not so:
    134217728.99999999 becomes 134217729. -/
theorem floor_ofRat_free (b : ExchangeBalance) (small : b.free.human < 2 ^ 27) :
    ⌊(F64.ofRat b.free.human : ℚ)⌋ = ⌊b.free.human⌋ := by
  have units : ∃ n : ℕ, b.free.human = n / 10 ^ 8 := by
    unfold TokenAmount.human parseDecimal
    rw [b.free_decimals]
    split
    · exact ⟨b.free.raw.toNat, rfl⟩
    · exact ⟨0, by simp⟩
  obtain ⟨n, hn⟩ := units
  rw [hn] at small ⊢
  have nonneg : (0 : ℚ) ≤ n / 10 ^ 8 := by positivity
  have floor : ⌊(n : ℚ) / 10 ^ 8⌋ = ((n / 10 ^ 8 : ℕ) : ℤ) := by
    have quotient := Rat.floor_natCast_div_natCast n (10 ^ 8)
    push_cast at quotient ⊢
    exact quotient
  have bits : n < 2 ^ 27 * 10 ^ 8 := by
    rw [div_lt_iff₀ (by norm_num)] at small
    exact_mod_cast small
  -- The next whole number is at least one unit of the last decimal away.
  have decimals : (n : ℚ) / 10 ^ 8 + 1 / 10 ^ 8 ≤ ((n / 10 ^ 8 : ℕ) : ℚ) + 1 := by
    have whole : n + 1 ≤ (n / 10 ^ 8 + 1) * 10 ^ 8 := by omega
    rw [← add_div, div_le_iff₀ (by norm_num)]
    exact_mod_cast whole
  refine Binary64.floor_nearest ?bound nonneg ?far
  case bound =>
    rw [floor]
    omega
  case far =>
    have place : Binary64.ulp ((n : ℚ) / 10 ^ 8) ≤ 1 / 2 ^ 26 := by
      calc Binary64.ulp ((n : ℚ) / 10 ^ 8) ≤ 2 ^ (27 - 53 : ℤ) := by
            refine Binary64.ulp_le (by norm_num) ?_
            rw [abs_of_nonneg nonneg]
            exact_mod_cast small
        _ = 1 / 2 ^ 26 := by norm_num
    rw [floor, Int.cast_natCast]
    linarith

example : ⌊(F64.ofRat (13421772899999999 / 10 ^ 8) : ℚ)⌋ = 134217729 := by decide +kernel

theorem floor_ofRat_reportedFree {balances : ExchangeBalances} {asset : String}
    (small : ∀ e ∈ balances.entries, e.2.free.human < 2 ^ 27) :
    ⌊(F64.ofRat (reportedFree balances asset) : ℚ)⌋ = ⌊reportedFree balances asset⌋ := by
  unfold reportedFree
  cases hlookup : balances.lookup asset with
  | none => decide +kernel
  | some b =>
    exact floor_ofRat_free b (small ⟨asset, b⟩ (AList.mem_lookup_iff.mp hlookup))

/-- **An account without whole ether, and with less than 2²⁷ of anything, is covered.** -/
theorem positionsInSight_of_small {r : BotRun} {b : ArbBot} {balances : ExchangeBalances}
    (synced : b.syncBinanceBalances (.ok balances) = .ok r.bot)
    (small : ∀ e ∈ balances.entries, e.2.free.human < 2 ^ 27)
    (noEther : ¬ r.HoldsWhole "WETH") : r.PositionsInSight F64.ofRat balances := by
  intro before pair after _ base quote _ holds
  refine ⟨?orderable, ?other, fun weth => absurd (weth ▸ holds) noEther⟩
  case orderable =>
    intro p _ base' quote' _
    left
    have below : wholeUnits F64.ofRat balances base' < 2 ^ 27 := by
      unfold wholeUnits
      cases hlookup : balances.lookup base' with
      | none => norm_num
      | some b =>
        have less := small ⟨base', b⟩ (AList.mem_lookup_iff.mp hlookup)
        show ⌊(F64.ofRat b.free.human : ℚ)⌋ < 2 ^ 27
        rw [floor_ofRat_free b less, Int.floor_lt]
        exact_mod_cast less
    omega
  case other =>
    intro hweth
    rw [← reported_of_holds synced holds hweth]
    exact floor_ofRat_reportedFree small

/-! ## Two accounts -/

/-- The sample bot with these balances synced. -/
def sampleHolding (balances : ExchangeBalances) : Outcome BotRun := do
  let b ← sampleEmpty.syncBinanceBalances (.ok balances)
  return atHealthCheck b

/-- A thousand and a half of a token, and no ether. -/
def sampleTokenBalances : ExchangeBalances :=
  [⟨"PEPE", ExchangeBalance.ofRaw "PEPE" 100050000000#256 0#256⟩].toAList

/-- Five ether, reported as such. -/
def sampleFiveEther : ExchangeBalances :=
  [⟨"ETH", ExchangeBalance.ofRaw "ETH" 500000000#256 0#256⟩].toAList

theorem sampleHolding_inv {balances : ExchangeBalances} {r : BotRun}
    (h : (sampleHolding balances).toOption = some r) :
    sampleEmpty.syncBinanceBalances (.ok balances) = .ok r.bot ∧ r.bot.dryRun = false ∧
      r.bot.pairs = ["PEPE/USDT", "WETH/USDT"] := by
  obtain ⟨b, hb, h⟩ := Outcome.bind_eq_ok.mp (Outcome.toOption_eq_some.mp h)
  cases h
  refine ⟨hb, ?_⟩
  cases hb
  exact ⟨rfl, rfl⟩

theorem sample_tokens_covered :
    ∃ r, (sampleHolding sampleTokenBalances).toOption = some r ∧ r.HoldsWhole "PEPE" ∧
      r.FlattenCovers F64.ofRat sampleTokenBalances := by
  have seen : (sampleHolding sampleTokenBalances).toOption.map (fun r =>
      (decide (r.HoldsWhole "PEPE"), decide (r.HoldsWhole "WETH"))) = some (true, false) := by
    decide +kernel
  obtain ⟨r, hr, seen⟩ := Option.map_eq_some_iff.mp seen
  simp only [Prod.mk.injEq, decide_eq_true_eq, decide_eq_false_iff_not] at seen
  obtain ⟨synced, live, pairs⟩ := sampleHolding_inv hr
  refine ⟨r, hr, seen.1, (flatten_covers_iff F64.ofRat synced live).mpr
    (positionsInSight_of_small synced ?_ seen.2)⟩
  decide +kernel

/-- **Five ether that nobody sells**: they are tracked as `WETH`, and the sale looks for a
    `WETH` that the exchange does not report. -/
theorem sample_ether_skipped :
    ∃ r, (sampleHolding sampleFiveEther).toOption = some r ∧ r.bot.dryRun = false ∧
      r.HoldsWhole "WETH" ∧
      (r.emergencyFlatten (.ok sampleFiveEther)).toOption.map BotRun.trace = some [] ∧
      ¬ r.FlattenCovers F64.ofRat sampleFiveEther := by
  have seen : (sampleHolding sampleFiveEther).toOption.map (fun r =>
      (decide (r.HoldsWhole "WETH"),
        (r.emergencyFlatten (.ok sampleFiveEther)).toOption.map BotRun.trace)) =
      some (true, some []) := by
    decide +kernel
  obtain ⟨r, hr, seen⟩ := Option.map_eq_some_iff.mp seen
  simp only [Prod.mk.injEq, decide_eq_true_eq] at seen
  obtain ⟨holds, silent⟩ := seen
  obtain ⟨-, live, pairs⟩ := sampleHolding_inv hr
  refine ⟨r, hr, live, holds, silent, ?_⟩
  intro covers
  obtain ⟨amount, sells, -⟩ := covers ["PEPE/USDT"] "WETH/USDT" [] pairs "WETH" "USDT"
    (by decide +kernel) holds
  obtain ⟨-, sold⟩ := (sells_iff live).mp sells
  have nothing : (flattenAmountBy F64.ofRat sampleFiveEther "WETH/USDT").toOption =
        some none := by
    decide +kernel
  rw [sold] at nothing
  cases nothing

end BotRun

end ArbEngine
