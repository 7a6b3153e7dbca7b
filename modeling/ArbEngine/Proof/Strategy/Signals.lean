import Mathlib.Tactic.FieldSimp
import Mathlib.Tactic.Linarith
import ArbEngine.Executor.Checks
import ArbEngine.Strategy.Generator

/-!
# What an emitted signal says

The generator computes with infinities (`XRat`); a signal that is emitted as one has none.
`Reckoned` is what the numbers of such a signal are, with the spread written as the gain of
the selling price over the buying one, and `generate_eq_ok` is the one place where `generate`
is unfolded: it keeps the set-up of the generator, and what it emits comes out of the prices
of the call through the two filters.
-/

namespace ArbEngine

/-! ## Fees -/

namespace FeeStructure

/-- The fees of a trade in dollars: a share of its value, and the gas. -/
def feesUsd (f : FeeStructure) (tradeValueUsd : ℚ) : ℚ :=
  (f.cexTakerBps + f.dexSwapBps) / 10000 * tradeValueUsd + f.gasCostUsd

variable {f : FeeStructure} {v x spread : ℚ}

/-- For a trade of positive value the fees are a number of dollars. -/
theorem totalFees_of_pos (h : 0 < v) : f.totalFees v = .fin (f.feesUsd v) := by
  have hne : v ≠ 0 := h.ne'
  unfold totalFees totalFeeBps feesUsd
  rw [if_neg (not_le.mpr h), XRat.fin_div (by norm_num), XRat.fin_mul]
  congr 1
  field_simp

/-- The fees of a trade that is worth nothing are no number of dollars. -/
theorem pos_of_totalFees_eq_fin (h : f.totalFees v = .fin x) : 0 < v := by
  by_contra hle
  unfold totalFees totalFeeBps at h
  rw [if_pos (not_lt.mp hle)] at h
  obtain ⟨y, z, hy, -, -⟩ := XRat.mul_eq_fin h
  obtain ⟨w, -, hw, -⟩ := XRat.div_fin_eq_fin hy
  cases hw

/-- And so is the net profit: the spread on the value, less the fees. -/
theorem netProfitUsd_of_pos (h : 0 < v) :
    f.netProfitUsd spread v = .fin (spread / 10000 * v - f.feesUsd v) := by
  unfold netProfitUsd
  rw [totalFees_of_pos h, XRat.fin_sub]

end FeeStructure

/-! ## Prices of a signal -/

namespace Signal

/-- The price at the venue where the signal buys. -/
def buyPrice (s : Signal) : ℚ :=
  match s.direction with
  | .buyCexSellDex => s.cexPrice
  | .buyDexSellCex => s.dexPrice

/-- The price at the venue where it sells. -/
def sellPrice (s : Signal) : ℚ :=
  match s.direction with
  | .buyCexSellDex => s.dexPrice
  | .buyDexSellCex => s.cexPrice

end Signal

/-- The numbers of a signal that a generator with these fees emits. -/
structure Reckoned (fees : FeeStructure) (config : GeneratorConfig) (s : Signal) : Prop where
  value : 0 < s.size * s.cexPrice
  bought : s.buyPrice ≠ 0
  spread : s.spreadBps = (s.sellPrice - s.buyPrice) / s.buyPrice * 10000
  wide : config.minSpreadBps ≤ s.spreadBps
  gross : s.expectedGrossPnl = s.spreadBps / 10000 * (s.size * s.cexPrice)
  net : s.expectedNetPnl = s.expectedGrossPnl - fees.feesUsd (s.size * s.cexPrice)
  profitable : config.minProfitUsd ≤ s.expectedNetPnl

/-! ## From prices to a signal -/

/-- The candidate trades one way or the other, at the prices and the spread of that way. -/
inductive Chosen (p : PriceData) : Candidate → Prop
  | buyCex : Chosen p
      { direction := .buyCexSellDex, spread := p.spreadA, executionCex := p.cexAsk,
        executionDex := p.dexSell }
  | buyDex : Chosen p
      { direction := .buyDexSellCex, spread := p.spreadB, executionCex := p.cexBid,
        executionDex := p.dexBuy }

/-- The exchange is the cheaper place to buy, by enough. -/
def CexIsCheaper (config : GeneratorConfig) (p : PriceData) : Prop :=
  p.spreadB < p.spreadA ∧ (config.minSpreadBps : XRat) ≤ p.spreadA

instance (config : GeneratorConfig) (p : PriceData) : Decidable (CexIsCheaper config p) := by
  unfold CexIsCheaper
  infer_instance

/-- A candidate is one of the two ways, at the prices of that way, and its spread is wide enough.
    If both ways are wide enough the wider one is taken, and the DEX is bought from where they are
    equal. -/
theorem chooseDirection_eq_some {config : GeneratorConfig} {p : PriceData} {c : Candidate}
    (h : chooseDirection config p = some c) :
    Chosen p c ∧ (config.minSpreadBps : XRat) ≤ c.spread ∧
      (c.direction = .buyCexSellDex ↔ CexIsCheaper config p) := by
  unfold chooseDirection at h
  split at h
  · rename_i cheaper
    cases h
    exact ⟨.buyCex, cheaper.2, iff_of_true rfl cheaper⟩
  · rename_i dearer
    split at h
    · rename_i wide
      cases h
      exact ⟨.buyDex, wide, iff_of_false Direction.noConfusion dearer⟩
    · cases h

namespace SignalGenerator

/-- A signal is built from a candidate all of whose numbers are rationals. -/
theorem emission_eq_signal {config : GeneratorConfig} {env : QuoteEnv} {pair : String}
    {c : Candidate} {size : ℚ} {grossPnl totalFees netPnl : XRat}
    {inventoryOk withinLimits : Bool} {s : Signal}
    (h : emission config env pair c size grossPnl totalFees netPnl inventoryOk withinLimits =
      .signal s) :
    (s.pair = pair ∧ s.size = size ∧ s.direction = c.direction ∧ s.cexPrice = c.executionCex) ∧
      c.executionDex = .fin s.dexPrice ∧ c.spread = .fin s.spreadBps ∧
      grossPnl = .fin s.expectedGrossPnl ∧ totalFees = .fin s.expectedFees ∧
      netPnl = .fin s.expectedNetPnl := by
  unfold emission at h
  split at h
  · rename_i dex spread gross fees net
    cases h
    simp only [XRat.toFin_eq_some] at dex spread gross fees net
    exact ⟨⟨rfl, rfl, rfl, rfl⟩, dex, spread, gross, fees, net⟩
  · cases h

/-- What a candidate hands down to the signal made of it. -/
theorem filterCandidate_eq_signal {g : SignalGenerator} {env : QuoteEnv}
    {inventory : InventoryTracker} {pair : String} {size : ℚ} {c : Candidate} {s : Signal}
    (h : g.filterCandidate env inventory pair size c = some (.signal s)) :
    (s.pair = pair ∧ s.size = size ∧ s.direction = c.direction ∧ s.cexPrice = c.executionCex) ∧
      c.executionDex = .fin s.dexPrice ∧ c.spread = .fin s.spreadBps := by
  unfold filterCandidate at h
  simp only at h
  split at h
  · cases h
  · obtain ⟨fields, dex, spread, -⟩ := emission_eq_signal (Option.some.inj h)
    exact ⟨fields, dex, spread⟩

/-- A spread of two prices that is a rational has a price below it that is not zero. -/
theorem spread_eq_fin {buy sell x : ℚ}
    (h : ((sell : XRat) - (buy : XRat)) / (buy : XRat) * ((10000 : ℚ) : XRat) = .fin x) :
    buy ≠ 0 ∧ x = (sell - buy) / buy * 10000 := by
  rw [XRat.fin_sub] at h
  obtain ⟨y, z, hy, hz, hmul⟩ := XRat.mul_eq_fin h
  obtain ⟨w, hne, hw, hdiv⟩ := XRat.div_fin_eq_fin hy
  cases hz
  cases hw
  exact ⟨hne, by rw [← hmul, ← hdiv]⟩

/-- The spread of a signal is that of its two prices. -/
theorem spread_of_chosen {p : PriceData} {c : Candidate} {s : Signal} (chosen : Chosen p c)
    (hdir : s.direction = c.direction) (hcex : s.cexPrice = c.executionCex)
    (hdex : c.executionDex = .fin s.dexPrice) (hspread : c.spread = .fin s.spreadBps) :
    s.buyPrice ≠ 0 ∧ s.spreadBps = (s.sellPrice - s.buyPrice) / s.buyPrice * 10000 := by
  unfold Signal.buyPrice Signal.sellPrice
  rw [hdir]
  cases chosen with
  | buyCex =>
    change p.dexSell = _ at hdex
    change p.spreadA = _ at hspread
    rw [PriceData.spreadA, hdex] at hspread
    rw [hcex]
    exact spread_eq_fin hspread
  | buyDex =>
    change p.dexBuy = _ at hdex
    change p.spreadB = _ at hspread
    rw [PriceData.spreadB, hdex] at hspread
    rw [hcex]
    exact spread_eq_fin hspread

/-- **The numbers of an emitted signal.** -/
theorem reckoned_of_filterCandidate {g : SignalGenerator} {env : QuoteEnv}
    {inventory : InventoryTracker} {pair : String} {size : ℚ} {p : PriceData} {c : Candidate}
    {s : Signal} (chosen : Chosen p c) (wide : (g.config.minSpreadBps : XRat) ≤ c.spread)
    (h : g.filterCandidate env inventory pair size c = some (.signal s)) :
    Reckoned g.fees g.config s := by
  unfold filterCandidate at h
  simp only at h
  split at h
  · cases h
  · rename_i enough
    obtain ⟨⟨-, hsize, hdir, hcex⟩, hdex, hspread, hgross, hfees, hnet⟩ :=
      emission_eq_signal (Option.some.inj h)
    obtain ⟨bought, spread⟩ := spread_of_chosen chosen hdir hcex hdex hspread
    rw [← hsize, ← hcex] at hgross hfees hnet enough
    have value := FeeStructure.pos_of_totalFees_eq_fin hfees
    rw [hnet, XRat.fin_lt, not_lt] at enough
    rw [hgross, FeeStructure.totalFees_of_pos value, XRat.fin_sub] at hnet
    rw [hspread, XRat.fin_div (by norm_num), XRat.fin_mul] at hgross
    rw [hspread, XRat.fin_le] at wide
    refine ⟨value, bought, spread, wide, (XRat.fin.inj hgross).symm, ?_, enough⟩
    exact (XRat.fin.inj hnet).symm

/-- **A signal that is emitted with a number that is no rational is refused**: its spread is
    infinite, or its value is not positive. -/
theorem nonFinite_of_filterCandidate {g : SignalGenerator} {env : QuoteEnv}
    {inventory : InventoryTracker} {pair : String} {size : ℚ} {p : PriceData} {c : Candidate}
    (chosen : Chosen p c) (wide : (g.config.minSpreadBps : XRat) ≤ c.spread)
    (h : g.filterCandidate env inventory pair size c = some .nonFinite) :
    c.spread = .inf false ∨ size * c.executionCex ≤ 0 := by
  cases hspread : c.spread with
  | inf negative =>
    left
    rw [hspread] at wide
    change negative = false at wide
    rw [wide]
  | nan =>
    rw [hspread] at wide
    cases wide
  | fin spreadBps =>
    right
    by_contra hpos
    rw [not_le] at hpos
    -- A rational spread has two rational prices, and what is worth something has rational fees.
    have hdex : ∃ dexPrice, c.executionDex = .fin dexPrice := by
      cases chosen with
      | buyCex =>
        obtain ⟨y, z, hy, -, -⟩ := XRat.mul_eq_fin hspread
        obtain ⟨w, -, hw, -⟩ := XRat.div_fin_eq_fin hy
        obtain ⟨dex, -, hdex, -, -⟩ := XRat.sub_eq_fin hw
        exact ⟨dex, hdex⟩
      | buyDex =>
        obtain ⟨y, z, hy, -, -⟩ := XRat.mul_eq_fin hspread
        cases hbuy : p.dexBuy with
        | fin dex => exact ⟨dex, rfl⟩
        | inf s =>
          rw [hbuy] at hy
          cases hy
        | nan =>
          rw [hbuy] at hy
          cases hy
    obtain ⟨dexPrice, hdex⟩ := hdex
    unfold filterCandidate at h
    simp only at h
    rw [hspread, FeeStructure.totalFees_of_pos hpos, XRat.fin_div (by norm_num), XRat.fin_mul,
      XRat.fin_sub] at h
    split at h
    · cases h
    · unfold emission at h
      rw [hdex, hspread] at h
      cases h

/-! ## A call of the generator -/

/-- A call changes the memory of the generator, not what it was set up with. -/
structure SameSetup (g g' : SignalGenerator) : Prop where
  fees : g'.fees = g.fees
  config : g'.config = g.config
  pairMetadata : g'.pairMetadata = g.pairMetadata
  signalQueue : g'.signalQueue = g.signalQueue

/-- Fetching prices leaves the set-up of the generator as it is; only the last middle price of the
    pair is remembered. -/
theorem fetchPrices_eq_ok {g g' : SignalGenerator} {env : QuoteEnv} {pair : String} {size : ℚ}
    {prices : Option PriceData} (h : g.fetchPrices env pair size = .ok (g', prices)) :
    SameSetup g g' := by
  unfold fetchPrices at h
  split at h
  · cases h
    exact ⟨rfl, rfl, rfl, rfl⟩
  · split at h
    · cases h
      exact ⟨rfl, rfl, rfl, rfl⟩
    · obtain ⟨_, _, h⟩ := Outcome.bind_eq_ok.mp h
      cases h
      exact ⟨rfl, rfl, rfl, rfl⟩

/-- Where a signal comes from: the prices of the call, through the two filters. -/
structure Emits (g : SignalGenerator) (env : QuoteEnv) (inventory : InventoryTracker)
    (pair : String) (size : ℚ) (e : Emission) (p : PriceData) (c : Candidate) : Prop where
  prices : ∃ g', g.fetchPrices env pair size = .ok (g', some p)
  chosen : chooseDirection g.config p = some c
  filtered : g.filterCandidate env inventory pair size c = some e

/-- **What a call does.** It leaves the set-up as it is, and a signal that it emits was made of
    fetched prices, chosen as a candidate and passed by the filter. A pair that is in its cooldown
    emits nothing. -/
theorem generate_eq_ok {g g' : SignalGenerator} {env : QuoteEnv} {inventory : InventoryTracker}
    {pair : String} {size : ℚ} {emitted : Option Emission}
    (h : g.generate env inventory pair size = .ok (g', emitted)) :
    SameSetup g g' ∧
      ∀ e, emitted = some e → ∃ p c, Emits g env inventory pair size e p c := by
  unfold generate at h
  split at h
  · -- turned away by the cooldown, before any price is fetched
    cases h
    refine ⟨⟨rfl, rfl, rfl, rfl⟩, ?_⟩
    intro e he
    cases he
  · obtain ⟨⟨g₁, prices⟩, hprices, h⟩ := Outcome.bind_eq_ok.mp h
    have same := fetchPrices_eq_ok hprices
    simp only at h
    split at h
    · cases h
      refine ⟨same, ?_⟩
      intro e he
      cases he
    · rename_i c hchosen
      obtain ⟨p, rfl, hchosen⟩ := Option.bind_eq_some_iff.mp hchosen
      split at h
      · cases h
        refine ⟨same, ?_⟩
        intro e he
        cases he
      · rename_i e hfiltered
        cases h
        refine ⟨⟨same.fees, same.config, same.pairMetadata, same.signalQueue⟩, ?_⟩
        intro e' he
        cases he
        unfold filterCandidate at hfiltered
        rw [same.config] at hchosen
        rw [same.fees, same.config] at hfiltered
        exact ⟨p, c, ⟨_, hprices⟩, hchosen, hfiltered⟩

/-- What a signal says of itself is reckoned from the prices of its call. -/
theorem Emits.reckoned {g : SignalGenerator} {env : QuoteEnv} {inventory : InventoryTracker}
    {pair : String} {size : ℚ} {s : Signal} {p : PriceData} {c : Candidate}
    (h : Emits g env inventory pair size (.signal s) p c) : Reckoned g.fees g.config s := by
  obtain ⟨chosen, wide, -⟩ := chooseDirection_eq_some h.chosen
  exact reckoned_of_filterCandidate chosen wide h.filtered

end SignalGenerator

/-! ## A pool that trades at a hundred -/

def sampleToken (address : Address) (symbol : String) : Token where
  address := address
  decimals := 18
  symbol := symbol

def samplePool : UniswapV3Pool where
  address := 9#160
  token0 := sampleToken 1#160 "LINK"
  token1 := sampleToken 2#160 "USDT"
  liquidity := 1000000#128
  sqrtPriceX96 := 10#256 <<< 96
  tick := 46054
  fee := 500#32
  tickSpacing := 10
  ticks := ∅

/-- A generator as `new` makes it, with the built-in settings. -/
def sampleGenerator : SignalGenerator :=
  (SignalGenerator.new default default).registerPair "LINK/USDT"
    (PairMetadata.ofPool (.v3 samplePool))

def sampleQuotes (bid ask : ℚ) : QuoteEnv where
  now := 0
  orderBook := some { bid, ask }
  shortUuid := "1a2b3c4d"
  created := 0

/-- A thousand of either token on either venue. -/
def sampleStock : InventoryTracker where
  walletAddress := none
  balances venue asset := some { venue, asset, free := 1000, locked := 0 }

/-- What the generator emits for two tokens, with this book. -/
def sampleEmission (bid ask : ℚ) : Option Signal :=
  (sampleGenerator.generate (sampleQuotes bid ask) sampleStock "LINK/USDT" 2).toOption.bind
    fun r => r.2.bind fun
      | .signal s => some s
      | .nonFinite => none

/-- Where the sample emits a signal, its call has answered with it. -/
theorem sampleEmission_inv {bid ask : ℚ} {s : Signal} (h : sampleEmission bid ask = some s) :
    ∃ g', sampleGenerator.generate (sampleQuotes bid ask) sampleStock "LINK/USDT" 2 =
      .ok (g', some (.signal s)) := by
  obtain ⟨⟨g', emitted⟩, hgen, h⟩ := Option.bind_eq_some_iff.mp h
  obtain ⟨e, rfl, h⟩ := Option.bind_eq_some_iff.mp h
  cases e with
  | signal s' =>
    cases h
    exact ⟨g', Outcome.toOption_eq_some.mp hgen⟩
  | nonFinite => cases h

end ArbEngine
