import Mathlib.Algebra.Order.Floor.Semiring
import ArbEngine.Executor.DexLeg
import ArbEngine.Proof.Executor.Flow
import ArbEngine.Proof.Inventory.TrackerLedger
import ArbEngine.Proof.Pricing.V2Quote
import ArbEngine.Proof.Pricing.V3Loop

/-!
# What a DEX leg says has come in

A DEX leg that succeeds reports the size it was asked for at the price of its signal, and the
books follow the report. What it is sure of is the least output the router accepts, which is
made of the pool's quote and the tolerance. `proceeds_received_iff` compares the two: the report
is safe exactly where the quote is larger than the reported proceeds by what the tolerance
takes off again.

The tolerance of the source is a double that is multiplied by ten thousand and cut off. The product
is rounded to a double before it is cut, so that a tolerance of 0.0029 gives 28 basis points and
not 29; from `toleranceBps_eq` on only the number that comes of it is used.
-/

namespace ArbEngine

open DexVenue

/-! ## Reported proceeds -/

/-- What a DEX leg reports to have received: base units from a purchase, quote units from a
    sale. -/
def proceeds (signal : Signal) (leg : LegResult) : ℚ :=
  match signal.direction with
  | .buyDexSellCex => leg.filled
  | .buyCexSellDex => leg.filled * leg.price

/-- The proceeds are what `update_inventory` posts to the wallet's account of the token
    received, before the fee. -/
theorem proceeds_booked {signal : Signal} {leg : LegResult} {base quote : String}
    (hpair : splitPair signal.pair = [base, quote]) :
    ((Venue.wallet, (tokensOf signal.direction base quote).2), proceeds signal leg) ∈
      fillPostings signal .wallet leg.filled leg.price := by
  unfold fillPostings proceeds
  rw [hpair]
  cases signal.direction with
  | buyCexSellDex => exact List.mem_cons_of_mem _ List.mem_cons_self
  | buyDexSellCex => exact List.mem_cons_self

/-- **Whatever the router may have paid, the report is no larger**: it accepts any output from
    `amount_out_min` on, in raw units of a token with this many decimals. -/
def ProceedsReceived (signal : Signal) (leg : LegResult) (call : SwapCall) (decimalsOut : ℕ) :
    Prop :=
  ∀ received : ℕ, call.amountOutMin.toNat ≤ received →
    proceeds signal leg ≤ received / 10 ^ decimalsOut

theorem proceedsReceived_iff {signal : Signal} {leg : LegResult} {call : SwapCall}
    {decimalsOut : ℕ} :
    ProceedsReceived signal leg call decimalsOut ↔
      proceeds signal leg * 10 ^ decimalsOut ≤ call.amountOutMin.toNat := by
  have unit : (0 : ℚ) < 10 ^ decimalsOut := by positivity
  unfold ProceedsReceived
  simp only [le_div_iff₀ unit]
  constructor
  · intro h
    exact h _ (le_refl _)
  · intro h received accepted
    have : (call.amountOutMin.toNat : ℚ) ≤ received := by exact_mod_cast accepted
    exact h.trans this

/-! ## The least output -/

/-- The basis points of a quote that are left after the tolerance. -/
def keptOfQuote (config : ExecutorConfig) (pool : Pool) : ℕ :=
  10000 - (toleranceFloor config + if isV3 (some pool) then 50 else 0)

/-- The quote, less the tolerance, is worth what is due in whole units; a product beyond 256
    bits is worth nothing. -/
def Covers (due : ℚ) (quote kept : ℕ) : Prop :=
  due ≤ 0 ∨ (quote * kept < 2 ^ 256 ∧ ⌈due⌉₊ * 10000 ≤ quote * kept)

/-- What the signal expects of the pool for this size, in raw units of the token received. -/
def due (signal : Signal) (size : ℚ) (decimalsOut : ℕ) : ℚ :=
  (match signal.direction with
    | .buyDexSellCex => size
    | .buyCexSellDex => size * signal.dexPrice) * 10 ^ decimalsOut

/-- **The pool's quote for the amount paid in covers what the signal expects.** Where there is no
    pool, or it refuses the quote, no more than one unit may be expected. -/
def QuoteCovers (m : TickMath) (config : ExecutorConfig) (fuel : ℕ) (route : SwapRoute)
    (signal : Signal) (size : ℚ) (decimalsOut : ℕ) : Prop :=
  match route.pool with
  | none => due signal size decimalsOut ≤ 1
  | some p =>
      match p.getAmountOut m fuel (amountIn route signal size) (tokenRef p route.tokenIn) with
      | some (.ok quote) =>
          Covers (due signal size decimalsOut) quote.toNat (keptOfQuote config p)
      | _ => due signal size decimalsOut ≤ 1

section Least

variable {m : TickMath} {config : ExecutorConfig} {fuel : ℕ} {route : SwapRoute} {amount : U256}

/-- A tolerance of at most one is at most 10000 basis points: rounding the product does not
    go beyond, since 10000 is a double. -/
theorem toleranceFloor_le (h1 : config.slippageTolerance ≤ 1) :
    toleranceFloor config ≤ 10000 := by
  have whole : Binary64.nearest ((10000 : ℤ) : ℚ) = ((10000 : ℤ) : ℚ) :=
    Binary64.nearest_intCast (by norm_num)
  have product : Binary64.nearest (config.slippageTolerance * 10000) ≤ 10000 := by
    calc Binary64.nearest (config.slippageTolerance * 10000)
        ≤ Binary64.nearest ((10000 : ℤ) : ℚ) :=
          Binary64.nearest_mono (by push_cast; linarith)
      _ = 10000 := by rw [whole]; norm_num
  have le : ⌊Binary64.nearest (config.slippageTolerance * 10000)⌋ ≤ 10000 := by
    rw [Int.floor_le_iff]
    push_cast
    linarith
  unfold toleranceFloor
  omega

/-- 29 basis points are cut off to 28. -/
example :
    toleranceFloor { (default : ExecutorConfig) with
      slippageTolerance := Binary64.nearest (29 / 10000) } = 28 := by
  decide +kernel

theorem toleranceBps_eq (h1 : config.slippageTolerance ≤ 1) (p : Pool) :
    toleranceBps config p =
      .ok (toleranceFloor config + if isV3 (some p) then 50 else 0) := by
  have small := toleranceFloor_le h1
  unfold toleranceBps
  rw [min_eq_left (by omega)]
  cases p with
  | v2 p => rfl
  | v3 p =>
    simp only
    rw [if_pos (by omega)]
    rfl

/-- A quote less the tolerance, rounded down. -/
theorem toNat_lessTolerance (expected : U256) (bps : ℕ) :
    (lessTolerance expected bps).toNat =
      if expected.toNat * (10000 - bps) < 2 ^ 256 then expected.toNat * (10000 - bps) / 10000
      else 0 := by
  have word : (BitVec.ofNat 256 (10000 - bps)).toNat = 10000 - bps := by
    rw [BitVec.toNat_ofNat]
    exact Nat.mod_eq_of_lt (by omega)
  show ((Word.checkedMul expected (BitVec.ofNat 256 (10000 - bps))).getD 0#256 /
    10000#256).toNat = _
  by_cases fits : expected.toNat * (10000 - bps) < 2 ^ 256
  · obtain ⟨product, hproduct, value⟩ := Word.checkedMul_of_lt
      (a := expected) (b := BitVec.ofNat 256 (10000 - bps)) (by rw [word]; exact fits)
    rw [hproduct, Option.getD_some, BitVec.toNat_udiv, value, word, if_pos fits]
    rfl
  · have overflow : Word.checkedMul expected (BitVec.ofNat 256 (10000 - bps)) = none := by
      unfold Word.checkedMul
      rw [word, if_neg fits]
    rw [overflow, if_neg fits]
    rfl

theorem covers_iff {due : ℚ} {expected : U256} {bps : ℕ} :
    due ≤ (lessTolerance expected bps).toNat ↔ Covers due expected.toNat (10000 - bps) := by
  rw [toNat_lessTolerance]
  unfold Covers
  by_cases fits : expected.toNat * (10000 - bps) < 2 ^ 256
  · rw [if_pos fits, and_iff_right fits, ← Nat.le_div_iff_mul_le (by norm_num), Nat.ceil_le]
    constructor
    · intro h
      exact .inr h
    · rintro (h | h)
      · exact h.trans (Nat.cast_nonneg _)
      · exact h
  · rw [if_neg fits, Nat.cast_zero]
    constructor
    · intro h
      exact .inl h
    · rintro (h | ⟨h, -⟩)
      · exact h
      · exact absurd h fits

/-- The least output of a pool that has a quote. -/
theorem amountOutMin_of_quote {p : Pool} {quote : U256} (hpool : route.pool = some p)
    (h1 : config.slippageTolerance ≤ 1)
    (quoted : p.getAmountOut m fuel amount (tokenRef p route.tokenIn) = some (.ok quote)) :
    amountOutMin m config fuel route amount =
      some (.ok (lessTolerance quote
        (toleranceFloor config + if isV3 (some p) then 50 else 0))) := by
  unfold amountOutMin
  rw [hpool]
  simp only [quoted, Option.map_some, toleranceBps_eq h1, Outcome.ok_bind, Outcome.pure_eq_ok]

theorem quoteCovers_of_quote {p : Pool} {quote : U256} {signal : Signal} {size : ℚ}
    {decimalsOut : ℕ} (hpool : route.pool = some p)
    (quoted : p.getAmountOut m fuel (amountIn route signal size) (tokenRef p route.tokenIn) =
      some (.ok quote)) :
    QuoteCovers m config fuel route signal size decimalsOut ↔
      Covers (due signal size decimalsOut) quote.toNat (keptOfQuote config p) := by
  unfold QuoteCovers
  rw [hpool]
  simp only [quoted]

/-- **What is due is covered by the least output exactly where the quote covers it.** -/
theorem due_le_amountOutMin_iff {signal : Signal} {size : ℚ} {least : U256} {decimalsOut : ℕ}
    (h1 : config.slippageTolerance ≤ 1)
    (h : amountOutMin m config fuel route (amountIn route signal size) = some (.ok least)) :
    due signal size decimalsOut ≤ least.toNat ↔
      QuoteCovers m config fuel route signal size decimalsOut := by
  cases hpool : route.pool with
  | none =>
    unfold QuoteCovers
    unfold amountOutMin at h
    rw [hpool] at h ⊢
    cases h
    exact Iff.of_eq (congrArg _ Nat.cast_one)
  | some p =>
    cases quoted : p.getAmountOut m fuel (amountIn route signal size)
        (tokenRef p route.tokenIn) with
    | none =>
      unfold amountOutMin at h
      simp only [hpool, quoted, Option.map_none] at h
      cases h
    | some answer =>
      cases answer with
      | ok expected =>
        rw [amountOutMin_of_quote hpool h1 quoted] at h
        cases h
        rw [quoteCovers_of_quote hpool quoted]
        exact covers_iff
      -- A refused quote leaves the least output at one unit.
      | err msg =>
        unfold QuoteCovers
        unfold amountOutMin at h
        simp only [hpool, quoted, Option.map_some] at h ⊢
        cases h
        exact Iff.of_eq (congrArg _ Nat.cast_one)
      | panic =>
        unfold amountOutMin at h
        simp only [hpool, quoted, Option.map_some] at h
        cases h

end Least

/-! ## The leg -/

section Leg

variable {m : TickMath} {v : DexVenue} {config : ExecutorConfig} {fuel : ℕ} {env : DexEnv}
  {signal : Signal} {size : ℚ} {leg : LegResult} {call : SwapCall}

theorem swapCall_amountOutMin {route : SwapRoute} {now : ℕ} {amount least : U256}
    (h : swapCall route now amount least = .ok call) : call.amountOutMin = least := by
  unfold swapCall at h
  split at h
  · obtain ⟨_, -, h⟩ := Outcome.bind_eq_ok.mp h
    cases h
    rfl
  · cases h
    rfl

/-- A leg that has come as far as its swap. -/
theorem executeDexLeg_submitted
    (h : executeDexLeg m v config fuel env signal size = some (.ok (leg, some call))) :
    ∃ route least, v.route config signal = .ok route ∧
      amountOutMin m config fuel route (amountIn route signal size) = some (.ok least) ∧
      call.amountOutMin = least ∧ leg = env.submit.report signal size := by
  unfold executeDexLeg at h
  split at h
  · cases h
  · cases hroute : v.route config signal with
    | error msg =>
      rw [hroute] at h
      cases h
    | ok route =>
      rw [hroute] at h
      simp only at h
      obtain ⟨least, hleast, h⟩ := Option.map_eq_some_iff.mp h
      obtain ⟨least, rfl, h⟩ := Outcome.bind_eq_ok.mp h
      rw [Outcome.ok_bind] at h
      split at h
      · cases h
      · obtain ⟨call', hcall, h⟩ := Outcome.bind_eq_ok.mp h
        cases h
        exact ⟨route, least, rfl, hleast, swapCall_amountOutMin hcall, rfl⟩

/-- **A leg that succeeds reports what it was asked for**, at the price of its signal. -/
theorem report_success {answer : SwapAnswer} (h : (answer.report signal size).success = true) :
    (answer.report signal size).price = signal.dexPrice ∧
      (answer.report signal size).filled = size := by
  cases answer with
  | signFailed msg => cases h
  | bundleFailed msg => cases h
  | txFailed msg => cases h
  | bundle txHash targetBlock included =>
    cases included with
    | false => cases h
    | true => exact ⟨rfl, rfl⟩
  | receipt txHash status =>
    cases status with
    | false => cases h
    | true => exact ⟨rfl, rfl⟩

theorem proceeds_report {answer : SwapAnswer} {decimalsOut : ℕ}
    (h : (answer.report signal size).success = true) :
    proceeds signal (answer.report signal size) * 10 ^ decimalsOut =
      due signal size decimalsOut := by
  obtain ⟨price, filled⟩ := report_success h
  unfold proceeds due
  cases signal.direction with
  | buyCexSellDex => rw [price, filled]
  | buyDexSellCex => rw [filled]

/-- **The proceeds a leg reports are sure to have come in exactly where the pool's quote, less
    the tolerance, covers what the signal expects.** -/
theorem proceeds_received_iff {route : SwapRoute} (decimalsOut : ℕ)
    (h1 : config.slippageTolerance ≤ 1)
    (submitted : executeDexLeg m v config fuel env signal size = some (.ok (leg, some call)))
    (success : leg.success = true) (routed : v.route config signal = .ok route) :
    ProceedsReceived signal leg call decimalsOut ↔
      QuoteCovers m config fuel route signal size decimalsOut := by
  obtain ⟨route', least, hroute, hleast, hcall, rfl⟩ := executeDexLeg_submitted submitted
  rw [routed] at hroute
  cases hroute
  rw [proceedsReceived_iff, proceeds_report success, hcall]
  exact due_le_amountOutMin_iff h1 hleast

end Leg

/-! ## One ether sold at 2020 -/

/-- A pool with a thousand ether in it. -/
def sampleDexVenue (dollars : U256) : DexVenue where
  hasChainClient := true
  walletAddress := some 0x5#160
  tokenAddresses := fun symbol =>
    if symbol = "ETH" then some 0x1#160 else if symbol = "USDT" then some 0x2#160 else none
  pools := fun _ => some (.v2 (UniswapV2Pair.samplePair 1000000000000000000000#256 dollars))
  parseAddress := fun _ => some 0x7#160

/-- A live configuration that tolerates 0.05, as a double. -/
def sampleDexConfig : ExecutorConfig :=
  { (default : ExecutorConfig) with
    simulationMode := false
    slippageTolerance := Binary64.nearest (5 / 100)
    dexRouterAddress := some "0x7" }

/-- The allowance is enough and the swap is mined. -/
def sampleDexEnv : DexEnv where
  now := 0
  allowance := { current := .ok 1000000000000000000#256, approve := .ok true }
  submit := .receipt "0xabc" true

def sampleSwap (least : U256) : SwapCall :=
  .swapExactTokensForTokens 1000000000000000000#256 least [0x1#160, 0x2#160] 0x5#160 300

def sampleRoute (dollars : U256) : SwapRoute where
  wallet := 0x5#160
  tokenIn := 0x1#160
  tokenOut := 0x2#160
  pool := some (.v2 (UniswapV2Pair.samplePair 1000000000000000000000#256 dollars))
  router := 0x7#160

theorem sampleDexVenue_route (dollars : U256) :
    (sampleDexVenue dollars).route sampleDexConfig (sampleSignal .buyCexSellDex) =
      .ok (sampleRoute dollars) := by
  unfold DexVenue.route
  rw [splitPair_sample]
  rfl

theorem sampleRoute_amountIn (dollars : U256) :
    amountIn (sampleRoute dollars) (sampleSignal .buyCexSellDex) 1 =
      1000000000000000000#256 := by
  show roundU128 (Binary64.nearest (1 * Binary64.nearest (10 ^ 18))) = _
  decide +kernel

theorem sampleDexConfig_tolerance : sampleDexConfig.slippageTolerance ≤ 1 := by
  show Binary64.nearest (5 / 100) ≤ 1
  decide +kernel

theorem sampleDexConfig_bps : toleranceFloor sampleDexConfig = 500 := by
  show ⌊Binary64.nearest (Binary64.nearest (5 / 100) * 10000)⌋.toNat = 500
  decide +kernel

/-- The leg of the sample signal ends with its swap mined, for 5% less than the quote or more. -/
theorem sampleDexVenue_leg {dollars quote : U256}
    (quoted : (UniswapV2Pair.samplePair 1000000000000000000000#256 dollars).getAmountOut
      1000000000000000000#256
      (UniswapV2Pair.samplePair 1000000000000000000000#256 dollars).token0 = .ok quote) :
    executeDexLeg UniswapV3Pool.stepMath (sampleDexVenue dollars) sampleDexConfig 0 sampleDexEnv
      (sampleSignal .buyCexSellDex) 1 =
      some (.ok (filledLeg (sampleSignal .buyCexSellDex) 1 "0xabc",
        some (sampleSwap (lessTolerance quote 500)))) := by
  have least : amountOutMin UniswapV3Pool.stepMath sampleDexConfig 0 (sampleRoute dollars)
      1000000000000000000#256 = _ :=
    amountOutMin_of_quote rfl sampleDexConfig_tolerance (congrArg some quoted)
  rw [sampleDexConfig_bps] at least
  unfold executeDexLeg
  rw [if_neg (by decide), sampleDexVenue_route]
  simp only [sampleRoute_amountIn, least]
  rfl

/-- A pool at 2200 pays the 2020 of the signal whatever the tolerance lets through. -/
theorem sample_proceeds_received :
    ProceedsReceived (sampleSignal .buyCexSellDex)
      (filledLeg (sampleSignal .buyCexSellDex) 1 "0xabc")
      (sampleSwap (lessTolerance 2191215358#256 500)) 6 := by
  have quoted : (UniswapV2Pair.samplePair 1000000000000000000000#256
      2200000000000#256).getAmountOut 1000000000000000000#256
      (UniswapV2Pair.samplePair 1000000000000000000000#256 2200000000000#256).token0 =
      .ok 2191215358#256 := Outcome.toOption_eq_some.mp (by decide +kernel)
  refine (proceeds_received_iff 6 sampleDexConfig_tolerance (sampleDexVenue_leg quoted) rfl
    (sampleDexVenue_route _)).mpr ?_
  have covered : QuoteCovers UniswapV3Pool.stepMath sampleDexConfig 0
      (sampleRoute 2200000000000#256) (sampleSignal .buyCexSellDex) 1 6 ↔ _ :=
    quoteCovers_of_quote rfl (by rw [sampleRoute_amountIn]; exact congrArg some quoted)
  refine covered.mpr (.inr ?_)
  have kept : keptOfQuote sampleDexConfig
      (.v2 (UniswapV2Pair.samplePair 1000000000000000000000#256 2200000000000#256)) = 9500 := by
    unfold keptOfQuote
    rw [sampleDexConfig_bps]
    rfl
  have raw : ⌈due (sampleSignal .buyCexSellDex) 1 6⌉₊ ≤ 2020000000 := by
    rw [Nat.ceil_le]
    show (1 * 2020 : ℚ) * 10 ^ 6 ≤ ((2020000000 : ℕ) : ℚ)
    norm_num
  rw [kept]
  exact ⟨by decide, le_trans (Nat.mul_le_mul_right 10000 raw) (by decide)⟩

/-- **A pool at 2020, the price of the signal**: it quotes 2011.93, the router may pay as little
    as 1911.34, and the leg reports 2020. -/
theorem sample_proceeds_not_received :
    executeDexLeg UniswapV3Pool.stepMath (sampleDexVenue 2020000000000#256) sampleDexConfig 0
      sampleDexEnv (sampleSignal .buyCexSellDex) 1 =
      some (.ok (filledLeg (sampleSignal .buyCexSellDex) 1 "0xabc",
        some (sampleSwap 1911337395#256))) ∧
    ¬ ProceedsReceived (sampleSignal .buyCexSellDex)
      (filledLeg (sampleSignal .buyCexSellDex) 1 "0xabc") (sampleSwap 1911337395#256) 6 := by
  have quoted : (UniswapV2Pair.samplePair 1000000000000000000000#256
      2020000000000#256).getAmountOut 1000000000000000000#256
      (UniswapV2Pair.samplePair 1000000000000000000000#256 2020000000000#256).token0 =
      .ok 2011934101#256 := Outcome.toOption_eq_some.mp (by decide +kernel)
  constructor
  · have least : lessTolerance 2011934101#256 500 = 1911337395#256 := by decide +kernel
    rw [sampleDexVenue_leg quoted, least]
  · rw [proceedsReceived_iff]
    show ¬ (1 * 2020 : ℚ) * 10 ^ 6 ≤ ((1911337395 : ℕ) : ℚ)
    norm_num

end ArbEngine
