import ArbEngine.Integration.Checker
import ArbEngine.Proof.Exchange.Symbols
import ArbEngine.Proof.Pricing.QuoteCheck

/-!
# What an executable opportunity earns

The checker compares the price on the DEX with the best bid, and what it finds executable is
bought at the best ask. Its costs, as a share of the bid, are more than those of the trade, but
nothing in them stands for the spread (`executable_profitable_iff`).
-/

namespace ArbEngine
namespace ArbChecker

variable {m : TickMath} {c : ArbChecker} {env : CheckEnv} {fuel timestamp : ℕ} {pair : String}
  {size output bid ask : ℚ} {tokenIn tokenOut : Token} {opp : ArbOpportunity} {book : OrderBook}

/-- **The trade is profitable and covered**: sold at the price on the DEX and bought at the ask,
    the fee, the slippage and the gas of the report leave something, and the balances suffice. -/
structure Profitable (c : ArbChecker) (size : ℚ) (tokenIn tokenOut : Token)
    (opp : ArbOpportunity) : Prop where
  profit : 0 < size * opp.dexPrice -
    size * opp.cexAsk * (1 + (opp.details.cexFeeBps + opp.details.cexSlippageBps) / 10000) -
    opp.details.gasCostUsd
  wallet : size ≤ c.inventoryTracker.getAvailable .wallet tokenIn.symbol
  cex : size * opp.cexAsk ≤ c.inventoryTracker.getAvailable .cex tokenOut.symbol

/-- The balances suffice for the two legs. -/
def Covered (c : ArbChecker) (size ask : ℚ) (tokenIn tokenOut : Token) : Prop :=
  size ≤ c.inventoryTracker.getAvailable .wallet tokenIn.symbol ∧
    size * ask ≤ c.inventoryTracker.getAvailable .cex tokenOut.symbol

/-- The bid is so low that the output exceeds what the checker asks for over it. -/
def LowBid (size output bid : ℚ) : Prop :=
  size * bid * (100416 / 100000 * output + 5) < output ^ 2

/-- The ask is below the price at which the output breaks even. -/
def LowAsk (size output ask : ℚ) : Prop := 100104 / 100000 * (size * ask) < output - 5

/-! ## The report -/

theorem canExecute_iff : (c.inventoryTracker.canExecute .wallet tokenIn.symbol size .cex
    tokenOut.symbol (size * ask)).canExecute = true ↔ Covered c size ask tokenIn tokenOut := by
  simp [InventoryTracker.canExecute, Covered]

/-- What is left over the bid and the costs, for an output that is not negative. -/
theorem netPnl_pos_iff (hsize : 0 < size) (hbid : 0 < bid) (nonneg : 0 ≤ output) :
    0 < (c.assess pair timestamp size tokenIn tokenOut (output / size) bid ask).estimatedNetPnlBps ↔
      LowBid size output bid := by
  have notional : size * (output / size) = output := mul_div_cancel₀ output hsize.ne'
  unfold assess LowBid
  dsimp only [details]
  rw [notional, gasBps]
  rcases nonneg.eq_or_lt with rfl | pos
  · rw [if_neg (lt_irrefl 0), zero_div, zero_sub, neg_div, div_self hbid.ne']
    refine iff_of_false (by norm_num) (not_lt.mpr ?_)
    have bought : 0 < size * bid := mul_pos hsize hbid
    linarith
  · rw [if_pos pos]
    have cleared : (output / size - bid) / bid * 10000 -
        (30 + 10 + 12 / 10 + 4 / 10 + 5 / output * 10000) =
          (output ^ 2 - size * bid * (100416 / 100000 * output + 5)) *
            (10000 / (size * bid * output)) := by
      field_simp
      ring
    have scale : 0 < 10000 / (size * bid * output) := by positivity
    rw [cleared, mul_pos_iff_of_pos_right scale, sub_pos]

theorem executable_iff (hsize : 0 < size) (hbid : 0 < bid) (nonneg : 0 ≤ output) :
    (c.assess pair timestamp size tokenIn tokenOut (output / size) bid ask).executable = true ↔
      Covered c size ask tokenIn tokenOut ∧ LowBid size output bid := by
  have cleared : 0 < (c.assess pair timestamp size tokenIn tokenOut (output / size) bid
      ask).estimatedNetPnlBps ↔ LowBid size output bid := netPnl_pos_iff hsize hbid nonneg
  rw [← canExecute_iff, ← cleared, ← Bool.and_eq_true_iff.trans (and_congr_right' decide_eq_true_iff)]
  rfl

theorem profitable_iff (hsize : 0 < size) :
    Profitable c size tokenIn tokenOut
        (c.assess pair timestamp size tokenIn tokenOut (output / size) bid ask) ↔
      LowAsk size output ask ∧ Covered c size ask tokenIn tokenOut := by
  have notional : size * (output / size) = output := mul_div_cancel₀ output hsize.ne'
  have profit : size * (output / size) - size * ask * (1 + (10 + 4 / 10) / 10000) - 5 =
      output - 5 - 100104 / 100000 * (size * ask) := by
    rw [notional]
    ring
  constructor
  · intro profitable
    refine ⟨?_, profitable.wallet, profitable.cex⟩
    have earned : 0 < size * (output / size) - size * ask * (1 + (10 + 4 / 10) / 10000) - 5 :=
      profitable.profit
    rwa [profit, sub_pos] at earned
  · rintro ⟨low, wallet, cex⟩
    refine ⟨?_, wallet, cex⟩
    show 0 < size * (output / size) - size * ask * (1 + (10 + 4 / 10) / 10000) - 5
    rwa [profit, sub_pos]

/-! ## The check -/

theorem proceeds_nonneg (h : c.proceeds m env fuel size tokenIn tokenOut = .ended (.ok output)) :
    0 ≤ output := by
  unfold proceeds at h
  obtain ⟨rawAmountIn, -, h⟩ := Fueled.bind_eq_ok.mp h
  obtain ⟨router, -, h⟩ := Fueled.bind_eq_ok.mp h
  obtain ⟨best, -, h⟩ := Fueled.bind_eq_ok.mp h
  have human := Fueled.ended_eq_ok.mp h
  unfold TokenAmount.toHuman at human
  split at human
  · obtain rfl := Outcome.ok.inj human
    apply div_nonneg _ (by positivity)
    unfold parseDecimal
    split
    · exact Nat.cast_nonneg _
    · exact le_rfl
  · cases human

/-- A check that answers reports on the proceeds and the best prices. -/
theorem check_eq_ok (hsize : 0 < size)
    (hbook : env.fetchOrderBook (c.symbolCex pair) 5 = .ok book) (hbid : 0 < book.bestBid.1) :
    c.check m env fuel pair size tokenIn tokenOut = .ended (.ok opp) ↔
      ∃ output, c.proceeds m env fuel size tokenIn tokenOut = .ended (.ok output) ∧
        c.assess pair env.timestamp size tokenIn tokenOut (output / size) book.bestBid.1
          book.bestAsk.1 = opp := by
  unfold check
  rw [hbook, Outcome.mapErr_ok, Fueled.bind_eq_ok]
  apply exists_congr
  intro output
  apply and_congr_right
  intro _
  have divisible : Outcome.guardPanic (size ≠ 0) = .ok () := Outcome.guardPanic_eq_ok.mpr hsize.ne'
  have comparable : Outcome.guardPanic (book.bestBid.1 ≠ 0) = .ok () :=
    Outcome.guardPanic_eq_ok.mpr hbid.ne'
  rw [divisible]
  show (Fueled.ended (Outcome.guardPanic (book.bestBid.1 ≠ 0)) >>= fun _ => _) = _ ↔ _
  rw [comparable]
  exact Fueled.pure_eq_ok

/-- **When what is executable is profitable**: the balances do not suffice, the bid is not low, or
    the ask is. -/
theorem executable_profitable_iff (m : TickMath) (c : ArbChecker) (env : CheckEnv) (fuel : ℕ)
    (pair : String) (size : ℚ) (tokenIn tokenOut : Token) (book : OrderBook) (hsize : 0 < size)
    (hbook : env.fetchOrderBook (c.symbolCex pair) 5 = .ok book) (hbid : 0 < book.bestBid.1) :
    (∀ opp, c.check m env fuel pair size tokenIn tokenOut = .ended (.ok opp) →
        opp.executable = true → Profitable c size tokenIn tokenOut opp) ↔
      ∀ output, c.proceeds m env fuel size tokenIn tokenOut = .ended (.ok output) →
        Covered c size book.bestAsk.1 tokenIn tokenOut → LowBid size output book.bestBid.1 →
          LowAsk size output book.bestAsk.1 := by
  constructor
  · intro sound output houtput covered lowBid
    have nonneg := proceeds_nonneg houtput
    have checked := (check_eq_ok hsize hbook hbid).mpr ⟨output, houtput, rfl⟩
    have profitable := sound _ checked ((executable_iff hsize hbid nonneg).mpr ⟨covered, lowBid⟩)
    exact ((profitable_iff hsize).mp profitable).1
  · intro safe opp checked executable
    obtain ⟨output, houtput, rfl⟩ := (check_eq_ok hsize hbook hbid).mp checked
    have nonneg := proceeds_nonneg houtput
    obtain ⟨covered, lowBid⟩ := (executable_iff hsize hbid nonneg).mp executable
    exact (profitable_iff hsize).mpr ⟨safe output houtput covered lowBid, covered⟩

/-! ## A wide spread -/

/-- A checker with a thousand of everything, over a pool of two stable coins. -/
def sampleChecker : ArbChecker where
  pricingEngine := PricingEngine.sampleEngine "USDC"
  exchangeClient := sampleBybit
  inventoryTracker :=
    { walletAddress := none
      balances := fun venue asset => some { venue, asset, free := 1000, locked := 0 } }

def sampleCheckEnv (bid ask : ℚ) : CheckEnv where
  fetchOrderBook symbol _ := .ok (constructOrderBook symbol 0 [(bid, 1000)] [(ask, 1000)])
  timestamp := 0
  debug := id

def sampleIn : Token := { address := 0x1#160, decimals := 18, symbol := "DAI" }

def sampleOut : Token := { address := 0x2#160, decimals := 18, symbol := "USDC" }

/-- A hundred coins are sold for a little less than a hundred. -/
theorem sampleChecker_proceeds (bid ask : ℚ) :
    sampleChecker.proceeds UniswapV3Pool.stepMath (sampleCheckEnv bid ask) 10 100 sampleIn
      sampleOut = .ended (.ok (99990000999900009999 / 10 ^ 18)) := by
  have amount : TokenAmount.fromDecimal 100 18 (some "DAI") =
      .ok { raw := 100000000000000000000#256, decimals := 18, symbol := some "DAI" } := by
    decide +kernel
  have found : ∃ route, (RouteFinder.new [PricingEngine.samplePair "USDC"]).findBestRoute
      UniswapV3Pool.stepMath 10 sampleIn sampleOut 100000000000000000000#256 20 3 =
        .ended (.ok (route, 99990000999900009999#256)) := ⟨_, rfl⟩
  have human : TokenAmount.toHuman
      { raw := 99990000999900009999#256, decimals := 18, symbol := some "USDC" } =
        .ok (99990000999900009999 / 10 ^ 18) := by decide +kernel
  obtain ⟨route, found⟩ := found
  refine Fueled.bind_eq_ok.mpr ⟨_, Fueled.ended_eq_ok.mpr amount, ?_⟩
  refine Fueled.bind_eq_ok.mpr ⟨_, rfl, ?_⟩
  refine Fueled.bind_eq_ok.mpr ⟨(route, _), ?_, Fueled.ended_eq_ok.mpr human⟩
  rw [found]
  rfl

theorem sampleChecker_covered {ask : ℚ} (h : ask ≤ 10) :
    Covered sampleChecker 100 ask sampleIn sampleOut := by
  refine ⟨?_, ?_⟩
  · show (100 : ℚ) ≤ 1000
    norm_num
  · show 100 * ask ≤ 1000
    linarith

/-- A bid of one half is low. -/
theorem sampleChecker_lowBid : LowBid 100 (99990000999900009999 / 10 ^ 18) (1 / 2) := by
  norm_num [LowBid]

/-- The report on the sale at this ask. -/
def sampleReport (ask : ℚ) : ArbOpportunity :=
  sampleChecker.assess "DAI/USDC" 0 100 sampleIn sampleOut (99990000999900009999 / 10 ^ 18 / 100)
    (1 / 2) ask

theorem sampleChecker_check (ask : ℚ) :
    sampleChecker.check UniswapV3Pool.stepMath (sampleCheckEnv (1 / 2) ask) 10 "DAI/USDC" 100
      sampleIn sampleOut = .ended (.ok (sampleReport ask)) := by
  apply (check_eq_ok (by norm_num) rfl (show (0 : ℚ) < 1 / 2 by norm_num)).mpr
  exact ⟨_, sampleChecker_proceeds (1 / 2) ask, rfl⟩

theorem sampleReport_executable {ask : ℚ} (h : ask ≤ 10) : (sampleReport ask).executable = true :=
  (executable_iff (by norm_num) (by norm_num) (by norm_num)).mpr
    ⟨sampleChecker_covered h, sampleChecker_lowBid⟩

/-- With the ask at the bid the trade earns forty-five. -/
theorem sampleChecker_profitable :
    ∃ opp, sampleChecker.check UniswapV3Pool.stepMath (sampleCheckEnv (1 / 2) (1 / 2)) 10
        "DAI/USDC" 100 sampleIn sampleOut = .ended (.ok opp) ∧ opp.executable = true ∧
      Profitable sampleChecker 100 sampleIn sampleOut opp := by
  have executable := sampleReport_executable (show (1 / 2 : ℚ) ≤ 10 by norm_num)
  have sound := (executable_profitable_iff UniswapV3Pool.stepMath sampleChecker
    (sampleCheckEnv (1 / 2) (1 / 2)) 10 "DAI/USDC" 100 sampleIn sampleOut _ (by norm_num) rfl
    (show (0 : ℚ) < 1 / 2 by norm_num)).mpr ?safe
  case safe =>
    intro output houtput _ _
    rw [sampleChecker_proceeds] at houtput
    obtain rfl := Outcome.ok.inj (Fueled.ended_eq_ok.mp houtput)
    show LowAsk 100 (99990000999900009999 / 10 ^ 18) (1 / 2)
    norm_num [LowAsk]
  exact ⟨_, sampleChecker_check _, executable, sound _ (sampleChecker_check _) executable⟩

/-- With the ask at one it loses five, and is executable all the same. -/
theorem sampleChecker_unprofitable :
    ¬ ∀ (m : TickMath) (c : ArbChecker) (env : CheckEnv) fuel pair size tokenIn tokenOut
        (book : OrderBook), 0 < size → env.fetchOrderBook (c.symbolCex pair) 5 = .ok book →
        0 < book.bestBid.1 → book.bestBid.1 ≤ book.bestAsk.1 →
        ∀ opp, c.check m env fuel pair size tokenIn tokenOut = .ended (.ok opp) →
          opp.executable = true → Profitable c size tokenIn tokenOut opp := by
  intro sound
  have executable := sampleReport_executable (show (1 : ℚ) ≤ 10 by norm_num)
  have profitable := sound _ _ (sampleCheckEnv (1 / 2) 1) 10 "DAI/USDC" 100 _ _ _ (by norm_num) rfl
    (show (0 : ℚ) < 1 / 2 by norm_num) (show (1 / 2 : ℚ) ≤ 1 by norm_num) _
    (sampleChecker_check 1) executable
  have lowAsk : LowAsk 100 (99990000999900009999 / 10 ^ 18) 1 :=
    ((profitable_iff (by norm_num)).mp profitable).1
  norm_num [LowAsk] at lowAsk

end ArbChecker
end ArbEngine
