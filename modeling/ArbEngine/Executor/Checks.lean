import ArbEngine.Strategy.Signal

/-!
# Checks before a trade (`executor/src/validator.rs`, `executor/src/gas_oracle.rs`)

The validator looks at the signal and at the recent prices of its pair; the gas oracle keeps
an exponentially weighted base fee and says what a trade costs on the chain. The oracle takes
a square root, and `sqrt` is a parameter.

The duties are split between them and the risk manager: the validator knows no limits and no
balances, only what a signal says and whether its prices look like data that can be trusted.
-/

namespace ArbEngine

/-! ## The validator -/

/-- Why the validator turns a signal or a price away. -/
inductive ValidationError where
  | invalidCexPrice
  | invalidDexPrice
  | spreadTooHigh (spreadBps : ℚ)
  | signalTooOld (age : ℚ)
  | invalidTradeSize
  | priceNotPositive
  | priceDeviates (price deviation recentAvg : ℚ)
deriving DecidableEq, Repr

/-- The texts of the refusals. `fixed n x` prints a number with so many digits after the point. -/
def ValidationError.text (fixed : ℕ → ℚ → String) : ValidationError → String
  | .invalidCexPrice => "Invalid CEX price"
  | .invalidDexPrice => "Invalid DEX price"
  | .spreadTooHigh bps => "Spread " ++ fixed 1 bps ++ "bps too high - likely bad data"
  | .signalTooOld age => "Signal too old: " ++ fixed 1 age ++ "s"
  | .invalidTradeSize => "Invalid trade size"
  | .priceNotPositive => "Price must be positive"
  | .priceDeviates price deviation avg =>
      "Price " ++ fixed 2 price ++ " deviates " ++ fixed 1 (deviation * 100) ++
        "% from recent avg " ++ fixed 2 avg

/-- The recent prices of every pair, oldest first; a pair not seen yet has none. -/
structure PreTradeValidator where
  priceHistory : String → List ℚ
  windowSize : ℕ

namespace PreTradeValidator

def new (windowSize : ℕ) : PreTradeValidator where
  priceHistory := fun _ => []
  windowSize := windowSize

instance : Inhabited PreTradeValidator := ⟨new 20⟩

/-- The checks of a signal by itself, in the order of the source. A spread above 500 bps is taken
    for bad data and not for a chance. -/
def validateSignal (signal : Signal) (now : ℚ) : Except ValidationError Unit :=
  if signal.cexPrice ≤ 0 then .error .invalidCexPrice
  else if signal.dexPrice ≤ 0 then .error .invalidDexPrice
  else if 500 < signal.spreadBps then .error (.spreadTooHigh signal.spreadBps)
  else if 5 < signal.ageSeconds now then .error (.signalTooOld (signal.ageSeconds now))
  else if signal.size ≤ 0 then .error .invalidTradeSize
  else .ok ()

/-- A signal that passes is positive in its prices and its size, recent, and of a spread that can
    be believed. The bounds are the ones of the source: a spread of exactly 500 bps and an age of
    exactly 5 seconds pass. -/
theorem validateSignal_eq_ok {signal : Signal} {now : ℚ}
    (h : validateSignal signal now = .ok ()) :
    0 < signal.cexPrice ∧ 0 < signal.dexPrice ∧ signal.spreadBps ≤ 500 ∧
      signal.ageSeconds now ≤ 5 ∧ 0 < signal.size := by
  unfold validateSignal at h
  split at h
  · cases h
  · split at h
    · cases h
    · split at h
      · cases h
      · split at h
        · cases h
        · split at h
          · cases h
          · rename_i hcex hdex hspread hage hsize
            exact ⟨not_le.mp hcex, not_le.mp hdex, not_lt.mp hspread, not_lt.mp hage,
              not_le.mp hsize⟩

/-- The mean of the recent prices, `0` when there is none. -/
def recentAvg (history : List ℚ) : ℚ :=
  if history.isEmpty then 0 else history.sum / history.length

/-- The price is pushed to the history before it is compared, and stays there when it is
    refused. -/
def validatePriceFeed (v : PreTradeValidator) (price : ℚ) (pair : String) :
    Except ValidationError Unit × PreTradeValidator :=
  if price ≤ 0 then (.error .priceNotPositive, v)
  else
    let history := v.priceHistory pair
    let avg := recentAvg history
    -- One price at most is dropped; the history never grows past the window.
    let kept := if v.windowSize ≤ history.length then history.tail else history
    let v :=
      { v with
        priceHistory := fun p => if p = pair then kept ++ [price] else v.priceHistory p }
    -- The average is that of the prices before this one. Without any it is zero, and the price
    -- passes.
    let deviation := |price - avg| / avg
    if 0 < avg ∧ 5 / 100 < deviation then (.error (.priceDeviates price deviation avg), v)
    else (.ok (), v)

end PreTradeValidator

/-! ## The gas oracle -/

namespace GasUnits

def erc20Transfer : ℕ := 65000
def uniswapV2Swap : ℕ := 130000
def uniswapV3Swap : ℕ := 160000
def twoHopV3 : ℕ := 280000
def flashLoanArb : ℕ := 450000

end GasUnits

/-- An exponentially weighted gas price in gwei, and the sum of squares its deviation is taken
    from. -/
structure GasOracle where
  ewmGasPrice : ℚ
  alpha : ℚ
  count : ℕ
  m2 : ℚ
  ethPriceUsd : ℚ
deriving DecidableEq, Repr

namespace GasOracle

/-- `none` when the assertion on `alpha` fails. -/
def new (initialGwei alpha ethPriceUsd : ℚ) : Option GasOracle :=
  if 0 ≤ alpha ∧ alpha ≤ 1 then
    some { ewmGasPrice := initialGwei, alpha := alpha, count := 1, m2 := 0,
           ethPriceUsd := ethPriceUsd }
  else none

/-- One observation. The sum of squares is that of Welford's method in form only: he takes one of
    the two deltas before the mean moves. -/
def update (g : GasOracle) (observedGwei : ℚ) : GasOracle :=
  let ewm := g.alpha * observedGwei + (1 - g.alpha) * g.ewmGasPrice
  -- Both deltas are taken after the price has moved.
  let delta := observedGwei - ewm
  let delta2 := observedGwei - ewm
  { g with ewmGasPrice := ewm, count := g.count + 1, m2 := g.m2 + delta * delta2 }

/-- The deviation of a sample; with a single observation there is none. -/
def stdDev (sqrt : ℚ → ℚ) (g : GasOracle) : ℚ :=
  if g.count < 2 then 0 else sqrt (g.m2 / (g.count - 1))

/-- One and a half deviations above the average. -/
def pessimisticEstimate (sqrt : ℚ → ℚ) (g : GasOracle) : ℚ :=
  g.ewmGasPrice + 3 / 2 * g.stdDev sqrt

def setEthPrice (g : GasOracle) (ethPriceUsd : ℚ) : GasOracle :=
  { g with ethPriceUsd := ethPriceUsd }

/-- Units of gas at the pessimistic price; a gwei is `10⁻⁹` of an ether. -/
def estimatedCostUsd (sqrt : ℚ → ℚ) (g : GasOracle) (gasUnits : ℕ) : ℚ :=
  gasUnits * g.pessimisticEstimate sqrt * (1 / 10 ^ 9) * g.ethPriceUsd

/-- The profit that is left, and the cost. -/
def netProfitUsd (sqrt : ℚ → ℚ) (g : GasOracle) (grossProfitUsd : ℚ) (gasUnits : ℕ) : ℚ × ℚ :=
  let gasCost := g.estimatedCostUsd sqrt gasUnits
  (grossProfitUsd - gasCost, gasCost)

end GasOracle

def minNetProfitUsd : ℚ := 1 / 2
def maxGasProfitRatio : ℚ := 1 / 2

/-- Why a trade is not worth its gas. -/
inductive GasRefusal where
  | belowFloor (net gasCost pessimisticGwei : ℚ)
  | ratioTooHigh (gasCost ratio grossProfitUsd : ℚ)
deriving DecidableEq, Repr

/-- The texts of the refusals, the limits in them as the code has them. -/
def GasRefusal.text (fixed : ℕ → ℚ → String) : GasRefusal → String
  | .belowFloor net cost gwei =>
      "Net profit $" ++ fixed 3 net ++ " below floor $" ++ fixed 2 minNetProfitUsd ++
        " after gas cost $" ++ fixed 3 cost ++ " (" ++ fixed 1 gwei ++ " gwei pessimistic)"
  | .ratioTooHigh cost ratio gross =>
      "Gas $" ++ fixed 3 cost ++ " consumes " ++ fixed 1 (ratio * 100) ++
        "% of gross profit $" ++ fixed 3 gross ++ " (max " ++
        fixed 0 (maxGasProfitRatio * 100) ++ "%)"

/-- The profit that is left, if it is above the floor and gas does not take too large a part of it.
    A gross profit of zero or less never reaches the second test: with costs that are not negative
    it is below the floor already. -/
def safetyCheckWithGas (sqrt : ℚ → ℚ) (grossProfitUsd : ℚ) (gasUnits : ℕ) (oracle : GasOracle) :
    Except GasRefusal ℚ :=
  let (net, gasCost) := oracle.netProfitUsd sqrt grossProfitUsd gasUnits
  if net < minNetProfitUsd then
    .error (.belowFloor net gasCost (oracle.pessimisticEstimate sqrt))
  else if 0 < grossProfitUsd ∧ maxGasProfitRatio < gasCost / grossProfitUsd then
    .error (.ratioTooHigh gasCost (gasCost / grossProfitUsd) grossProfitUsd)
  else .ok net

end ArbEngine
