import ArbEngine.Strategy.Signal

/-!
# Risk limits and the kill switch (`executor/src/position_limits.rs`, `safety.rs`, `kill_switch.rs`)

Three layers of limits: the configured ones of `RiskManager`, the constants of
`safety_check`, and the switch that is to stop the bot for good when one of them is reached.

A refusal is a constructor with the numbers its text prints; `text` takes the number format
`{:.n}` as an argument.
-/

namespace ArbEngine

/-- The configured limits, the `risk` section of `strategy.yml`. Three of them are read nowhere:
    the two on positions and the one on the loss of a single trade. -/
structure RiskLimits where
  maxTradeUsd : ℚ
  maxTradePct : ℚ
  maxPositionPerToken : ℚ
  maxOpenPositions : ℕ
  maxDailyLoss : ℚ
  maxDrawdownPct : ℚ
  maxLossPerTrade : ℚ
  maxTradesPerHour : ℕ
  consecutiveLossLimit : ℕ
deriving DecidableEq, Repr

instance : Inhabited RiskLimits :=
  ⟨{ maxTradeUsd := 20
     maxTradePct := 1 / 5
     maxPositionPerToken := 30
     maxOpenPositions := 1
     maxDailyLoss := 15
     maxDrawdownPct := 1 / 5
     maxLossPerTrade := 5
     maxTradesPerHour := 20
     consecutiveLossLimit := 3 }⟩

/-- What the limits are compared with. `initialCapital` does not stay what it was at the start:
    every `setCapital` moves it, and with it the share of the capital that a trade may take. -/
structure RiskManager where
  limits : RiskLimits
  peakCapital : ℚ
  currentCapital : ℚ
  dailyPnl : ℚ
  tradesThisHour : ℕ
  consecutiveLosses : ℕ
  initialCapital : ℚ
deriving DecidableEq, Repr

/-- Why `check_pre_trade` refuses a signal. -/
inductive RiskRefusal where
  | tradeTooLarge (tradeValue maxTradeUsd : ℚ)
  | tradeShareTooLarge (tradeValue maxTradePct : ℚ)
  | dailyLoss (dailyPnl maxDailyLoss : ℚ)
  | drawdown (drawdown maxDrawdownPct : ℚ)
  | consecutiveLosses (limit : ℕ)
  | hourlyTrades (limit : ℕ)
deriving DecidableEq, Repr

namespace RiskRefusal

def text (fixed : ℕ → ℚ → String) : RiskRefusal → String
  | tradeTooLarge value limit =>
      "Trade $" ++ fixed 2 value ++ " exceeds max $" ++ fixed 2 limit
  | tradeShareTooLarge value pct =>
      "Trade $" ++ fixed 2 value ++ " exceeds " ++ fixed 1 (pct * 100) ++ "% of capital"
  | dailyLoss pnl limit =>
      "Daily loss limit reached: $" ++ fixed 2 pnl ++ " (max $" ++ fixed 2 limit ++ ")"
  | drawdown d pct =>
      "Drawdown " ++ fixed 1 (d * 100) ++ "% exceeds limit " ++ fixed 1 (pct * 100) ++ "%"
  | consecutiveLosses limit => "Consecutive loss limit (" ++ toString limit ++ ") reached"
  | hourlyTrades limit => "Hourly trade limit reached (" ++ toString limit ++ ")"

/-- `reason.contains("Daily loss limit")`: of the six texts one has these words. -/
def mentionsDailyLossLimit : RiskRefusal → Bool
  | dailyLoss _ _ => true
  | _ => false

end RiskRefusal

namespace RiskManager

def new (limits : RiskLimits) (initialCapital : ℚ) : RiskManager where
  limits := limits
  peakCapital := initialCapital
  currentCapital := initialCapital
  dailyPnl := 0
  tradesThisHour := 0
  consecutiveLosses := 0
  initialCapital := initialCapital

/-- The share of the peak that is gone. -/
def drawdown (r : RiskManager) : ℚ :=
  if 0 < r.peakCapital then (r.peakCapital - r.currentCapital) / r.peakCapital else 0

/-- The limits of the configuration, in the order in which the source asks them; the first that is
    exceeded is the answer. The value of a trade is its size at the price of the exchange,
    whichever venue it is bought on. -/
def checkPreTrade (r : RiskManager) (signal : Signal) : Except RiskRefusal Unit :=
  let tradeValue := signal.size * signal.cexPrice
  if r.limits.maxTradeUsd < tradeValue then
    .error (.tradeTooLarge tradeValue r.limits.maxTradeUsd)
  else if r.initialCapital * r.limits.maxTradePct < tradeValue then
    .error (.tradeShareTooLarge tradeValue r.limits.maxTradePct)
  else if r.dailyPnl ≤ -r.limits.maxDailyLoss then
    .error (.dailyLoss r.dailyPnl r.limits.maxDailyLoss)
  -- Without a positive peak the drawdown is not looked at.
  else if 0 < r.peakCapital ∧ r.limits.maxDrawdownPct ≤ r.drawdown then
    .error (.drawdown r.drawdown r.limits.maxDrawdownPct)
  else if r.limits.consecutiveLossLimit ≤ r.consecutiveLosses then
    .error (.consecutiveLosses r.limits.consecutiveLossLimit)
  else if r.limits.maxTradesPerHour ≤ r.tradesThisHour then
    .error (.hourlyTrades r.limits.maxTradesPerHour)
  else .ok ()

/-- **What an allowed signal has passed**, and it is all that is asked of one. The two limits on
    positions and the one on the loss of a single trade are not among them. -/
theorem checkPreTrade_eq_ok {r : RiskManager} {signal : Signal} :
    r.checkPreTrade signal = .ok () ↔
      signal.size * signal.cexPrice ≤ r.limits.maxTradeUsd ∧
        signal.size * signal.cexPrice ≤ r.initialCapital * r.limits.maxTradePct ∧
        -r.limits.maxDailyLoss < r.dailyPnl ∧
        (0 < r.peakCapital → r.drawdown < r.limits.maxDrawdownPct) ∧
        r.consecutiveLosses < r.limits.consecutiveLossLimit ∧
        r.tradesThisHour < r.limits.maxTradesPerHour := by
  unfold checkPreTrade
  constructor
  · -- one `split` for each limit, in the order of the source; a branch that refuses is no `.ok ()`
    intro h
    simp only at h
    split at h
    · cases h
    · split at h
      · cases h
      · split at h
        · cases h
        · split at h
          · cases h
          · split at h
            · cases h
            · split at h
              · cases h
              · rename_i hvalue hshare hloss hdraw hstreak hhour
                refine ⟨not_lt.mp hvalue, not_lt.mp hshare, not_le.mp hloss, ?_,
                  not_le.mp hstreak, not_le.mp hhour⟩
                -- without a peak there is no drawdown to compare
                intro hpeak
                exact not_le.mp fun hle => hdraw ⟨hpeak, hle⟩
  · intro ⟨hvalue, hshare, hloss, hdraw, hstreak, hhour⟩
    simp only
    rw [if_neg (not_lt.mpr hvalue), if_neg (not_lt.mpr hshare), if_neg (not_le.mpr hloss),
      if_neg (fun h => not_le.mpr (hdraw h.1) h.2), if_neg (not_le.mpr hstreak),
      if_neg (not_le.mpr hhour)]

/-- A trade with its PnL. Anything that is not a loss ends a losing streak, a trade of no profit
    too, and it counts as a trade of the hour whether it was executed or not. -/
def recordTrade (r : RiskManager) (pnl : ℚ) : RiskManager :=
  let currentCapital := r.currentCapital + pnl
  { r with
    dailyPnl := r.dailyPnl + pnl
    currentCapital := currentCapital
    peakCapital := if r.peakCapital < currentCapital then currentCapital else r.peakCapital
    tradesThisHour := r.tradesThisHour + 1
    consecutiveLosses := if pnl < 0 then r.consecutiveLosses + 1 else 0 }

/-- The capital is set, to the peak as well: the drawdown starts again. -/
def setCapital (r : RiskManager) (capital : ℚ) : RiskManager :=
  { r with initialCapital := capital, currentCapital := capital, peakCapital := capital }

/-- The reset at midnight. It sets the count of the hour back, which nothing else does. -/
def resetDaily (r : RiskManager) : RiskManager :=
  { r with dailyPnl := 0, tradesThisHour := 0, consecutiveLosses := 0 }

end RiskManager

/-! ## The absolute limits -/

def absoluteMaxTradeUsd : ℚ := 25
def absoluteMaxDailyLoss : ℚ := 20
def absoluteMinCapital : ℚ := 50
def absoluteMaxTradesPerHour : ℕ := 30

inductive SafetyRefusal where
  | tradeTooLarge (tradeUsd : ℚ)
  | dailyLoss
  | capitalBelowMinimum (totalCapital : ℚ)
  | hourlyTrades
deriving DecidableEq, Repr

def SafetyRefusal.text (fixed : ℕ → ℚ → String) : SafetyRefusal → String
  | .tradeTooLarge usd => "Trade $" ++ fixed 0 usd ++ " exceeds absolute max"
  | .dailyLoss => "Absolute daily loss limit reached"
  | .capitalBelowMinimum capital => "Capital $" ++ fixed 0 capital ++ " below minimum"
  | .hourlyTrades => "Absolute hourly trade limit reached"

/-- The last line: constants that no configuration can change. -/
def safetyCheck (tradeUsd dailyLoss totalCapital : ℚ) (tradesThisHour : ℕ) :
    Except SafetyRefusal Unit :=
  if absoluteMaxTradeUsd < tradeUsd then .error (.tradeTooLarge tradeUsd)
  else if dailyLoss ≤ -absoluteMaxDailyLoss then .error .dailyLoss
  else if totalCapital < absoluteMinCapital then .error (.capitalBelowMinimum totalCapital)
  else if absoluteMaxTradesPerHour ≤ tradesThisHour then .error .hourlyTrades
  else .ok ()

theorem safetyCheck_eq_ok {tradeUsd dailyLoss totalCapital : ℚ} {tradesThisHour : ℕ}
    (h : safetyCheck tradeUsd dailyLoss totalCapital tradesThisHour = .ok ()) :
    tradeUsd ≤ absoluteMaxTradeUsd ∧ -absoluteMaxDailyLoss < dailyLoss ∧
      absoluteMinCapital ≤ totalCapital ∧ tradesThisHour < absoluteMaxTradesPerHour := by
  unfold safetyCheck at h
  split at h
  · cases h
  · split at h
    · cases h
    · split at h
      · cases h
      · split at h
        · cases h
        · rename_i hvalue hloss hcapital hhour
          exact ⟨not_lt.mp hvalue, not_le.mp hloss, not_lt.mp hcapital, not_le.mp hhour⟩

/-! ## The kill switch -/

/-- What the switch is triggered with. -/
inductive KillReason where
  | capitalHalved
  | dailyLoss
  | drawdown (drawdown : ℚ)
  | consecutiveLosses (limit : ℕ)
  | hourlyTrades (limit : ℕ)
  | errorFrequency
  | riskBlocked (reason : RiskRefusal)
  | absoluteSafety (reason : SafetyRefusal)
  | dexIntegrity
  | cexIntegrity
deriving DecidableEq, Repr

def KillReason.text (fixed : ℕ → ℚ → String) : KillReason → String
  | .capitalHalved => "Capital dropped below 50% of initial"
  | .dailyLoss => "Daily loss limit reached"
  | .drawdown d => "Drawdown " ++ fixed 1 (d * 100) ++ "% exceeds limit"
  | .consecutiveLosses limit => "Consecutive loss limit (" ++ toString limit ++ ") reached"
  | .hourlyTrades limit => "Hourly trade limit (" ++ toString limit ++ ") reached"
  | .errorFrequency => "Critical error frequency (>50/hour)"
  | .riskBlocked reason => "Daily loss limit reached: " ++ reason.text fixed
  | .absoluteSafety reason => "Absolute safety triggered: " ++ reason.text fixed
  | .dexIntegrity => "DEX Integrity Failure"
  | .cexIntegrity => "CEX Integrity Failure"

structure AutoKillSwitch where
  triggered : Bool
  reason : Option KillReason
deriving DecidableEq, Repr

namespace AutoKillSwitch

def new : AutoKillSwitch where
  triggered := false
  reason := none

/-- The first reason is kept, a later one is dropped. -/
def trigger (k : AutoKillSwitch) (reason : KillReason) : AutoKillSwitch :=
  if k.triggered then k else { triggered := true, reason := some reason }

/-- The first of the limits that is reached. Unlike `checkPreTrade` it looks at what has happened
    and not at a trade, so it can fire between two trades. -/
def reached (r : RiskManager) (errorCountLastHour : ℕ) : Option KillReason :=
  if r.currentCapital < r.initialCapital * (1 / 2) then some .capitalHalved
  else if r.dailyPnl ≤ -r.limits.maxDailyLoss then some .dailyLoss
  else if r.limits.maxDrawdownPct ≤ r.drawdown then some (.drawdown r.drawdown)
  else if r.limits.consecutiveLossLimit ≤ r.consecutiveLosses then
    some (.consecutiveLosses r.limits.consecutiveLossLimit)
  else if r.limits.maxTradesPerHour ≤ r.tradesThisHour then
    some (.hourlyTrades r.limits.maxTradesPerHour)
  else if 50 < errorCountLastHour then some .errorFrequency
  else none

/-- `check`: the answer, and the switch afterwards. -/
def check (k : AutoKillSwitch) (r : RiskManager) (errorCountLastHour : ℕ) :
    Bool × AutoKillSwitch :=
  if k.triggered then (true, k)
  else
    match reached r errorCountLastHour with
    | some reason => (true, k.trigger reason)
    | none => (false, k)

@[simp] theorem trigger_triggered (k : AutoKillSwitch) (reason : KillReason) :
    (k.trigger reason).triggered = true := by
  unfold trigger
  by_cases h : k.triggered = true
  · rw [if_pos h]
    exact h
  · rw [if_neg h]

/-- A triggered switch keeps its first reason. -/
theorem trigger_of_triggered {k : AutoKillSwitch} (h : k.triggered = true) (reason : KillReason) :
    k.trigger reason = k := by
  rw [trigger, if_pos h]

/-- `check` answers with the flag it leaves behind. -/
theorem check_fst (k : AutoKillSwitch) (r : RiskManager) (n : ℕ) :
    (k.check r n).1 = (k.check r n).2.triggered := by
  unfold check
  by_cases h : k.triggered = true
  · rw [if_pos h]
    exact h.symm
  · rw [if_neg h]
    cases reached r n with
    | some reason => exact (trigger_triggered k reason).symm
    | none => exact (Bool.not_eq_true _ ▸ h).symm

/-- A check that does not fire leaves a switch that was not triggered as it was. -/
theorem check_false {k : AutoKillSwitch} {r : RiskManager} {n : ℕ} (h : (k.check r n).1 = false) :
    k.triggered = false ∧ (k.check r n).2 = k := by
  unfold check at h ⊢
  by_cases hk : k.triggered = true
  · rw [if_pos hk] at h
    cases h
  · rw [if_neg hk] at h ⊢
    cases hr : reached r n with
    | some reason =>
      rw [hr] at h
      cases h
    | none => exact ⟨Bool.not_eq_true _ ▸ hk, rfl⟩

end AutoKillSwitch

end ArbEngine
