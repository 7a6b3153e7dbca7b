import ArbEngine.Strategy.Signal

/-!
# Circuit breaker and replay protection (`executor/src/recovery.rs`)

Both read the clock; the reading is an argument here. Seconds are rationals.
-/

namespace ArbEngine

structure CircuitBreakerConfig where
  failureThreshold : ℕ
  windowSeconds : ℚ
  cooldownSeconds : ℚ
deriving DecidableEq, Repr

instance : Inhabited CircuitBreakerConfig :=
  ⟨{ failureThreshold := 3, windowSeconds := 300, cooldownSeconds := 600 }⟩

structure CircuitBreaker where
  config : CircuitBreakerConfig
  failures : List ℚ
  trippedAt : Option ℚ
deriving DecidableEq, Repr

namespace CircuitBreaker

def new (config : Option CircuitBreakerConfig) : CircuitBreaker where
  config := config.getD default
  failures := []
  trippedAt := none

def trip (cb : CircuitBreaker) (now : ℚ) : CircuitBreaker :=
  if cb.trippedAt.isNone then { cb with trippedAt := some now } else cb

/-- Failures leave the queue from the front, up to the first recent one. -/
def cleanupOldFailures (cb : CircuitBreaker) (now : ℚ) : CircuitBreaker :=
  { cb with failures := cb.failures.dropWhile (· ≤ now - cb.config.windowSeconds) }

def recordFailure (cb : CircuitBreaker) (now : ℚ) : CircuitBreaker :=
  let cb := { cb with failures := cb.failures ++ [now] }.cleanupOldFailures now
  if cb.config.failureThreshold ≤ cb.failures.length then cb.trip now else cb

def recordSuccess (cb : CircuitBreaker) : CircuitBreaker := cb

def reset (cb : CircuitBreaker) : CircuitBreaker :=
  { cb with trippedAt := none, failures := [] }

/-- Whether the breaker is open, and the breaker afterwards: an open breaker whose cooldown is
    over resets itself when it is asked. -/
def isOpen (cb : CircuitBreaker) (now : ℚ) : Bool × CircuitBreaker :=
  match cb.trippedAt with
  | some trippedAt =>
      if cb.config.cooldownSeconds < now - trippedAt then (false, cb.reset) else (true, cb)
  | none => (false, cb)

end CircuitBreaker

structure ReplayProtection where
  executed : String → Option ℚ
  ttlSeconds : ℚ

namespace ReplayProtection

def new (ttlSeconds : ℚ) : ReplayProtection where
  executed := fun _ => none
  ttlSeconds := ttlSeconds

/-- `retain`: only marks younger than the time to live stay. -/
def cleanup (rp : ReplayProtection) (now : ℚ) : ReplayProtection :=
  { rp with executed := fun id => (rp.executed id).filter (now - rp.ttlSeconds < ·) }

def isDuplicate (rp : ReplayProtection) (signal : Signal) (now : ℚ) : Bool × ReplayProtection :=
  let rp := rp.cleanup now
  ((rp.executed signal.signalId).isSome, rp)

def markExecuted (rp : ReplayProtection) (signal : Signal) (now : ℚ) : ReplayProtection :=
  { rp with
    executed := fun id => if id = signal.signalId then some now else rp.executed id }

end ReplayProtection

end ArbEngine
