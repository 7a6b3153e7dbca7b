import Mathlib.Algebra.Order.Floor.Semiring
import Mathlib.Data.Rat.Floor
import Mathlib.Logic.Function.Basic
import ArbEngine.Core.Types

/-!
# The rate limiter (`exchange/src/client.rs`)

Requests wait for tokens before they are sent. The clock is read before the locks are taken, so
the sections in which tokens are taken may come in another order than the readings they use.

`LimitedTasks` is the limiter with the tasks that call `wait`: each is outside, at the head of
the loop (where it may have to sleep first), or holds a reading and waits for the locks. Times
are milliseconds on the monotonic clock.
-/

namespace ArbEngine

structure RateLimiter where
  capacity : ℚ
  tokens : ℚ
  lastFill : ℚ
  tokensPerMs : ℚ
deriving DecidableEq, Repr

/-- How one turn of the loop of `wait` ends. -/
inductive WaitTurn where
  | granted
  | sleep (waitMs : ℕ)
deriving DecidableEq, Repr

namespace RateLimiter

def new (maxWeightPerMinute : ℕ) (now : ℚ) : RateLimiter where
  capacity := maxWeightPerMinute
  tokens := maxWeightPerMinute
  lastFill := now
  tokensPerMs := maxWeightPerMinute / 60000

/-- The time of the last fill is left alone. -/
def updateFromHeaders (l : RateLimiter) (usedWeight : ℚ) : RateLimiter :=
  { l with tokens := max (l.capacity - usedWeight) 0 }

/-- What has come in since the last fill; `duration_since` of a later time is zero. -/
def refill (l : RateLimiter) (now : ℚ) : RateLimiter :=
  let elapsed := max (now - l.lastFill) 0
  let refill := elapsed * l.tokensPerMs
  if 0 < refill then
    { l with tokens := min (l.tokens + refill) l.capacity, lastFill := now }
  else l

/-- `(missing / tokens_per_ms).ceil() as u64`, at least one; nothing comes in at rate zero. -/
def waitMs (missing tokensPerMs : ℚ) : ℕ :=
  if tokensPerMs = 0 then 2 ^ 64 - 1
  else max (min ⌈missing / tokensPerMs⌉₊ (2 ^ 64 - 1)) 1

/-- One turn of the loop of `wait`, under both locks. -/
def attempt (l : RateLimiter) (weight : ℕ) (now : ℚ) : WaitTurn × RateLimiter :=
  let l := l.refill now
  if (weight : ℚ) ≤ l.tokens then (.granted, { l with tokens := l.tokens - weight })
  else (.sleep (waitMs (weight - l.tokens) l.tokensPerMs), l)

end RateLimiter

/-! ## Tasks -/

inductive WaitPhase where
  | outside
  | loopHead (weight : ℕ) (notBefore : ℚ)
  | hasRead (weight : ℕ) (now : ℚ)
deriving DecidableEq, Repr

/-- A turn that has been taken. -/
structure LimiterSection (τ : Type) where
  task : τ
  weight : ℕ
  now : ℚ
  granted : Bool
deriving DecidableEq, Repr

structure LimitedTasks (τ : Type) where
  limiter : RateLimiter
  clock : ℚ
  phase : τ → WaitPhase
  sections : List (LimiterSection τ)

inductive WaitEvent (τ : Type) where
  | elapse (ms : ℚ)
  | call (task : τ) (weight : ℕ)
  | readClock (task : τ)
  | enter (task : τ)
deriving DecidableEq, Repr

namespace LimitedTasks

variable {τ : Type} [DecidableEq τ]

/-- A new limiter, and nobody waiting. -/
def start (maxWeightPerMinute : ℕ) (now : ℚ) : LimitedTasks τ where
  limiter := RateLimiter.new maxWeightPerMinute now
  clock := now
  phase := fun _ => .outside
  sections := []

def withPhase (s : LimitedTasks τ) (task : τ) (phase : WaitPhase) : LimitedTasks τ :=
  { s with phase := Function.update s.phase task phase }

/-- A task that holds a reading gets the locks. -/
def enter (s : LimitedTasks τ) (task : τ) (weight : ℕ) (now : ℚ) : LimitedTasks τ :=
  match s.limiter.attempt weight now with
  | (.granted, limiter) =>
      { s.withPhase task .outside with
        limiter, sections := s.sections ++ [⟨task, weight, now, true⟩] }
  | (.sleep waitMs, limiter) =>
      { s.withPhase task (.loopHead weight (s.clock + waitMs)) with
        limiter, sections := s.sections ++ [⟨task, weight, now, false⟩] }

def step (s : LimitedTasks τ) : WaitEvent τ → Option (LimitedTasks τ)
  | .elapse ms => if 0 ≤ ms then some { s with clock := s.clock + ms } else none
  | .call task weight =>
      match s.phase task with
      | .outside => some (s.withPhase task (.loopHead weight s.clock))
      | _ => none
  | .readClock task =>
      match s.phase task with
      | .loopHead weight notBefore =>
          if notBefore ≤ s.clock then some (s.withPhase task (.hasRead weight s.clock)) else none
      | _ => none
  | .enter task =>
      match s.phase task with
      | .hasRead weight now => some (s.enter task weight now)
      | _ => none

end LimitedTasks

end ArbEngine
