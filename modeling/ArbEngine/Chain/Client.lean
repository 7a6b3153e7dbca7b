import ArbEngine.Core.Types
import ArbEngine.Lib.Fueled

/-!
# Errors and retries of the chain client (`chain/src/client.rs`, `chain/src/error.rs`)
-/

namespace ArbEngine

inductive ChainError where
  | rpcError (msg : String)
  | transactionFailed (txHash : String)
  | insufficientFunds
  | nonceTooLow
  | replacementUnderpriced
  | internal (msg : String)
  | timeout
deriving DecidableEq, Repr

/-- `msg.to_lowercase().contains(phrase)`, for a phrase of ASCII characters. -/
def mentions (msg phrase : String) : Bool :=
  (msg.toList.map Char.toLower).tails.any (phrase.toList.isPrefixOf ·)

def retryablePhrases : List String :=
  ["429", "503", "502", "timeout", "connection reset", "rate limit", "server busy",
    "missing trie node"]

def ChainError.isRetryable : ChainError → Bool
  | .timeout => true
  | .rpcError msg => retryablePhrases.any (mentions msg ·)
  | _ => false

/-- `max_retries` of a client. -/
def maxRetries : ℕ := 3

/-- Whether `execute_with_retry` calls again after its call number `attempt`, counted from
    zero, came back with `e`. -/
def callsAgain (attempt : ℕ) (e : ChainError) : Bool :=
  !(maxRetries < attempt + 1 || !e.isRetryable)

/-! ## The loop -/

structure ChainClient where
  maxRetries : U32
  baseBackoffMs : BitVec 64
deriving DecidableEq, Repr

/-- What a call of `execute_with_retry` has done: the calls it has made, how long it has slept
    after each but the last, and its answer. -/
structure Retries (α : Type) where
  calls : ℕ
  waits : List (BitVec 64)
  result : Fueled (Except ChainError α)

namespace ChainClient

def new : ChainClient where
  maxRetries := 3
  baseBackoffMs := 500

/-- `base_backoff_ms * 2u64.pow(attempt - 1)`; the power has 64 bits. -/
def backoff (client : ChainClient) (attempt : U32) : Outcome (BitVec 64) := do
  let exponent ← Outcome.unwrap (Word.checkedSub attempt 1#32)
  Outcome.guardPanic (exponent.toNat < 64)
  Outcome.unwrap (Word.checkedMul client.baseBackoffMs (BitVec.ofNat 64 (2 ^ exponent.toNat)))

/-- The loop, for at most `fuel` iterations; `f` answers its calls, counted from zero. -/
def retry {α : Type} (client : ChainClient) (f : ℕ → Except ChainError α) :
    ℕ → U32 → Retries α
  | 0, _ => { calls := 0, waits := [], result := none }
  | fuel + 1, attempt =>
      -- Every iteration before this one has called `f` and counted an attempt.
      match f attempt.toNat with
      | .ok value => { calls := 1, waits := [], result := Fueled.ended (.ok (.ok value)) }
      | .error e =>
          match Word.checkedAdd attempt 1#32 with
          | none => { calls := 1, waits := [], result := Fueled.ended .panic }
          | some attempt =>
              if client.maxRetries < attempt ∨ !e.isRetryable then
                { calls := 1, waits := [], result := Fueled.ended (.ok (.error e)) }
              else
                match client.backoff attempt with
                | .ok backoff =>
                    let rest := retry client f fuel attempt
                    { rest with calls := rest.calls + 1, waits := backoff :: rest.waits }
                | _ => { calls := 1, waits := [], result := Fueled.ended .panic }

def executeWithRetry {α : Type} (client : ChainClient) (f : ℕ → Except ChainError α) :
    Retries α :=
  client.retry f (client.maxRetries.toNat + 1) 0#32

end ChainClient

end ArbEngine
