import ArbEngine.Chain.Signing
import ArbEngine.Lib.Json

/-!
# Sending a transaction and waiting for it (`chain/src/client.rs`, `chain/src/builder.rs`)

`send_and_wait` hands the signed bytes to the node and then asks for the receipt of the hash it
was given, until there is one or two minutes have passed. Each of the two goes through the retries
of the client. What the node answers depends on how often it has been asked.
-/

namespace ArbEngine

/-- The receipt of a node, as far as the client reads it. -/
structure NodeReceipt where
  blockNumber : Option (BitVec 64)
  status : Bool
  gasUsed : BitVec 64
  effectiveGasPrice : U128
deriving DecidableEq, Repr

structure TransactionReceipt where
  txHash : String
  blockNumber : BitVec 64
  status : Bool
  gasUsed : BitVec 64
  effectiveGasPrice : U256
  logs : List Json

/-- `format!("{:?}", hash)`. -/
def debugHash (hash : B256) : String :=
  "0x" ++ String.ofList
    ((List.range 64).map fun i => Nat.digitChar (hash.toNat / 16 ^ (63 - i) % 16))

namespace TransactionReceipt

/-- The logs are dropped. -/
def ofNode (hash : B256) (receipt : NodeReceipt) : TransactionReceipt where
  txHash := debugHash hash
  blockNumber := receipt.blockNumber.getD 0
  status := receipt.status
  gasUsed := receipt.gasUsed
  effectiveGasPrice := receipt.effectiveGasPrice.setWidth 256
  logs := []

end TransactionReceipt

/-- What a node answers its calls of each kind, counted from zero. -/
structure ChainNode where
  sendRawTransaction : ℕ → List UInt8 → Except String B256
  getTransactionReceipt : ℕ → B256 → Except String (Option NodeReceipt)

/-- What a wait has done: how often it has asked, and its answer. -/
structure Polls (α : Type) where
  calls : ℕ
  result : Fueled (Except ChainError α)

namespace ChainClient

def sendTransaction (client : ChainClient) (node : ChainNode) (signedTx : List UInt8) :
    Retries B256 :=
  client.executeWithRetry fun i => (node.sendRawTransaction i signedTx).mapError .rpcError

def getReceipt (client : ChainClient) (node : ChainNode) (txHash : B256) :
    Retries (Option TransactionReceipt) :=
  client.executeWithRetry fun i => do
    let receipt ← (node.getTransactionReceipt i txHash).mapError .rpcError
    return receipt.map (TransactionReceipt.ofNode txHash)

/-- The loop of `wait_for_tx`, with `left` attempts to go. -/
def pollTx (node : ChainNode) (txHash : B256) : ℕ → ℕ → Polls Bool
  | 0, calls => { calls, result := Fueled.ended (.ok (.error .timeout)) }
  | left + 1, calls =>
      match node.getTransactionReceipt calls txHash with
      | .ok (some receipt) =>
          { calls := calls + 1, result := Fueled.ended (.ok (.ok receipt.status)) }
      | .ok none => pollTx node txHash left (calls + 1)
      | .error _ => pollTx node txHash left (calls + 1)

def waitForTx (node : ChainNode) (txHash : B256) : Polls Bool := pollTx node txHash 15 0

/-- `Duration::from_secs`, in nanoseconds. -/
def fromSecs (secs : ℕ) : ℕ := secs * 1000000000

/-- The timeout of `wait_for_receipt`. -/
def receiptTimeout : ℕ := fromSecs 120

/-- The loop of `wait_for_receipt` from iteration `i` on, when the node has been asked `calls`
    times; `elapsed` is what the clock shows at the start of an iteration. -/
def pollReceipt (client : ChainClient) (node : ChainNode) (elapsed : ℕ → ℕ) (txHash : B256) :
    ℕ → ℕ → ℕ → Polls TransactionReceipt
  | 0, _, calls => { calls, result := none }
  | fuel + 1, i, calls =>
      if receiptTimeout < elapsed i then
        { calls, result := Fueled.ended (.ok (.error .timeout)) }
      else
        let run := client.executeWithRetry fun k =>
          (node.getTransactionReceipt (calls + k) txHash).mapError .rpcError
        match run.result with
        | some (.ok (.ok (some receipt))) =>
            { calls := calls + run.calls
              result := Fueled.ended (.ok (.ok (TransactionReceipt.ofNode txHash receipt))) }
        | some (.ok (.ok none)) =>
            pollReceipt client node elapsed txHash fuel (i + 1) (calls + run.calls)
        | some (.ok (.error e)) =>
            { calls := calls + run.calls, result := Fueled.ended (.ok (.error e)) }
        | some (.err msg) => { calls := calls + run.calls, result := Fueled.ended (.err msg) }
        | some .panic => { calls := calls + run.calls, result := Fueled.ended .panic }
        | none => { calls := calls + run.calls, result := none }

def waitForReceipt (client : ChainClient) (node : ChainNode) (elapsed : ℕ → ℕ) (txHash : B256)
    (fuel : ℕ) : Polls TransactionReceipt :=
  client.pollReceipt node elapsed txHash fuel 0 0

end ChainClient

/-! ## The builder -/

/-- What `send_and_wait` has done: the bytes it submitted and how often, how often it has asked
    for the receipt, and its answer. -/
structure SendAndWait where
  payload : Option (List UInt8)
  submissions : ℕ
  polls : ℕ
  result : Fueled (Except ChainError TransactionReceipt)

namespace TransactionBuilder

variable {Signature : Type}

def send (b : TransactionBuilder) (signer : Signer Signature) (client : ChainClient)
    (chain : ChainAnswers) (node : ChainNode) : Retries B256 :=
  match b.buildAndSign signer chain with
  | .ok (.ok signedTx) => client.sendTransaction node signedTx
  | .ok (.error e) => { calls := 0, waits := [], result := Fueled.ended (.ok (.error e)) }
  | .err msg => { calls := 0, waits := [], result := Fueled.ended (.err msg) }
  | .panic => { calls := 0, waits := [], result := Fueled.ended .panic }

def signedBytes : Outcome (Except ChainError (List UInt8)) → Option (List UInt8)
  | .ok (.ok signedTx) => some signedTx
  | _ => none

theorem signedBytes_eq_some {x : Outcome (Except ChainError (List UInt8))}
    {signedTx : List UInt8} : signedBytes x = some signedTx ↔ x = .ok (.ok signedTx) := by
  unfold signedBytes
  split
  · simp
  · rename_i other
    simp only [reduceCtorEq, false_iff]
    exact other signedTx

/-- The payload is for the record. -/
def sendAndWait (b : TransactionBuilder) (signer : Signer Signature) (client : ChainClient)
    (chain : ChainAnswers) (node : ChainNode) (elapsed : ℕ → ℕ) (fuel : ℕ) : SendAndWait :=
  let sent := b.send signer client chain node
  let payload := signedBytes (b.buildAndSign signer chain)
  match sent.result with
  | some (.ok (.ok txHash)) =>
      let wait := client.waitForReceipt node elapsed txHash fuel
      { payload, submissions := sent.calls, polls := wait.calls, result := wait.result }
  | some (.ok (.error e)) =>
      { payload, submissions := sent.calls, polls := 0, result := Fueled.ended (.ok (.error e)) }
  | some (.err msg) =>
      { payload, submissions := sent.calls, polls := 0, result := Fueled.ended (.err msg) }
  | some .panic =>
      { payload, submissions := sent.calls, polls := 0, result := Fueled.ended .panic }
  | none => { payload, submissions := sent.calls, polls := 0, result := none }

end TransactionBuilder

end ArbEngine
