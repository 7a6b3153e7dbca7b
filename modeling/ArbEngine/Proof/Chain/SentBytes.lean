import ArbEngine.Proof.Chain.Sending

/-!
# What is submitted is what was asked for

`build_and_sign` gives bytes, and `send_and_wait` submits them, again and again while the node is
busy. On the way from the builder to the bytes a request is completed (`build`), made an EIP-1559
transaction, hashed, signed and encoded; whoever decodes the bytes should find what the builder
was told (`Attempt.Asked`).

A submission that is repeated carries the same bytes, number and all, so the repetitions of one
attempt are one transaction. That nothing else is submitted is said without a record of the
submissions: two nodes that answer alike to these bytes cannot be told apart by the attempt
(`Attempt.SubmitsOnly`), whatever they would answer to any others.
-/

namespace ArbEngine

variable {Signature : Type} {signer : Signer Signature} {bytes signedTx : List UInt8}
  {read : List UInt8 → Option (Address × TxEip1559)}

/-- What the libraries promise: signed bytes are read as the transaction and its sender. -/
def Signer.ReadBy (signer : Signer Signature) (read : List UInt8 → Option (Address × TxEip1559)) :
    Prop :=
  ∀ tx signature, signer.signHashSync (signer.signatureHash tx) = .ok signature →
    read (signer.encode2718 tx signature) = some (signer.address, tx)

/-- A builder and what the node answered it. -/
structure Attempt where
  builder : TransactionBuilder
  chain : ChainAnswers

/-- The transaction is what the builder was told to send. -/
structure Attempt.Asked (a : Attempt) (tx : TxEip1559) : Prop where
  target : a.builder.toAddress = some tx.toAddress
  value : tx.value = a.builder.value.elim 0 TokenAmount.raw
  data : tx.input = a.builder.data
  chainId : tx.chainId = a.builder.chainId
  nonce : a.builder.nonce.elim (a.chain.getNonce a.builder.wallet) .ok = .ok tx.nonce
  gasLimit : ∀ limit, a.builder.gasLimit = some limit → tx.gasLimit = limit

namespace TransactionBuilder

variable {b : TransactionBuilder} {chain : ChainAnswers} {tx built : TransactionRequest}

/-- An estimate leaves all but the gas limit as it was, and a limit that was set too. -/
theorem withEstimate_cases (h : b.withEstimate chain tx = .ok built) :
    built = tx ∨ tx.gasLimit = none ∧ ∃ limit, built = { tx with gasLimit := some limit } := by
  unfold withEstimate at h
  split at h
  · rename_i due
    rw [Bool.and_eq_true, Option.isNone_iff_eq_none] at due
    cases estimated : chain.estimateGas tx with
    | error e =>
      rw [estimated] at h
      cases h
    | ok gas =>
      rw [estimated] at h
      exact .inr ⟨due.2, _, (Except.ok.inj h).symm⟩
  · exact .inl (Except.ok.inj h).symm

/-- The steps of a build that succeeded. -/
theorem build_eq_ok (h : b.build chain = .ok (.ok built)) :
    ∃ toAddress nonce info maxFee, b.toAddress = some toAddress ∧
      b.nonce.elim (chain.getNonce b.wallet) .ok = .ok nonce ∧
      b.withEstimate chain (b.request toAddress nonce info maxFee) = .ok built := by
  unfold build at h
  cases hto : b.toAddress with
  | none =>
    rw [hto] at h
    cases h
  | some toAddress =>
    rw [hto] at h
    dsimp only at h
    cases hnonce : b.nonce.elim (chain.getNonce b.wallet) .ok with
    | error e =>
      rw [hnonce] at h
      cases h
    | ok nonce =>
      rw [hnonce] at h
      dsimp only at h
      cases hfee : chain.getGasPrice with
      | error e =>
        rw [hfee] at h
        cases h
      | ok baseFee =>
        rw [hfee] at h
        obtain ⟨maxFee, -, h⟩ := Outcome.bind_eq_ok.mp h
        exact ⟨toAddress, nonce, _, maxFee, rfl, rfl, Outcome.ok.inj h⟩

theorem asked_request {toAddress : Address} {nonce : BitVec 64} {info : GasPrice} {maxFee : U128}
    (target : b.toAddress = some toAddress)
    (number : b.nonce.elim (chain.getNonce b.wallet) .ok = .ok nonce) :
    Attempt.Asked { builder := b, chain }
      (b.request toAddress nonce info maxFee).toEip1559 where
  target := target
  value := by
    unfold request TransactionRequest.toEip1559
    cases b.value <;> rfl
  data := rfl
  chainId := rfl
  nonce := number
  gasLimit := by
    intro limit set
    unfold request TransactionRequest.toEip1559
    dsimp only
    rw [set]
    rfl

/-- **What is built is what was asked for**, under a number of its own. -/
theorem asked_of_build (h : b.build chain = .ok (.ok built)) :
    Attempt.Asked { builder := b, chain } built.toEip1559 := by
  obtain ⟨toAddress, nonce, info, maxFee, target, number, estimated⟩ := build_eq_ok h
  have asked : Attempt.Asked { builder := b, chain }
      (b.request toAddress nonce info maxFee).toEip1559 := asked_request target number
  rcases withEstimate_cases estimated with rfl | ⟨unset, limit, rfl⟩
  · exact asked
  · refine ⟨asked.target, asked.value, asked.data, asked.chainId, asked.nonce, ?_⟩
    intro limit' set
    change b.gasLimit = none at unset
    change b.gasLimit = some limit' at set
    rw [unset] at set
    cases set

/-- Bytes that were signed are those of a transaction that was built. -/
theorem read_of_buildAndSign (faithful : signer.ReadBy read)
    (h : b.buildAndSign signer chain = .ok (.ok signedTx)) :
    ∃ built, b.build chain = .ok (.ok built) ∧
      read signedTx = some (signer.address, built.toEip1559) := by
  unfold buildAndSign at h
  obtain ⟨answer, hbuild, h⟩ := Outcome.bind_eq_ok.mp h
  cases answer with
  | error e => cases h
  | ok built =>
    refine ⟨built, hbuild, ?_⟩
    dsimp only at h
    cases signed : signer.signHashSync (built.signingHash signer) with
    | error msg =>
      rw [Signer.signTransaction, signed] at h
      cases h
    | ok signature =>
      rw [Signer.signTransaction, signed] at h
      obtain rfl : built.encodeSigned signer signature = signedTx :=
        Except.ok.inj (Outcome.ok.inj h)
      exact faithful _ _ signed

/-- What `send_and_wait` submits is what was built and signed. -/
theorem payload_sendAndWait {client : ChainClient} {node : ChainNode} {elapsed : ℕ → ℕ}
    {fuel : ℕ} : (b.sendAndWait signer client chain node elapsed fuel).payload = some bytes ↔
      b.buildAndSign signer chain = .ok (.ok bytes) := by
  have payload : (b.sendAndWait signer client chain node elapsed fuel).payload =
      signedBytes (b.buildAndSign signer chain) := by
    unfold sendAndWait
    dsimp only
    split <;> rfl
  rw [payload, signedBytes_eq_some]

end TransactionBuilder

namespace Attempt

/-- `send_and_wait` of an attempt, against this node. -/
def sendAndWait (a : Attempt) (signer : Signer Signature) (client : ChainClient)
    (node : ChainNode) (elapsed : ℕ → ℕ) (fuel : ℕ) : SendAndWait :=
  a.builder.sendAndWait signer client a.chain node elapsed fuel

/-- The attempt has these bytes to submit. -/
def Signs (a : Attempt) (signer : Signer Signature) (bytes : List UInt8) : Prop :=
  a.builder.buildAndSign signer a.chain = .ok (.ok bytes)

/-- **Nothing but these bytes is submitted**: what a node answers to others makes no difference. -/
def SubmitsOnly (a : Attempt) (signer : Signer Signature) (client : ChainClient)
    (elapsed : ℕ → ℕ) (fuel : ℕ) (bytes : List UInt8) : Prop :=
  ∀ node node' : ChainNode,
    (∀ i, node.sendRawTransaction i bytes = node'.sendRawTransaction i bytes) →
    node.getTransactionReceipt = node'.getTransactionReceipt →
    a.sendAndWait signer client node elapsed fuel = a.sendAndWait signer client node' elapsed fuel

variable {a : Attempt} {client : ChainClient} {elapsed : ℕ → ℕ} {fuel : ℕ}

theorem send_of_signs (signs : a.Signs signer bytes) (node : ChainNode) :
    a.builder.send signer client a.chain node = client.sendTransaction node bytes := by
  unfold TransactionBuilder.send
  rw [signs]

theorem submitsOnly_of_signs (signs : a.Signs signer bytes) :
    a.SubmitsOnly signer client elapsed fuel bytes := by
  intro node node' alike receipts
  have sent : client.sendTransaction node bytes = client.sendTransaction node' bytes := by
    unfold ChainClient.sendTransaction
    simp only [alike]
  -- The wait asks for receipts only.
  have waited : ∀ calls left hash i, client.pollReceipt node elapsed hash left i calls =
      client.pollReceipt node' elapsed hash left i calls := by
    intro calls left hash i
    induction left generalizing i calls with
    | zero => rfl
    | succ left ih => simp only [ChainClient.pollReceipt, receipts, ih]
  unfold sendAndWait TransactionBuilder.sendAndWait ChainClient.waitForReceipt
  simp only [send_of_signs signs, sent, waited]

/-- Without bytes the node is not asked to send any. -/
theorem silent_of_unsigned (unsigned : ∀ bytes, ¬ a.Signs signer bytes) (node : ChainNode) :
    (a.sendAndWait signer client node elapsed fuel).submissions = 0 ∧
      (a.sendAndWait signer client node elapsed fuel).payload = none := by
  unfold sendAndWait TransactionBuilder.sendAndWait TransactionBuilder.send
  cases built : a.builder.buildAndSign signer a.chain with
  | panic => exact ⟨rfl, rfl⟩
  | err msg => exact ⟨rfl, rfl⟩
  | ok answer =>
    cases answer with
    | error e => exact ⟨rfl, rfl⟩
    | ok bytes => exact absurd built (unsigned bytes)

/-- The bytes of an attempt are those of a transaction it was asked for. -/
theorem asked_of_signs (faithful : signer.ReadBy read) (signs : a.Signs signer bytes) :
    ∃ tx, read bytes = some (signer.address, tx) ∧ a.Asked tx := by
  obtain ⟨built, hbuild, hread⟩ := TransactionBuilder.read_of_buildAndSign faithful signs
  exact ⟨built.toEip1559, hread, TransactionBuilder.asked_of_build hbuild⟩

end Attempt

/-- What the submissions of an attempt are: either there are none, or all of them are of bytes
    that are read as one transaction of the wallet, which is what the builder was asked for. Any
    other attempt that comes to the same bytes was asked for the same transaction. -/
inductive Attempt.Sent (a : Attempt) (signer : Signer Signature) (client : ChainClient)
    (read : List UInt8 → Option (Address × TxEip1559)) (elapsed : ℕ → ℕ) (fuel : ℕ) : Prop
  | nothing (silent : ∀ node, (a.sendAndWait signer client node elapsed fuel).submissions = 0 ∧
      (a.sendAndWait signer client node elapsed fuel).payload = none)
  | bytes {bytes : List UInt8} {tx : TxEip1559}
      (payload : ∀ node, (a.sendAndWait signer client node elapsed fuel).payload = some bytes)
      (only : a.SubmitsOnly signer client elapsed fuel bytes)
      (read_back : read bytes = some (signer.address, tx))
      (asked : a.Asked tx)
      (same : ∀ a' : Attempt, a'.Signs signer bytes → a'.Asked tx)

def transferTx : TxEip1559 where
  chainId := 42161
  nonce := 7
  maxPriorityFeePerGas := 2000000000
  maxFeePerGas := 2120000000
  gasLimit := 21000
  toAddress := 3
  value := 0
  input := [10, 20]

/-- Signs this transaction only. -/
def transferSigner : Signer Unit where
  address := 1
  signatureHash := fun tx => if tx = transferTx then 1 else 0
  signHashSync := fun hash => if hash = 1 then .ok () else .error "refused"
  encode2718 := fun _ _ => [2, 10, 20]

def readTransfer (bytes : List UInt8) : Option (Address × TxEip1559) :=
  if bytes = [2, 10, 20] then some (1, transferTx) else none

theorem transferSigner_read : transferSigner.ReadBy readTransfer := by
  intro tx signature signed
  change (if (if tx = transferTx then (1 : B256) else 0) = 1 then Except.ok ()
    else Except.error "refused") = .ok signature at signed
  by_cases same : tx = transferTx
  · rw [same]
    rfl
  · rw [if_neg same] at signed
    cases signed

def transferAttempt : Attempt where
  builder := TransactionBuilder.transferBuilder
  chain := TransactionBuilder.transferChain

theorem transferAttempt_signs : transferAttempt.Signs transferSigner [2, 10, 20] := by
  unfold Attempt.Signs
  decide +kernel

end ArbEngine
