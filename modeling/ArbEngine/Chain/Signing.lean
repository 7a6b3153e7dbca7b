import ArbEngine.Chain.Builder

/-!
# Signed transactions (`core/src/types.rs`, `core/src/wallet.rs`)

A request is made an EIP-1559 transaction twice: once to be hashed for the signature, and once to
be encoded with it. Hashing, signing and encoding belong to libraries and are parameters.
-/

namespace ArbEngine

abbrev B256 := BitVec 256

/-- `TxEip1559`, of a call and without an access list. -/
structure TxEip1559 where
  chainId : BitVec 64
  nonce : BitVec 64
  maxPriorityFeePerGas : U128
  maxFeePerGas : U128
  gasLimit : BitVec 64
  toAddress : Address
  value : U256
  input : List UInt8
deriving DecidableEq, Repr

/-- The key of the wallet, and what the libraries make of a transaction. -/
structure Signer (Signature : Type) where
  address : Address
  signatureHash : TxEip1559 → B256
  signHashSync : B256 → Except String Signature
  encode2718 : TxEip1559 → Signature → List UInt8

namespace TransactionRequest

def toEip1559 (tx : TransactionRequest) : TxEip1559 where
  chainId := tx.chainId
  nonce := tx.nonce.getD 0
  maxPriorityFeePerGas := tx.maxPriorityFee.getD 0
  maxFeePerGas := tx.maxFeePerGas.getD 0
  gasLimit := tx.gasLimit.getD 21000
  toAddress := tx.toAddress
  value := tx.value.raw
  input := tx.data

variable {Signature : Type}

def signingHash (signer : Signer Signature) (tx : TransactionRequest) : B256 :=
  signer.signatureHash tx.toEip1559

def encodeSigned (signer : Signer Signature) (tx : TransactionRequest) (signature : Signature) :
    List UInt8 :=
  signer.encode2718 tx.toEip1559 signature

end TransactionRequest

variable {Signature : Type}

/-- `sign_transaction`: an error is a `CryptoError`, with its text. -/
def Signer.signTransaction (signer : Signer Signature) (tx : TransactionRequest) :
    Except String Signature :=
  (signer.signHashSync (tx.signingHash signer)).mapError ("Crypto error: " ++ ·)

namespace TransactionBuilder

/-- `build_and_sign` of a builder for the wallet of the signer. -/
def buildAndSign (b : TransactionBuilder) (signer : Signer Signature) (chain : ChainAnswers) :
    Outcome (Except ChainError (List UInt8)) := do
  match ← b.build chain with
  | .error e => return .error e
  | .ok tx =>
      match signer.signTransaction tx with
      | .error msg => return .error (.internal msg)
      | .ok signature => return .ok (tx.encodeSigned signer signature)

end TransactionBuilder

end ArbEngine
