import ArbEngine.Chain.Client
import ArbEngine.Core.Types
import ArbEngine.Lib.XRat

/-!
# Building a transaction (`chain/src/builder.rs`)

The builder asks the node for whatever was not set, and puts the fees together from what the
node calls the gas price. What the node answers, after the retries of the client, is a parameter.
A sum of fees that does not fit panics.
-/

namespace ArbEngine

structure GasPrice where
  baseFee : U128
  priorityFeeLow : U128
  priorityFeeMedium : U128
  priorityFeeHigh : U128
deriving DecidableEq, Repr

namespace GasPrice

/-- The price that `get_gas_price` makes of the answer of the node. -/
def ofBaseFee (baseFee : U128) : GasPrice where
  baseFee
  priorityFeeLow := 1000000000
  priorityFeeMedium := 2000000000
  priorityFeeHigh := 5000000000

def priorityFee (g : GasPrice) (priority : String) : U128 :=
  if priority = "low" then g.priorityFeeLow
  else if priority = "high" then g.priorityFeeHigh
  else g.priorityFeeMedium

/-- The product is cut down to a whole number, and to the largest that fits. -/
def baseWithBuffer (g : GasPrice) (buffer : ℚ) : U128 :=
  BitVec.ofNat 128 (min ⌊g.baseFee.toNat * buffer⌋.toNat (2 ^ 128 - 1))

def getMaxFee (g : GasPrice) (priority : String) (buffer : ℚ) : Outcome U128 :=
  Outcome.unwrap (Word.checkedAdd (g.baseWithBuffer buffer) (g.priorityFee priority))

end GasPrice

/-- `as u64` of a float. -/
def XRat.asU64 : XRat → BitVec 64
  | .fin x => BitVec.ofNat 64 (min ⌊x⌋.toNat (2 ^ 64 - 1))
  | .inf negative => if negative then 0 else BitVec.allOnes 64
  | .nan => 0

structure TransactionRequest where
  toAddress : Address
  value : TokenAmount
  data : List UInt8
  nonce : Option (BitVec 64)
  gasLimit : Option (BitVec 64)
  maxFeePerGas : Option U128
  maxPriorityFee : Option U128
  chainId : BitVec 64
  fromAddress : Option Address
deriving DecidableEq, Repr

/-- What the node answers. -/
structure ChainAnswers where
  getNonce : Address → Except ChainError (BitVec 64)
  getGasPrice : Except ChainError U128
  estimateGas : TransactionRequest → Except ChainError (BitVec 64)

structure TransactionBuilder where
  wallet : Address
  toAddress : Option Address
  value : Option TokenAmount
  data : List UInt8
  nonce : Option (BitVec 64)
  chainId : BitVec 64
  gasLimit : Option (BitVec 64)
  priority : String
  gasEstimateBuffer : XRat
  shouldEstimateGas : Bool

namespace TransactionBuilder

def new (wallet : Address) : TransactionBuilder where
  wallet
  toAddress := none
  value := none
  data := []
  nonce := none
  gasLimit := none
  priority := "medium"
  chainId := 42161
  gasEstimateBuffer := .fin (6 / 5)
  shouldEstimateGas := false

/-- The request before its gas is estimated. -/
def request (b : TransactionBuilder) (toAddress : Address) (nonce : BitVec 64)
    (gasPriceInfo : GasPrice) (maxFee : U128) : TransactionRequest where
  toAddress
  fromAddress := some b.wallet
  value := b.value.getD { raw := 0, decimals := 18, symbol := none }
  data := b.data
  nonce := some nonce
  gasLimit := b.gasLimit
  maxFeePerGas := some maxFee
  maxPriorityFee := some gasPriceInfo.priorityFeeMedium
  chainId := b.chainId

/-- The request with its gas estimated, if that was asked for and no limit was set. -/
def withEstimate (b : TransactionBuilder) (chain : ChainAnswers) (tx : TransactionRequest) :
    Except ChainError TransactionRequest := do
  if b.shouldEstimateGas && tx.gasLimit.isNone then
    let estimated ← chain.estimateGas tx
    return { tx with
      gasLimit := some (XRat.asU64 (.fin estimated.toNat * b.gasEstimateBuffer)) }
  else
    return tx

def build (b : TransactionBuilder) (chain : ChainAnswers) :
    Outcome (Except ChainError TransactionRequest) :=
  match b.toAddress with
  | none => .ok (.error (.internal "Target address missing"))
  | some toAddress =>
      match b.nonce.elim (chain.getNonce b.wallet) .ok with
      | .error e => .ok (.error e)
      | .ok nonce =>
          match chain.getGasPrice with
          | .error e => .ok (.error e)
          | .ok baseFee => do
              let gasPriceInfo := GasPrice.ofBaseFee baseFee
              let maxFee ← gasPriceInfo.getMaxFee b.priority (6 / 5)
              return b.withEstimate chain (b.request toAddress nonce gasPriceInfo maxFee)

end TransactionBuilder

end ArbEngine
