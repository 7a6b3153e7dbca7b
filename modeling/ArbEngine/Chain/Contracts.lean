import ArbEngine.Core.Types
import ArbEngine.Lib.Abi

/-!
# The functions of the contracts (the `sol!` blocks of `executor/src/engine.rs`,
`pricing/src/monitor.rs`, `pricing/src/simulator.rs` and `pricing/src/amm.rs`)

Each function with its selector and its arguments and results as tuples. A struct of words is its
words one after another.

The selector of a function is the first four bytes of the Keccak hash of its signature. The hash is
not computed here: the bytes are the published ones. What a call relies on is that a function's
arguments can be told from its bytes, and that is the field of each `Abi.Coding` that says that
reading gives back what was written.
-/

namespace ArbEngine

/-- The word of an address. -/
def addressWord (a : Address) : BitVec 256 := a.setWidth 256

/-- Of a word, the last 20 bytes are the address. -/
def wordAddress (w : BitVec 256) : Address := w.setWidth 160

@[simp] theorem wordAddress_addressWord (a : Address) : wordAddress (addressWord a) = a :=
  Abi.setWidth_setWidth (by norm_num) a

@[simp] theorem map_wordAddress (path : List Address) :
    (path.map addressWord).map wordAddress = path := by
  have back : wordAddress ∘ addressWord = id := funext wordAddress_addressWord
  rw [List.map_map, back, List.map_id]

/-- The last bits of a word that carries the sign on. -/
theorem setWidth_signExtend {w : ℕ} (h : w ≤ 256) (x : BitVec w) :
    (x.signExtend 256).setWidth w = x := by
  ext i hi
  rw [BitVec.getElem_setWidth, BitVec.getLsbD_eq_getElem (hi.trans_le h),
    BitVec.getElem_signExtend, dif_pos hi]

namespace Contracts

/-- An address is the last 20 bytes of its word. -/
def address : Abi.Coding Address := Abi.Coding.word 160 (by norm_num)

/-- A whole word. -/
def uint256 : Abi.Coding U256 := Abi.Coding.word 256 le_rfl

def uint8 : Abi.Coding (BitVec 8) := Abi.Coding.word 8 (by norm_num)

def uint24 : Abi.Coding (BitVec 24) := Abi.Coding.word 24 (by norm_num)

def uint128 : Abi.Coding U128 := Abi.Coding.word 128 (by norm_num)

/-- A word that carries the sign on. -/
def int24 : Abi.Coding (BitVec 24) where
  kinds := [.word]
  toValues x := [.word (x.signExtend 256)]
  ofValues
    | [.word w] => some (w.setWidth 24)
    | _ => none
  kinds_toValues _ := rfl
  ofValues_toValues x := congrArg some (setWidth_signExtend (by norm_num) x)

/-- The bytes of a text. -/
def string : Abi.Coding (List UInt8) where
  kinds := [.bytes]
  toValues bs := [.bytes bs]
  ofValues
    | [.bytes bs] => some bs
    | _ => none
  kinds_toValues _ := rfl
  ofValues_toValues _ := rfl

/-- A truth value. What is written is 0 or 1; whatever is not 0 is read as true. -/
def bool : Abi.Coding Bool where
  kinds := [.word]
  toValues x := [.word (if x then 1 else 0)]
  ofValues
    | [.word w] => some (w != 0)
    | _ => none
  kinds_toValues _ := rfl
  ofValues_toValues x := by cases x <;> rfl

/-- No arguments. -/
def unit : Abi.Coding Unit where
  kinds := []
  toValues _ := []
  ofValues _ := some ()
  kinds_toValues _ := rfl
  ofValues_toValues _ := rfl

/-- Words behind their number, as the routers return the amounts along a path. -/
def uint256Array : Abi.Coding (List U256) where
  kinds := [.words]
  toValues ws := [.words ws]
  ofValues
    | [.words ws] => some ws
    | _ => none
  kinds_toValues _ := rfl
  ofValues_toValues _ := rfl

/-! ## Tokens -/

/-- Who may spend, and how much. -/
structure ApproveArgs where
  spender : Address
  amount : U256
deriving DecidableEq, Repr

/-- `approve(address,uint256)` -/
def approve : Abi.Function ApproveArgs Bool where
  selector := [0x09, 0x5e, 0xa7, 0xb3]
  selector_length := rfl
  args := {
    kinds := [.word, .word]
    toValues := fun c => [.word (addressWord c.spender), .word c.amount]
    ofValues
      | [.word spender, .word amount] => some { spender := wordAddress spender, amount }
      | _ => none
    kinds_toValues := fun _ => rfl
    ofValues_toValues := fun _ => by simp }
  results := bool

/-- `decimals()` -/
def decimals : Abi.Function Unit (BitVec 8) where
  selector := [0x31, 0x3c, 0xe5, 0x67]
  selector_length := rfl
  args := unit
  results := uint8

/-- `symbol()` -/
def symbol : Abi.Function Unit (List UInt8) where
  selector := [0x95, 0xd8, 0x9b, 0x41]
  selector_length := rfl
  args := unit
  results := string

/-! ## Pools -/

/-- `token0()`, the same of a V2 and of a V3 pool. -/
def token0 : Abi.Function Unit Address where
  selector := [0x0d, 0xfe, 0x16, 0x81]
  selector_length := rfl
  args := unit
  results := address

/-- `token1()` -/
def token1 : Abi.Function Unit Address where
  selector := [0xd2, 0x12, 0x20, 0xa7]
  selector_length := rfl
  args := unit
  results := address

/-- What a V2 pool holds. The contract keeps each reserve in 112 bits, and no answer of it can say
    more. -/
structure Reserves where
  reserve0 : BitVec 112
  reserve1 : BitVec 112
  blockTimestampLast : BitVec 32
deriving DecidableEq, Repr

/-- `getReserves()` -/
def getReserves : Abi.Function Unit Reserves where
  selector := [0x09, 0x02, 0xf1, 0xac]
  selector_length := rfl
  args := unit
  results := {
    kinds := [.word, .word, .word]
    toValues := fun r =>
      [.word (r.reserve0.setWidth 256), .word (r.reserve1.setWidth 256),
        .word (r.blockTimestampLast.setWidth 256)]
    ofValues
      | [.word reserve0, .word reserve1, .word blockTimestampLast] =>
          some {
            reserve0 := reserve0.setWidth 112, reserve1 := reserve1.setWidth 112
            blockTimestampLast := blockTimestampLast.setWidth 32 }
      | _ => none
    kinds_toValues := fun _ => rfl
    ofValues_toValues := fun r => by
      have first := Abi.setWidth_setWidth (by norm_num) r.reserve0
      have second := Abi.setWidth_setWidth (by norm_num) r.reserve1
      have time := Abi.setWidth_setWidth (by norm_num) r.blockTimestampLast
      simp only [first, second, time] }

/-- `liquidity()` of a V3 pool: what is in range now. -/
def liquidity : Abi.Function Unit U128 where
  selector := [0x1a, 0x68, 0x65, 0x02]
  selector_length := rfl
  args := unit
  results := uint128

/-- The first slot of a V3 pool. A pool that is loaded from the chain takes the price and the tick
    of it and nothing else. -/
structure Slot0 where
  sqrtPriceX96 : BitVec 160
  tick : BitVec 24
  observationIndex : BitVec 16
  observationCardinality : BitVec 16
  observationCardinalityNext : BitVec 16
  feeProtocol : BitVec 8
  unlocked : Bool
deriving DecidableEq, Repr

/-- `slot0()` -/
def slot0 : Abi.Function Unit Slot0 where
  selector := [0x38, 0x50, 0xc7, 0xbd]
  selector_length := rfl
  args := unit
  results := {
    kinds := [.word, .word, .word, .word, .word, .word, .word]
    toValues := fun s =>
      [.word (s.sqrtPriceX96.setWidth 256), .word (s.tick.signExtend 256),
        .word (s.observationIndex.setWidth 256), .word (s.observationCardinality.setWidth 256),
        .word (s.observationCardinalityNext.setWidth 256), .word (s.feeProtocol.setWidth 256),
        .word (if s.unlocked then 1 else 0)]
    ofValues
      | [.word sqrtPriceX96, .word tick, .word observationIndex, .word observationCardinality,
          .word observationCardinalityNext, .word feeProtocol, .word unlocked] =>
          some {
            sqrtPriceX96 := sqrtPriceX96.setWidth 160, tick := tick.setWidth 24
            observationIndex := observationIndex.setWidth 16
            observationCardinality := observationCardinality.setWidth 16
            observationCardinalityNext := observationCardinalityNext.setWidth 16
            feeProtocol := feeProtocol.setWidth 8, unlocked := unlocked != 0 }
      | _ => none
    kinds_toValues := fun _ => rfl
    ofValues_toValues := fun s => by
      have price := Abi.setWidth_setWidth (by norm_num) s.sqrtPriceX96
      -- A tick can be negative, so its word carries the sign on; the other fields are padded with
      -- zeros.
      have tick := setWidth_signExtend (by norm_num) s.tick
      have index := Abi.setWidth_setWidth (by norm_num) s.observationIndex
      have cardinality := Abi.setWidth_setWidth (by norm_num) s.observationCardinality
      have next := Abi.setWidth_setWidth (by norm_num) s.observationCardinalityNext
      have fee := Abi.setWidth_setWidth (by norm_num) s.feeProtocol
      have unlocked : ((if s.unlocked then 1 else 0 : BitVec 256) != 0) = s.unlocked := by
        cases s.unlocked <;> rfl
      simp only [price, tick, index, cardinality, next, fee, unlocked] }

/-- `fee()`, in millionths. -/
def fee : Abi.Function Unit (BitVec 24) where
  selector := [0xdd, 0xca, 0x3f, 0x43]
  selector_length := rfl
  args := unit
  results := uint24

/-- `tickSpacing()`. It is a signed number of the contract, although it is never negative. -/
def tickSpacing : Abi.Function Unit (BitVec 24) where
  selector := [0xd0, 0xc9, 0x3a, 0x7a]
  selector_length := rfl
  args := unit
  results := int24

/-! ## Routers -/

/-- Of a swap of tokens, or for ether. -/
structure SwapExactTokensArgs where
  amountIn : U256
  amountOutMin : U256
  path : List Address
  recipient : Address
  deadline : U256
deriving DecidableEq, Repr

/-- The arguments that two swaps share. The path is of any length, so it stands behind the words
    whose place is fixed. -/
def swapExactTokensArgs : Abi.Coding SwapExactTokensArgs where
  kinds := [.word, .word, .words, .word, .word]
  toValues c :=
    [.word c.amountIn, .word c.amountOutMin, .words (c.path.map addressWord),
      .word (addressWord c.recipient), .word c.deadline]
  ofValues
    | [.word amountIn, .word amountOutMin, .words path, .word recipient, .word deadline] =>
        some {
          amountIn, amountOutMin, path := path.map wordAddress
          recipient := wordAddress recipient, deadline }
    | _ => none
  kinds_toValues _ := rfl
  ofValues_toValues _ := by simp only [wordAddress_addressWord, map_wordAddress]

/-- `swapExactTokensForTokens(uint256,uint256,address[],address,uint256)` -/
def swapExactTokensForTokens : Abi.Function SwapExactTokensArgs (List U256) where
  selector := [0x38, 0xed, 0x17, 0x39]
  selector_length := rfl
  args := swapExactTokensArgs
  results := uint256Array

/-- `swapExactTokensForETH(uint256,uint256,address[],address,uint256)` -/
def swapExactTokensForETH : Abi.Function SwapExactTokensArgs (List U256) where
  selector := [0x18, 0xcb, 0xaf, 0xe5]
  selector_length := rfl
  args := swapExactTokensArgs
  results := uint256Array

/-- Of a swap of the ether that is sent along. -/
structure SwapExactETHArgs where
  amountOutMin : U256
  path : List Address
  recipient : Address
  deadline : U256
deriving DecidableEq, Repr

/-- `swapExactETHForTokens(uint256,address[],address,uint256)`; what goes in is the value of the
    transaction. -/
def swapExactETHForTokens : Abi.Function SwapExactETHArgs (List U256) where
  selector := [0x7f, 0xf3, 0x6a, 0xb5]
  selector_length := rfl
  args := {
    kinds := [.word, .words, .word, .word]
    toValues := fun c =>
      [.word c.amountOutMin, .words (c.path.map addressWord), .word (addressWord c.recipient),
        .word c.deadline]
    ofValues
      | [.word amountOutMin, .words path, .word recipient, .word deadline] =>
          some {
            amountOutMin, path := path.map wordAddress, recipient := wordAddress recipient
            deadline }
      | _ => none
    kinds_toValues := fun _ => rfl
    ofValues_toValues := fun _ => by simp only [wordAddress_addressWord, map_wordAddress] }
  results := uint256Array

/-- The parameters of a swap through one V3 pool: the amount that is exact, and the limit of the
    other one. -/
structure ExactSingleParams where
  tokenIn : Address
  tokenOut : Address
  fee : BitVec 24
  recipient : Address
  deadline : U256
  amount : U256
  limit : U256
  sqrtPriceLimitX96 : BitVec 160
deriving DecidableEq, Repr

def exactSingleParams : Abi.Coding ExactSingleParams where
  kinds := [.word, .word, .word, .word, .word, .word, .word, .word]
  toValues c :=
    [.word (addressWord c.tokenIn), .word (addressWord c.tokenOut), .word (c.fee.setWidth 256),
      .word (addressWord c.recipient), .word c.deadline, .word c.amount, .word c.limit,
      .word (c.sqrtPriceLimitX96.setWidth 256)]
  ofValues
    | [.word tokenIn, .word tokenOut, .word fee, .word recipient, .word deadline, .word amount,
        .word limit, .word sqrtPriceLimitX96] =>
        some {
          tokenIn := wordAddress tokenIn, tokenOut := wordAddress tokenOut
          fee := fee.setWidth 24, recipient := wordAddress recipient, deadline, amount, limit
          sqrtPriceLimitX96 := sqrtPriceLimitX96.setWidth 160 }
    | _ => none
  kinds_toValues _ := rfl
  ofValues_toValues c := by
    have fee := Abi.setWidth_setWidth (by norm_num) c.fee
    have price := Abi.setWidth_setWidth (by norm_num) c.sqrtPriceLimitX96
    simp only [wordAddress_addressWord, fee, price]

/-- `exactInputSingle(ExactInputSingleParams)`; the limit is `amountOutMinimum`. -/
def exactInputSingle : Abi.Function ExactSingleParams U256 where
  selector := [0x41, 0x4b, 0xf3, 0x89]
  selector_length := rfl
  args := exactSingleParams
  results := uint256

/-- `exactOutputSingle(ExactOutputSingleParams)`; the limit is `amountInMaximum`. -/
def exactOutputSingle : Abi.Function ExactSingleParams U256 where
  selector := [0xdb, 0x3e, 0x21, 0x98]
  selector_length := rfl
  args := exactSingleParams
  results := uint256

end Contracts

end ArbEngine
