import Mathlib.Data.List.Induction
import ArbEngine.Lib.BigEndian

/-!
# The binary interface of contracts

The arguments of a call and its results are tuples of words of 32 bytes. A word stands for itself;
what has no fixed size stands for the offset of its content, which comes after all the heads and
begins with its length. A reader follows the offsets wherever they lead, so that it does not see
how the content is laid out nor what comes behind it. What was encoded is decoded again
(`decode_encode`), as long as its offsets fit a word.

A function is called by the four bytes of its selector and its arguments behind them. Calls of
functions with different selectors are never taken for one another (`decodeCall_of_ne`).
-/

namespace Abi

inductive Kind where
  | word
  | words
  | bytes
deriving DecidableEq, Repr

inductive Value where
  | word (w : BitVec 256)
  | words (ws : List (BitVec 256))
  | bytes (bs : List UInt8)
deriving DecidableEq, Repr

def Value.kind : Value → Kind
  | .word _ => .word
  | .words _ => .words
  | .bytes _ => .bytes

/-! ## Writing -/

def ofWord (w : BitVec 256) : List UInt8 := BigEndian.bytes 32 w.toNat

def ofNat (n : ℕ) : List UInt8 := ofWord (BitVec.ofNat 256 n)

/-- What fills `n` bytes up to whole words. -/
def padding (n : ℕ) : List UInt8 := List.replicate ((32 - n % 32) % 32) 0

/-- What comes behind the heads. -/
def tail : Value → List UInt8
  | .word _ => []
  | .words ws => ofNat ws.length ++ ws.flatMap ofWord
  | .bytes bs => ofNat bs.length ++ bs ++ padding bs.length

/-- The head of a value whose tail begins at `offset`. -/
def head (offset : ℕ) : Value → List UInt8
  | .word w => ofWord w
  | .words _ => ofNat offset
  | .bytes _ => ofNat offset

def heads : ℕ → List Value → List UInt8
  | _, [] => []
  | offset, v :: vs => head offset v ++ heads (offset + (tail v).length) vs

def encode (vs : List Value) : List UInt8 := heads (32 * vs.length) vs ++ vs.flatMap tail

/-! ## Reading -/

def wordAt (data : List UInt8) (i : ℕ) : Option (BitVec 256) :=
  let word := (data.drop i).take 32
  if word.length = 32 then some (BitVec.ofNat 256 (BigEndian.value word)) else none

def wordsAt (data : List UInt8) : ℕ → ℕ → Option (List (BitVec 256))
  | _, 0 => some []
  | i, n + 1 => do
      let w ← wordAt data i
      let ws ← wordsAt data (i + 32) n
      return w :: ws

def bytesAt (data : List UInt8) (i n : ℕ) : Option (List UInt8) :=
  if i + n ≤ data.length then some ((data.drop i).take n) else none

/-- The value whose head is at `i`. -/
def read (data : List UInt8) (i : ℕ) : Kind → Option Value
  | .word => do
      let w ← wordAt data i
      return .word w
  | .words => do
      let offset ← wordAt data i
      let length ← wordAt data offset.toNat
      let ws ← wordsAt data (offset.toNat + 32) length.toNat
      return .words ws
  | .bytes => do
      let offset ← wordAt data i
      let length ← wordAt data offset.toNat
      let bs ← bytesAt data (offset.toNat + 32) length.toNat
      return .bytes bs

def readAll (data : List UInt8) : ℕ → List Kind → Option (List Value)
  | _, [] => some []
  | i, kind :: kinds => do
      let v ← read data i kind
      let vs ← readAll data (i + 32) kinds
      return v :: vs

def decode (kinds : List Kind) (data : List UInt8) : Option (List Value) := readAll data 0 kinds

/-! ## What was written is read -/

variable {data rest : List UInt8} {i offset : ℕ} {v : Value} {vs : List Value}

@[simp] theorem length_ofWord (w : BitVec 256) : (ofWord w).length = 32 :=
  BigEndian.length_bytes _ _

@[simp] theorem length_ofNat (n : ℕ) : (ofNat n).length = 32 := length_ofWord _

@[simp] theorem length_head (offset : ℕ) (v : Value) : (head offset v).length = 32 := by
  cases v <;> exact length_ofWord _

/-- Bytes that are a word. -/
theorem wordAt_of_begins {w : BitVec 256} (h : ofWord w <+: data.drop i) :
    wordAt data i = some w := by
  have here : (data.drop i).take 32 = ofWord w := by
    rw [← length_ofWord w]
    exact (List.prefix_iff_eq_take.mp h).symm
  have bound : w.toNat < 256 ^ 32 := w.isLt.trans_le (by norm_num)
  unfold wordAt
  dsimp only
  rw [here, if_pos (length_ofWord w), ofWord, BigEndian.value_bytes bound, BitVec.ofNat_toNat,
    BitVec.setWidth_eq]

theorem wordAt_of_ofNat {n : ℕ} (h : ofNat n <+: data.drop i) (fits : n < 2 ^ 256) :
    ∃ w, wordAt data i = some w ∧ w.toNat = n :=
  ⟨_, wordAt_of_begins h, by rw [BitVec.toNat_ofNat, Nat.mod_eq_of_lt fits]⟩

/-- What comes first and what comes behind it. -/
theorem begins_append {xs ys : List UInt8} (h : xs ++ ys <+: data.drop i) :
    xs <+: data.drop i ∧ ys <+: data.drop (i + xs.length) := by
  obtain ⟨rest, h⟩ := h
  rw [List.append_assoc] at h
  constructor
  · exact ⟨ys ++ rest, h⟩
  · refine ⟨rest, ?_⟩
    rw [← List.drop_drop, ← h, List.drop_left]

theorem wordsAt_of_begins {ws : List (BitVec 256)} (h : ws.flatMap ofWord <+: data.drop i) :
    wordsAt data i ws.length = some ws := by
  induction ws generalizing i with
  | nil => rfl
  | cons w ws ih =>
    obtain ⟨first, others⟩ := begins_append h
    rw [length_ofWord] at others
    rw [List.length_cons, wordsAt, wordAt_of_begins first, Option.bind_eq_bind, Option.bind_some,
      ih others]
    rfl

theorem bytesAt_of_begins {bs : List UInt8} (h : bs <+: data.drop i) (inside : i ≤ data.length) :
    bytesAt data i bs.length = some bs := by
  have room : i + bs.length ≤ data.length := by
    have := h.length_le
    rw [List.length_drop] at this
    omega
  unfold bytesAt
  rw [if_pos room, ← List.prefix_iff_eq_take.mp h]

/-- The length in front of a content. -/
theorem le_length_of_begins {n : ℕ} (h : ofNat n <+: data.drop i) : i + 32 ≤ data.length := by
  have := h.length_le
  rw [length_ofNat, List.length_drop] at this
  omega

theorem length_flatMap_ofWord (ws : List (BitVec 256)) :
    (ws.flatMap ofWord).length = 32 * ws.length := by
  induction ws with
  | nil => rfl
  | cons w ws ih =>
    rw [List.flatMap_cons, List.length_append, length_ofWord, ih, List.length_cons, Nat.mul_succ,
      Nat.add_comm]

/-- **A value is read where its head and its tail are.** -/
theorem read_of_begins (hhead : head offset v <+: data.drop i) (htail : tail v <+: data.drop offset)
    (fits : data.length < 2 ^ 256) : read data i v.kind = some v := by
  cases v with
  | word w =>
    show (wordAt data i).bind _ = _
    rw [wordAt_of_begins hhead]
    rfl
  | words ws =>
    -- The head is the offset of the tail, and the tail begins with the length.
    obtain ⟨hlength, hcontent⟩ := begins_append htail
    rw [length_ofNat] at hcontent
    have inside := le_length_of_begins hlength
    have room := hcontent.length_le
    rw [length_flatMap_ofWord, List.length_drop] at room
    obtain ⟨start, hstart, rfl⟩ := wordAt_of_ofNat hhead (by omega)
    obtain ⟨length, hlength, count⟩ := wordAt_of_ofNat hlength (by omega)
    show (wordAt data i).bind _ = _
    rw [hstart, Option.bind_some, hlength, Option.bind_eq_bind, Option.bind_some, count,
      wordsAt_of_begins hcontent]
    rfl
  | bytes bs =>
    -- What the tail is filled up with is not read.
    obtain ⟨hfront, -⟩ := begins_append htail
    obtain ⟨hlength, hcontent⟩ := begins_append hfront
    rw [length_ofNat] at hcontent
    have inside := le_length_of_begins hlength
    have room := hcontent.length_le
    rw [List.length_drop] at room
    obtain ⟨start, hstart, rfl⟩ := wordAt_of_ofNat hhead (by omega)
    obtain ⟨length, hlength, count⟩ := wordAt_of_ofNat hlength (by omega)
    show (wordAt data i).bind _ = _
    rw [hstart, Option.bind_some, hlength, Option.bind_eq_bind, Option.bind_some, count,
      bytesAt_of_begins hcontent inside]
    rfl

theorem readAll_of_begins (hheads : heads offset vs <+: data.drop i)
    (htails : vs.flatMap tail <+: data.drop offset) (fits : data.length < 2 ^ 256) :
    readAll data i (vs.map Value.kind) = some vs := by
  induction vs generalizing i offset with
  | nil => rfl
  | cons v vs ih =>
    -- The next tail begins where the first one ends, so the offset changes along the list.
    obtain ⟨hhead, hheads⟩ := begins_append hheads
    obtain ⟨htail, htails⟩ := begins_append htails
    rw [length_head] at hheads
    rw [List.map_cons, readAll, read_of_begins hhead htail fits, Option.bind_eq_bind,
      Option.bind_some, ih hheads htails]
    rfl

theorem length_heads (offset : ℕ) (vs : List Value) :
    (heads offset vs).length = 32 * vs.length := by
  induction vs generalizing offset with
  | nil => rfl
  | cons v vs ih =>
    rw [heads, List.length_append, length_head, ih, List.length_cons, Nat.mul_succ, Nat.add_comm]

theorem length_encode (vs : List Value) :
    (encode vs).length = 32 * vs.length + (vs.flatMap tail).length := by
  rw [encode, List.length_append, length_heads]

theorem tails_of_kinds {n : ℕ} (h : vs.map Value.kind = List.replicate n .word) :
    vs.flatMap tail = [] := by
  induction vs generalizing n with
  | nil => rfl
  | cons v vs ih =>
    cases n with
    | zero => cases h
    | succ n =>
      obtain ⟨here, there⟩ := List.cons.inj h
      cases v with
      | word w => exact ih there
      | words ws => cases here
      | bytes bs => cases here

/-- Words alone have a size of their own. -/
theorem length_encode_of_kinds {n : ℕ} (h : vs.map Value.kind = List.replicate n .word) :
    (encode vs).length = 32 * n := by
  have count := congrArg List.length h
  rw [List.length_map, List.length_replicate] at count
  rw [length_encode, tails_of_kinds h, count, List.length_nil, Nat.add_zero]

theorem length_padding_lt (n : ℕ) : (padding n).length < 32 := by
  rw [padding, List.length_replicate]
  exact Nat.mod_lt _ (by norm_num)

theorem heads_begin : heads (32 * vs.length) vs <+: encode vs ++ rest := by
  rw [encode, List.append_assoc]
  exact List.prefix_append _ _

theorem tails_begin : vs.flatMap tail <+: (encode vs ++ rest).drop (32 * vs.length) := by
  have split : encode vs ++ rest = heads (32 * vs.length) vs ++ (vs.flatMap tail ++ rest) :=
    List.append_assoc _ _ _
  rw [split, List.drop_left' (length_heads _ _)]
  exact List.prefix_append _ _

/-- **What was encoded is decoded**, whatever comes behind it. -/
theorem decode_encode (fits : (encode vs ++ rest).length < 2 ^ 256) :
    decode (vs.map Value.kind) (encode vs ++ rest) = some vs :=
  readAll_of_begins heads_begin tails_begin fits

/-! ## Types -/

/-- How the values of a type are tuples. -/
structure Coding (α : Type*) where
  kinds : List Kind
  toValues : α → List Value
  ofValues : List Value → Option α
  kinds_toValues : ∀ a, (toValues a).map Value.kind = kinds
  ofValues_toValues : ∀ a, ofValues (toValues a) = some a

/-- The last bits of a word. -/
theorem setWidth_setWidth {w : ℕ} (h : w ≤ 256) (x : BitVec w) :
    (x.setWidth 256).setWidth w = x := by
  rw [BitVec.setWidth_setWidth_of_le _ h, BitVec.setWidth_eq]

namespace Coding

variable {α : Type*} {c : Coding α} {a : α}

def encode (c : Coding α) (a : α) : List UInt8 := Abi.encode (c.toValues a)

def decode (c : Coding α) (data : List UInt8) : Option α :=
  (Abi.decode c.kinds data).bind c.ofValues

theorem decode_encode (fits : (c.encode a ++ rest).length < 2 ^ 256) :
    c.decode (c.encode a ++ rest) = some a := by
  rw [decode, ← c.kinds_toValues a, encode, Abi.decode_encode fits, Option.bind_some,
    c.ofValues_toValues]

theorem length_encode {n : ℕ} (h : c.kinds = List.replicate n .word) :
    (c.encode a).length = 32 * n :=
  length_encode_of_kinds ((c.kinds_toValues a).trans h)

/-- A word of which the last `w` bits count. -/
def word (w : ℕ) (h : w ≤ 256) : Coding (BitVec w) where
  kinds := [.word]
  toValues x := [.word (x.setWidth 256)]
  ofValues
    | [.word x] => some (x.setWidth w)
    | _ => none
  kinds_toValues _ := rfl
  ofValues_toValues x := congrArg some (setWidth_setWidth h x)

end Coding

/-! ## Functions -/

/-- A function of a contract. -/
structure Function (Args Results : Type*) where
  selector : List UInt8
  selector_length : selector.length = 4
  args : Coding Args
  results : Coding Results

namespace Function

variable {Args Results : Type*} {f : Function Args Results} {args : Args}

def encodeCall (f : Function Args Results) (args : Args) : List UInt8 :=
  f.selector ++ f.args.encode args

/-- The arguments, of calldata that begins with the selector. -/
def decodeCall (f : Function Args Results) (data : List UInt8) : Option Args :=
  if data.take 4 = f.selector then f.args.decode (data.drop 4) else none

@[simp] theorem take_encodeCall : (f.encodeCall args).take 4 = f.selector :=
  List.take_left' f.selector_length

@[simp] theorem drop_encodeCall : (f.encodeCall args).drop 4 = f.args.encode args :=
  List.drop_left' f.selector_length

/-- **A call is read as it was made.** -/
theorem decodeCall_encodeCall (short : (f.encodeCall args).length < 2 ^ 256) :
    f.decodeCall (f.encodeCall args) = some args := by
  have fits : (f.args.encode args).length < 2 ^ 256 := by
    rw [encodeCall, List.length_append] at short
    exact (Nat.le_add_left _ _).trans_lt short
  have decoded : f.args.decode (f.args.encode args ++ []) = some args :=
    Coding.decode_encode (by rwa [List.append_nil])
  rw [List.append_nil] at decoded
  rw [decodeCall, take_encodeCall, if_pos rfl, drop_encodeCall, decoded]

theorem decodeCall_of_ne {data : List UInt8} (h : data.take 4 ≠ f.selector) :
    f.decodeCall data = none :=
  if_neg h

end Function

end Abi
