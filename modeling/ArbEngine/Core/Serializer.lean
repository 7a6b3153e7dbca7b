import ArbEngine.Lib.Json

/-!
# Canonical serialization (`core/src/serializer.rs`)

A value reaches `serde_json` as a tree of the serde data model. `CanonicalFormatter` overrides
none of the `Formatter` methods, so what `CanonicalSerializer` writes is what `serde_json`
writes by default: compact text, with the entries of a map and the fields of a struct in the
order the value hands them over.

Two things come from outside: how a float is spelled (`FloatFormat`) and the digest (a
parameter of `hash`).
-/

namespace ArbEngine

/-- The serde data model. `tuple` and `tuple_struct` are written as `seq`. -/
inductive SerdeValue (F : Type) where
  | bool (b : Bool)
  | int (i : ℤ)
  | float (x : F)
  | char (c : Char)
  | str (s : String)
  | bytes (bs : List UInt8)
  | none
  | some (value : SerdeValue F)
  | unit
  | unitStruct
  | unitVariant (variant : String)
  | newtypeStruct (value : SerdeValue F)
  | newtypeVariant (variant : String) (value : SerdeValue F)
  | seq (values : List (SerdeValue F))
  | tupleVariant (variant : String) (values : List (SerdeValue F))
  | map (entries : List (SerdeValue F × SerdeValue F))
  | struct (fields : List (String × SerdeValue F))
  | structVariant (variant : String) (fields : List (String × SerdeValue F))

/-- The floats of a platform: which are finite, and the shortest spelling of those. -/
structure FloatFormat (F : Type) where
  isFinite : F → Bool
  spelling : F → JsonNumber

def keyMustBeAString : String := "key must be a string"

def floatKeyMustBeFinite : String := "float key must be finite (got NaN or +/-inf)"

namespace SerdeValue

variable {F : Type} (format : FloatFormat F)

/-- `MapKeySerializer`: numbers and booleans are put between quotes, wrappers are seen
    through, and anything else is no key. -/
def serializeKey : SerdeValue F → Except String (List Char)
  | .bool b => .ok ('"' :: ((if b then "true" else "false").toList ++ ['"']))
  | .int i => .ok ('"' :: ((JsonNumber.ofInt i).chars ++ ['"']))
  | .float x =>
    if format.isFinite x then .ok ('"' :: ((format.spelling x).chars ++ ['"']))
    else .error floatKeyMustBeFinite
  | .char c => .ok (Json.quote [c])
  | .str s => .ok (Json.quote s.toList)
  | .unitVariant variant => .ok (Json.quote variant.toList)
  | .some value => serializeKey value
  | .newtypeStruct value => serializeKey value
  | .bytes _ | .none | .unit | .unitStruct | .newtypeVariant .. | .seq _ | .tupleVariant ..
  | .map _ | .struct _ | .structVariant .. => .error keyMustBeAString

/-- `Formatter::write_byte_array`: a byte string is an array of its bytes. -/
def writeByteArray : Bool → List UInt8 → List Char
  | _, [] => [']']
  | first, b :: bs =>
    Json.separator first ++ ((JsonNumber.ofInt b.toNat).chars ++ writeByteArray false bs)

mutual

/-- `serde_json::Serializer` with a default `Formatter`. A float that is not finite is written
    as `null`. -/
def serialize : SerdeValue F → Except String (List Char)
  | .bool b => .ok (if b then "true" else "false").toList
  | .int i => .ok (JsonNumber.ofInt i).chars
  | .float x => .ok (if format.isFinite x then (format.spelling x).chars else "null".toList)
  | .char c => .ok (Json.quote [c])
  | .str s => .ok (Json.quote s.toList)
  | .bytes bs => .ok ('[' :: writeByteArray true bs)
  | .none | .unit | .unitStruct => .ok "null".toList
  | .some value => serialize value
  | .unitVariant variant => .ok (Json.quote variant.toList)
  | .newtypeStruct value => serialize value
  | .newtypeVariant variant value => do
    let text ← serialize value
    return '{' :: (Json.quote variant.toList ++ ':' :: (text ++ ['}']))
  | .seq values => do
    let text ← serializeElements true values
    return '[' :: text
  | .tupleVariant variant values => do
    let text ← serializeElements true values
    return '{' :: (Json.quote variant.toList ++ ':' :: '[' :: (text ++ ['}']))
  | .map entries => do
    let text ← serializeEntries true entries
    return '{' :: text
  | .struct fields => do
    let text ← serializeFields true fields
    return '{' :: text
  | .structVariant variant fields => do
    let text ← serializeFields true fields
    return '{' :: (Json.quote variant.toList ++ ':' :: '{' :: (text ++ ['}']))

/-- The elements of a `SerializeSeq`, up to its end. -/
def serializeElements : Bool → List (SerdeValue F) → Except String (List Char)
  | _, [] => .ok [']']
  | first, value :: values => do
    let text ← serialize value
    let rest ← serializeElements false values
    return Json.separator first ++ (text ++ rest)

/-- The entries of a `SerializeMap`, each key before its value. -/
def serializeEntries : Bool → List (SerdeValue F × SerdeValue F) → Except String (List Char)
  | _, [] => .ok ['}']
  | first, (key, value) :: entries => do
    let name ← serializeKey format key
    let text ← serialize value
    let rest ← serializeEntries false entries
    return Json.separator first ++ (name ++ ':' :: (text ++ rest))

/-- The fields of a `SerializeStruct`. -/
def serializeFields : Bool → List (String × SerdeValue F) → Except String (List Char)
  | _, [] => .ok ['}']
  | first, (name, value) :: fields => do
    let text ← serialize value
    let rest ← serializeFields false fields
    return Json.separator first ++ (Json.quote name.toList ++ ':' :: (text ++ rest))

end

end SerdeValue

namespace CanonicalSerializer

variable {F : Type} (format : FloatFormat F)

/-- `ArbError::SerializationError`, with its text. -/
def serializationError (e : String) : String := "Serialization error: " ++ e

def serialize (obj : SerdeValue F) : Except String ByteArray :=
  match obj.serialize format with
  | .ok text => .ok (String.ofList text).toUTF8
  | .error e => .error (serializationError e)

def hash {B256 : Type} (keccak256 : ByteArray → B256) (obj : SerdeValue F) :
    Except String B256 := do
  let bytes ← serialize format obj
  return keccak256 bytes

end CanonicalSerializer

end ArbEngine
