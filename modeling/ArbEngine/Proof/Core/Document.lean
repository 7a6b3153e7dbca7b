import ArbEngine.Core.Serializer

/-!
# The document behind the canonical bytes

`document` is the JSON value a tree of the serde data model stands for, with the entries of its
objects in the order they were handed over. `serialize_eq_document` connects it to the
serializer: the bytes are the text of the document, and there are bytes exactly where there is a
document. `Json.bytes_inj` then says what the bytes tell apart: documents, order included.

The proofs go along the tree, with one case for each of its constructors, and along the three lists
a constructor can hold: elements, entries of a map and fields of a struct. The serializer writes as
it goes, so each list lemma speaks about a list with a flag for its first item.
-/

namespace ArbEngine

/-! ## What a call answered, without its error -/

/-- Without its error, a call that goes on is a call that goes on. -/
theorem toOption_bind {ε α β : Type} (x : Except ε α) (f : α → Except ε β) :
    (x >>= f).toOption = x.toOption.bind fun a => (f a).toOption := by
  cases x <;> rfl

@[simp] theorem toOption_ok {ε α : Type} (a : α) :
    (Except.ok a : Except ε α).toOption = Option.some a := rfl

@[simp] theorem toOption_pure {ε α : Type} (a : α) :
    (pure a : Except ε α).toOption = Option.some a := rfl

namespace SerdeValue

variable {F : Type} (format : FloatFormat F)

/-! ## The document -/

/-- The name an entry gets, where its key can be one. A number or a truth value becomes the text of
    itself; a list or an object is refused, and so is a float that is not finite. -/
def keyName : SerdeValue F → Option (List Char)
  | .bool b => Option.some (if b then "true" else "false").toList
  | .int i => Option.some (JsonNumber.ofInt i).chars
  | .float x => if format.isFinite x then Option.some (format.spelling x).chars else Option.none
  | .char c => Option.some [c]
  | .str s => Option.some s.toList
  | .unitVariant variant => Option.some variant.toList
  | .some value => keyName value
  | .newtypeStruct value => keyName value
  | .bytes _ | .none | .unit | .unitStruct | .newtypeVariant .. | .seq _ | .tupleVariant ..
  | .map _ | .struct _ | .structVariant .. => Option.none

/-- A byte is a number of the array. -/
def byteDocument (b : UInt8) : Json := .num (JsonNumber.ofInt b.toNat)

mutual

/-- The JSON value a tree stands for; there is none where a key is no name. -/
def document : SerdeValue F → Option Json
  | .bool b => Option.some (.bool b)
  | .int i => Option.some (.num (JsonNumber.ofInt i))
  -- A float that is not finite has no spelling in JSON; the serializer writes `null` for it.
  | .float x => Option.some (if format.isFinite x then .num (format.spelling x) else .null)
  | .char c => Option.some (.str [c])
  | .str s => Option.some (.str s.toList)
  | .bytes bs => Option.some (.arr (bs.map byteDocument))
  | .none | .unit | .unitStruct => Option.some .null
  -- An optional value is its value, and a newtype is what it wraps: JSON has no trace of either.
  | .some value => document value
  | .unitVariant variant => Option.some (.str variant.toList)
  | .newtypeStruct value => document value
  | .newtypeVariant variant value => do
    let a ← document value
    return .obj [(variant.toList, a)]
  | .seq values => do
    let items ← elements values
    return .arr items
  | .tupleVariant variant values => do
    let items ← elements values
    return .obj [(variant.toList, .arr items)]
  | .map entries => do
    let named ← mapEntries entries
    return .obj named
  | .struct fields => do
    let named ← structFields fields
    return .obj named
  | .structVariant variant fields => do
    let named ← structFields fields
    return .obj [(variant.toList, .obj named)]

def elements : List (SerdeValue F) → Option (List Json)
  | [] => Option.some []
  | value :: values => do
    let a ← document value
    let items ← elements values
    return a :: items

def mapEntries : List (SerdeValue F × SerdeValue F) → Option (List (List Char × Json))
  | [] => Option.some []
  | (key, value) :: entries => do
    let name ← keyName format key
    let a ← document value
    let named ← mapEntries entries
    return (name, a) :: named

def structFields : List (String × SerdeValue F) → Option (List (List Char × Json))
  | [] => Option.some []
  | (name, value) :: fields => do
    let a ← document value
    let named ← structFields fields
    return (name.toList, a) :: named

end

/-- A key is written as a text whatever it was. -/
theorem serializeKey_eq_keyName : ∀ key : SerdeValue F,
    (serializeKey format key).toOption = (keyName format key).map Json.quote
  | .bool true => rfl
  | .bool false => rfl
  | .int i => by simp [serializeKey, keyName, Json.quote_number]
  | .float x => by
    rw [serializeKey, keyName]
    split
    · simp [Json.quote_number]
    · rfl
  | .char _ => rfl
  | .str _ => rfl
  | .unitVariant _ => rfl
  | .some value => serializeKey_eq_keyName value
  | .newtypeStruct value => serializeKey_eq_keyName value
  | .bytes _ | .none | .unit | .unitStruct | .newtypeVariant .. | .seq _ | .tupleVariant ..
  | .map _ | .struct _ | .structVariant .. => rfl

/-- Bytes are written as an array of their numbers. -/
theorem writeByteArray_eq_itemsText : ∀ (first : Bool) (bs : List UInt8),
    writeByteArray first bs = Json.itemsText first (bs.map byteDocument)
  | _, [] => rfl
  | first, b :: bs => by
    rw [writeByteArray, writeByteArray_eq_itemsText false bs]
    rfl

mutual

/-- **The serializer writes the text of the document**, and fails where there is none. By recursion
    on the tree, together with the three lists below. -/
theorem serialize_eq_document : ∀ value : SerdeValue F,
    (serialize format value).toOption = (document format value).map Json.text
  | .bool _ => rfl
  | .int _ => rfl
  | .float x => by
    rw [serialize, document]
    split <;> rfl
  | .char _ => rfl
  | .str _ => rfl
  | .bytes bs => by
    rw [serialize, writeByteArray_eq_itemsText]
    rfl
  | .none | .unit | .unitStruct => rfl
  | .some value => serialize_eq_document value
  | .unitVariant _ => rfl
  | .newtypeStruct value => serialize_eq_document value
  -- a variant with a value is an object of one entry under the name of the variant
  | .newtypeVariant variant value => by
    rw [serialize, document, toOption_bind, serialize_eq_document value]
    cases document format value <;> simp [Json.text, Json.entriesText, Json.separator]
  | .seq values => by
    rw [serialize, document, toOption_bind, serializeElements_eq_elements true values]
    cases elements format values <;> rfl
  | .tupleVariant variant values => by
    rw [serialize, document, toOption_bind, serializeElements_eq_elements true values]
    cases elements format values <;> simp [Json.text, Json.entriesText, Json.separator]
  | .map entries => by
    rw [serialize, document, toOption_bind, serializeEntries_eq_mapEntries true entries]
    cases mapEntries format entries <;> rfl
  | .struct fields => by
    rw [serialize, document, toOption_bind, serializeFields_eq_structFields true fields]
    cases structFields format fields <;> rfl
  | .structVariant variant fields => by
    rw [serialize, document, toOption_bind, serializeFields_eq_structFields true fields]
    cases structFields format fields <;> simp [Json.text, Json.entriesText, Json.separator]

/-- The elements of a sequence. `first` says whether a separator is due before the next one. -/
theorem serializeElements_eq_elements : ∀ (first : Bool) (values : List (SerdeValue F)),
    (serializeElements format first values).toOption =
      (elements format values).map (Json.itemsText first)
  | _, [] => rfl
  | first, value :: values => by
    rw [serializeElements, elements, toOption_bind, serialize_eq_document value]
    cases document format value with
    | none => rfl
    | some a =>
      simp only [Option.map_some, Option.bind_some, toOption_bind,
        serializeElements_eq_elements false values]
      cases elements format values <;> rfl

/-- The entries of a map, in the order in which they are handed over. A key that is no name fails
    the whole map. -/
theorem serializeEntries_eq_mapEntries :
    ∀ (first : Bool) (entries : List (SerdeValue F × SerdeValue F)),
      (serializeEntries format first entries).toOption =
        (mapEntries format entries).map (Json.entriesText first)
  | _, [] => rfl
  | first, (key, value) :: entries => by
    rw [serializeEntries, mapEntries, toOption_bind, serializeKey_eq_keyName]
    cases keyName format key with
    | none => rfl
    | some name =>
      simp only [Option.map_some, Option.bind_some, toOption_bind, serialize_eq_document value]
      cases document format value with
      | none => rfl
      | some a =>
        simp only [Option.map_some, Option.bind_some, serializeEntries_eq_mapEntries false entries]
        cases mapEntries format entries <;> rfl

/-- The fields of a struct, whose names cannot fail. -/
theorem serializeFields_eq_structFields :
    ∀ (first : Bool) (fields : List (String × SerdeValue F)),
      (serializeFields format first fields).toOption =
        (structFields format fields).map (Json.entriesText first)
  | _, [] => rfl
  | first, (name, value) :: fields => by
    rw [serializeFields, structFields, toOption_bind, serialize_eq_document value]
    cases document format value with
    | none => rfl
    | some a =>
      simp only [Option.map_some, Option.bind_some, toOption_bind,
        serializeFields_eq_structFields false fields]
      cases structFields format fields <;> rfl

end

end SerdeValue

namespace CanonicalSerializer

variable {F B256 : Type} (format : FloatFormat F) (keccak256 : ByteArray → B256)

/-- The same for the bytes of the serializer. -/
theorem serialize_eq_bytes (obj : SerdeValue F) :
    (serialize format obj).toOption = (obj.document format).map Json.bytes := by
  have h := SerdeValue.serialize_eq_document format obj
  rw [serialize]
  cases hs : obj.serialize format with
  | ok text =>
    rw [hs] at h
    obtain ⟨a, ha, rfl⟩ := Option.map_eq_some_iff.mp h.symm
    rw [ha]
    rfl
  | error e =>
    rw [hs] at h
    rw [Option.map_eq_none_iff.mp h.symm]
    rfl

/-- Where there is a document, its bytes are the answer. -/
theorem serialize_eq_ok {obj : SerdeValue F} {a : Json} (ha : obj.document format = some a) :
    serialize format obj = .ok a.bytes := by
  have h := serialize_eq_bytes format obj
  rw [ha] at h
  cases hs : serialize format obj with
  | ok bytes =>
    rw [hs] at h
    exact congrArg _ (Option.some.inj h)
  | error e =>
    rw [hs] at h
    cases h

/-- What canonical bytes promise of two values: one JSON value, one encoding; two JSON values,
    two encodings. -/
structure Canonical (v w : SerdeValue F) : Prop where
  same : ∀ a b, v.document format = some a → w.document format = some b → a.Same b →
    serialize format v = serialize format w ∧
      hash format keccak256 v = hash format keccak256 w
  differ : ∀ a b, v.document format = some a → w.document format = some b → ¬ a.Same b →
    serialize format v ≠ serialize format w

/-- **The promise is kept by the pairs whose entries come in one order**: values that are equal up
    to order have to be equal with it. The bytes tell documents apart with their order, so sorting
    would have had to be done before. -/
theorem canonical_iff (v w : SerdeValue F) :
    Canonical format keccak256 v w ↔
      ∀ a b, v.document format = some a → w.document format = some b → a.Same b → a = b := by
  constructor
  · intro h a b ha hb hsame
    have hbytes := (h.same a b ha hb hsame).1
    rw [serialize_eq_ok format ha, serialize_eq_ok format hb] at hbytes
    exact Json.bytes_inj.mp (Except.ok.inj hbytes)
  · intro h
    refine ⟨?_, ?_⟩
    · intro a b ha hb hsame
      obtain rfl := h a b ha hb hsame
      have hbytes : serialize format v = serialize format w := by
        rw [serialize_eq_ok format ha, serialize_eq_ok format hb]
      rw [hash, hash, hbytes]
      exact ⟨rfl, rfl⟩
    · intro a b ha hb hdiffer hbytes
      rw [serialize_eq_ok format ha, serialize_eq_ok format hb] at hbytes
      obtain rfl := Json.bytes_inj.mp (Except.ok.inj hbytes)
      exact hdiffer (.refl a)

/-- A float format for tenths: `none` is not a number. -/
def tenthsFormat : FloatFormat (Option ℕ) where
  isFinite := Option.isSome
  spelling x :=
    { chars := Nat.toDigits 10 (x.getD 0 / 10) ++ '.' :: Nat.toDigits 10 (x.getD 0 % 10)
      ne_nil := by simp
      allNumber := by
        intro c hc
        rw [isNumberChar, Bool.or_eq_true]
        rcases List.mem_append.mp hc with hc | hc
        · exact .inl (Nat.isDigit_of_mem_toDigits (by decide) (by decide) hc)
        · rcases List.mem_cons.mp hc with rfl | hc
          · decide
          · exact .inl (Nat.isDigit_of_mem_toDigits (by decide) (by decide) hc) }

/-- `{"b":2,"a":1}`, as a map that hands `b` over first. -/
def bFirst : SerdeValue (Option ℕ) := .map [(.str "b", .int 2), (.str "a", .int 1)]

/-- The same object with `a` first. -/
def aFirst : SerdeValue (Option ℕ) := .map [(.str "a", .int 1), (.str "b", .int 2)]

/-- Two maps of the same entries with two encodings. -/
theorem sample_order_in_bytes : ¬ Canonical tenthsFormat id bFirst aFirst := by
  intro h
  have hsame : Json.Same
      (.obj [(['b'], .num (.ofInt 2)), (['a'], .num (.ofInt 1))])
      (.obj [(['a'], .num (.ofInt 1)), (['b'], .num (.ofInt 2))]) :=
    .reorder (List.Perm.swap _ _ _)
  have hbytes := (h.same _ _ rfl rfl hsame).1
  rw [serialize_eq_ok tenthsFormat rfl, serialize_eq_ok tenthsFormat rfl] at hbytes
  have hdoc := Json.bytes_inj.mp (Except.ok.inj hbytes)
  simp at hdoc

end CanonicalSerializer

end ArbEngine
