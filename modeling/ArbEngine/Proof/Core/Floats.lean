import ArbEngine.Proof.Core.Document

/-!
# Floats under the canonical serializer

Which trees are refused. `parts` lists everything inside a tree, and `document_isSome_iff` says
that a tree is written exactly where every key of every map among its parts can be. A float as a
value is never the reason: one that is finite is spelled out and any other becomes `null`. Only
as the key of a map is a float refused, and only one that is not finite.
-/

namespace ArbEngine

namespace SerdeValue

variable {F : Type} (format : FloatFormat F)

/-! ## The parts of a tree -/

mutual

/-- A tree with everything inside it, the keys of its maps included. -/
def parts : SerdeValue F → List (SerdeValue F)
  | .some value => .some value :: parts value
  | .newtypeStruct value => .newtypeStruct value :: parts value
  | .newtypeVariant variant value => .newtypeVariant variant value :: parts value
  | .seq values => .seq values :: elementParts values
  | .tupleVariant variant values => .tupleVariant variant values :: elementParts values
  | .map entries => .map entries :: entryParts entries
  | .struct fields => .struct fields :: fieldParts fields
  | .structVariant variant fields => .structVariant variant fields :: fieldParts fields
  | value => [value]

/-- The parts of a list of trees, of the entries of a map, and of named fields. -/
def elementParts : List (SerdeValue F) → List (SerdeValue F)
  | [] => []
  | value :: values => parts value ++ elementParts values

def entryParts : List (SerdeValue F × SerdeValue F) → List (SerdeValue F)
  | [] => []
  | (key, value) :: entries => parts key ++ (parts value ++ entryParts entries)

def fieldParts : List (String × SerdeValue F) → List (SerdeValue F)
  | [] => []
  | (_, value) :: fields => parts value ++ fieldParts fields

end

/-- A tree is itself and what is inside it, so a part is the tree or a part of the inside. -/
theorem parts_subset_of_inner {value part : SerdeValue F} {inner : List (SerdeValue F)}
    (hvalue : parts value = value :: inner) (hinner : part ∈ inner → parts part ⊆ inner)
    (h : part ∈ parts value) : parts part ⊆ parts value := by
  rw [hvalue] at h
  rcases List.mem_cons.mp h with rfl | hin
  · exact List.Subset.refl _
  · rw [hvalue]
    exact List.subset_cons_of_subset _ (hinner hin)

mutual

/-- A part of a part is a part. By recursion over the tree, together with the lists in it. -/
theorem parts_subset : ∀ {value part : SerdeValue F}, part ∈ parts value →
    parts part ⊆ parts value
  | .bool _, _, h | .int _, _, h | .float _, _, h | .char _, _, h | .str _, _, h
  | .bytes _, _, h | .none, _, h | .unit, _, h | .unitStruct, _, h | .unitVariant _, _, h =>
    parts_subset_of_inner rfl (fun hin => absurd hin List.not_mem_nil) h
  | .some _, _, h | .newtypeStruct _, _, h | .newtypeVariant _ _, _, h =>
    parts_subset_of_inner rfl parts_subset h
  | .seq _, _, h | .tupleVariant _ _, _, h => parts_subset_of_inner rfl elementParts_subset h
  | .map _, _, h => parts_subset_of_inner rfl entryParts_subset h
  | .struct _, _, h | .structVariant _ _, _, h => parts_subset_of_inner rfl fieldParts_subset h

theorem elementParts_subset : ∀ {values : List (SerdeValue F)} {part : SerdeValue F},
    part ∈ elementParts values → parts part ⊆ elementParts values
  | value :: values, part, h => by
    rw [elementParts] at h ⊢
    rcases List.mem_append.mp h with hin | hin
    · exact List.subset_append_of_subset_left _ (parts_subset hin)
    · exact List.subset_append_of_subset_right _ (elementParts_subset hin)

theorem entryParts_subset : ∀ {entries : List (SerdeValue F × SerdeValue F)}
    {part : SerdeValue F}, part ∈ entryParts entries → parts part ⊆ entryParts entries
  | (key, value) :: entries, part, h => by
    rw [entryParts] at h ⊢
    rcases List.mem_append.mp h with hin | hin
    · exact List.subset_append_of_subset_left _ (parts_subset hin)
    · apply List.subset_append_of_subset_right
      rcases List.mem_append.mp hin with hin | hin
      · exact List.subset_append_of_subset_left _ (parts_subset hin)
      · exact List.subset_append_of_subset_right _ (entryParts_subset hin)

theorem fieldParts_subset : ∀ {fields : List (String × SerdeValue F)} {part : SerdeValue F},
    part ∈ fieldParts fields → parts part ⊆ fieldParts fields
  | (_, value) :: fields, part, h => by
    rw [fieldParts] at h ⊢
    rcases List.mem_append.mp h with hin | hin
    · exact List.subset_append_of_subset_left _ (parts_subset hin)
    · exact List.subset_append_of_subset_right _ (fieldParts_subset hin)

end

/-- What is inside a key of an entry is inside the entries. -/
theorem key_subset_entryParts : ∀ {entries : List (SerdeValue F × SerdeValue F)}
    {e : SerdeValue F × SerdeValue F}, e ∈ entries → parts e.1 ⊆ entryParts entries := by
  intro entries e he
  induction entries with
  | nil => cases he
  | cons e' entries ih =>
    rw [entryParts]
    rcases List.mem_cons.mp he with rfl | he
    · exact List.subset_append_left _ _
    · exact List.subset_append_of_subset_right _ (List.subset_append_of_subset_right _ (ih he))

/-- The keys of a map in a tree are parts of the tree. -/
theorem key_subset_parts {value : SerdeValue F} {entries : List (SerdeValue F × SerdeValue F)}
    (hmap : .map entries ∈ parts value) {e : SerdeValue F × SerdeValue F} (he : e ∈ entries) :
    parts e.1 ⊆ parts value := by
  have hmap' := parts_subset hmap
  rw [parts] at hmap'
  exact fun part hpart => hmap' (List.mem_cons_of_mem _ (key_subset_entryParts he hpart))

/-- Every key of every map among some trees can be written. -/
def KeysWritten (trees : List (SerdeValue F)) : Prop :=
  ∀ entries, .map entries ∈ trees → ∀ e ∈ entries, (keyName format e.1).isSome = true

section Keys

variable {format} {trees trees' : List (SerdeValue F)}

/-- The condition is about each tree by itself. -/
theorem keysWritten_append :
    KeysWritten format (trees ++ trees') ↔
      KeysWritten format trees ∧ KeysWritten format trees' := by
  simp only [KeysWritten, List.mem_append, or_imp, forall_and]

/-- A tree that is no map adds nothing to it. -/
theorem keysWritten_cons {value : SerdeValue F} (h : ∀ entries, value ≠ .map entries) :
    KeysWritten format (value :: trees) ↔ KeysWritten format trees := by
  have hne : ∀ entries, SerdeValue.map entries ≠ value := fun entries => (h entries).symm
  simp [KeysWritten, hne]

/-- A map adds its own keys. -/
theorem keysWritten_map {entries : List (SerdeValue F × SerdeValue F)} :
    KeysWritten format (.map entries :: trees) ↔
      (∀ e ∈ entries, (keyName format e.1).isSome = true) ∧ KeysWritten format trees := by
  simp [KeysWritten, or_imp, forall_and]

theorem keysWritten_leaf {value : SerdeValue F} (h : ∀ entries, value ≠ .map entries) :
    KeysWritten format [value] := by
  rw [keysWritten_cons h]
  simp [KeysWritten]

/-- A key that can be written has no map inside. -/
theorem keysWritten_key : ∀ {key : SerdeValue F}, (keyName format key).isSome = true →
    KeysWritten format (parts key)
  | .bool _, _ | .int _, _ | .float _, _ | .char _, _ | .str _, _ | .unitVariant _, _ =>
    keysWritten_leaf (by simp)
  | .some _, h | .newtypeStruct _, h => (keysWritten_cons (by simp)).mpr (keysWritten_key h)

end Keys

mutual

/-- **There is a document exactly where every key is a name.** By recursion over the tree: a value
    of any kind is written where its parts are, and a map needs its own keys besides. -/
theorem document_isSome_iff : ∀ value : SerdeValue F,
    (document format value).isSome = true ↔ KeysWritten format (parts value)
  | .bool _ | .int _ | .float _ | .char _ | .str _ | .bytes _ | .none | .unit | .unitStruct
  | .unitVariant _ => by
    simp [document, parts, keysWritten_leaf]
  | .some value | .newtypeStruct value => by
    rw [document, parts, keysWritten_cons (by simp), document_isSome_iff value]
  | .newtypeVariant _ value => by
    rw [document, parts, keysWritten_cons (by simp), ← document_isSome_iff value]
    cases document format value <;> simp
  | .seq values | .tupleVariant _ values => by
    rw [document, parts, keysWritten_cons (by simp), ← elements_isSome_iff values]
    cases elements format values <;> simp
  | .map entries => by
    rw [document, parts, keysWritten_map, ← mapEntries_isSome_iff entries]
    cases mapEntries format entries <;> simp
  | .struct fields | .structVariant _ fields => by
    rw [document, parts, keysWritten_cons (by simp), ← structFields_isSome_iff fields]
    cases structFields format fields <;> simp

theorem elements_isSome_iff : ∀ values : List (SerdeValue F),
    (elements format values).isSome = true ↔ KeysWritten format (elementParts values)
  | [] => by simp [elements, elementParts, KeysWritten]
  | value :: values => by
    rw [elements, elementParts, keysWritten_append, ← document_isSome_iff value,
      ← elements_isSome_iff values]
    cases document format value <;> cases elements format values <;> simp

theorem mapEntries_isSome_iff : ∀ entries : List (SerdeValue F × SerdeValue F),
    (mapEntries format entries).isSome = true ↔
      (∀ e ∈ entries, (keyName format e.1).isSome = true) ∧
        KeysWritten format (entryParts entries)
  | [] => by simp [mapEntries, entryParts, KeysWritten]
  | (key, value) :: entries => by
    -- an entry needs its key, its value, and the entries behind it
    have hstep : (mapEntries format ((key, value) :: entries)).isSome = true ↔
        (keyName format key).isSome = true ∧ (document format value).isSome = true ∧
          (mapEntries format entries).isSome = true := by
      rw [mapEntries]
      cases keyName format key <;> cases document format value <;>
        cases mapEntries format entries <;> simp
    rw [hstep, document_isSome_iff value, mapEntries_isSome_iff entries, entryParts,
      keysWritten_append, keysWritten_append, List.forall_mem_cons]
    constructor
    · rintro ⟨hkey, hvalue, hkeys, hentries⟩
      exact ⟨⟨hkey, hkeys⟩, keysWritten_key hkey, hvalue, hentries⟩
    · rintro ⟨⟨hkey, hkeys⟩, -, hvalue, hentries⟩
      exact ⟨hkey, hvalue, hkeys, hentries⟩

theorem structFields_isSome_iff : ∀ fields : List (String × SerdeValue F),
    (structFields format fields).isSome = true ↔ KeysWritten format (fieldParts fields)
  | [] => by simp [structFields, fieldParts, KeysWritten]
  | (_, value) :: fields => by
    rw [structFields, fieldParts, keysWritten_append, ← document_isSome_iff value,
      ← structFields_isSome_iff fields]
    cases document format value <;> cases structFields format fields <;> simp

end

/-! ## Floats in a tree -/

/-- Somewhere in the tree there is a float, as a value or in a key. -/
def HasFloat (value : SerdeValue F) : Prop := ∃ x, .float x ∈ parts value

/-- A key without the wrappers that the key serializer sees through. -/
def bare : SerdeValue F → SerdeValue F
  | .some value => bare value
  | .newtypeStruct value => bare value
  | value => value

/-- A key of a kind that can name an entry. -/
def Names (key : SerdeValue F) : Prop :=
  match bare key with
  | .bool _ | .int _ | .float _ | .char _ | .str _ | .unitVariant _ => True
  | _ => False

/-- Every leaf that is no float can be serialized: no map has a key of another kind. -/
def OthersSerializable (value : SerdeValue F) : Prop :=
  ∀ entries, .map entries ∈ parts value → ∀ e ∈ entries, Names e.1

/-- A float that is not finite is the key of a map somewhere in the tree. -/
def HasNonFiniteKey (value : SerdeValue F) : Prop :=
  ∃ entries, .map entries ∈ parts value ∧
    ∃ e ∈ entries, ∃ x, bare e.1 = .float x ∧ format.isFinite x = false

/-- The wrappers of a key do not change its name. -/
theorem keyName_bare : ∀ key : SerdeValue F, keyName format (bare key) = keyName format key
  | .some value | .newtypeStruct value => keyName_bare value
  | .bool _ | .int _ | .float _ | .char _ | .str _ | .bytes _ | .none | .unit | .unitStruct
  | .unitVariant _ | .newtypeVariant .. | .seq _ | .tupleVariant .. | .map _ | .struct _
  | .structVariant .. => rfl

/-- Of the keys that could be names only a float can fail, and only one that is not finite. -/
theorem keyName_isSome_iff {key : SerdeValue F} (h : Names key) :
    (keyName format key).isSome = true ↔ ∀ x, bare key = .float x → format.isFinite x = true := by
  rw [← keyName_bare]
  rw [Names] at h
  generalize bare key = leaf at h ⊢
  cases leaf <;> simp_all [keyName]

/-- What is under the wrappers is a part. -/
theorem bare_mem_parts : ∀ value : SerdeValue F, bare value ∈ parts value
  | .some value | .newtypeStruct value => List.mem_cons_of_mem _ (bare_mem_parts value)
  | .bool _ | .int _ | .float _ | .char _ | .str _ | .bytes _ | .none | .unit | .unitStruct
  | .unitVariant _ | .newtypeVariant .. | .seq _ | .tupleVariant .. | .map _ | .struct _
  | .structVariant .. => List.mem_cons_self

/-- Such a key is a float of the tree. -/
theorem hasFloat_of_hasNonFiniteKey {value : SerdeValue F}
    (h : HasNonFiniteKey format value) : HasFloat value := by
  obtain ⟨entries, hmap, e, he, x, hbare, -⟩ := h
  refine ⟨x, key_subset_parts hmap he ?_⟩
  rw [← hbare]
  exact bare_mem_parts e.1

end SerdeValue

namespace CanonicalSerializer

open SerdeValue

variable {F B256 : Type} (format : FloatFormat F) (keccak256 : ByteArray → B256)

/-- The call reported an error. -/
def Refused {α : Type} (r : Except String α) : Prop := ∃ e, r = .error e

theorem refused_iff {α : Type} {r : Except String α} : Refused r ↔ r.toOption.isSome = false := by
  cases r with
  | ok a => simp [Refused, Except.toOption]
  | error e => simp [Refused, Except.toOption]

/-- The digest is refused exactly where the text is, since it is taken of the text. -/
theorem refused_hash {obj : SerdeValue F} :
    Refused (hash format keccak256 obj) ↔ Refused (serialize format obj) := by
  rw [refused_iff, refused_iff, hash, toOption_bind]
  cases (serialize format obj).toOption <;> simp

/-- What is refused is a key, and among keys that could be names a float that is not finite. Every
    other float is written: a finite one in digits, and the rest as `null`. -/
theorem refused_serialize {obj : SerdeValue F} (hothers : obj.OthersSerializable) :
    Refused (serialize format obj) ↔ obj.HasNonFiniteKey format := by
  rw [refused_iff, serialize_eq_bytes, Option.isSome_map, ← Bool.not_eq_true,
    document_isSome_iff, KeysWritten, HasNonFiniteKey]
  push Not
  refine exists_congr fun entries => and_congr_right fun hmap => exists_congr fun e =>
    and_congr_right fun he => ?_
  rw [Ne, keyName_isSome_iff format (hothers entries hmap e he)]
  simp

/-- Serialization and digest refuse a value exactly where a float occurs in it. -/
def RefusesFloats (obj : SerdeValue F) : Prop :=
  (Refused (serialize format obj) ↔ obj.HasFloat) ∧
    (Refused (hash format keccak256 obj) ↔ obj.HasFloat)

/-- **Floats are refused as keys that are not finite, and nowhere else**: the promise is kept by
    the values that have such a key, and by those that have no float at all. -/
theorem refusesFloats_iff {obj : SerdeValue F} (hothers : obj.OthersSerializable) :
    RefusesFloats format keccak256 obj ↔ ¬ obj.HasFloat ∨ obj.HasNonFiniteKey format := by
  rw [RefusesFloats, refused_hash, refused_serialize format hothers, and_self]
  have hfloat : obj.HasNonFiniteKey format → obj.HasFloat := hasFloat_of_hasNonFiniteKey format
  tauto

/-- A map of two names has no float in it. -/
theorem sample_refusesFloats : RefusesFloats tenthsFormat id aFirst := by
  refine (refusesFloats_iff tenthsFormat id ?_).mpr (.inl ?_)
  · intro entries hmap e he
    obtain rfl : entries = [(.str "a", .int 1), (.str "b", .int 2)] := by
      simpa [aFirst, parts, entryParts] using hmap
    simp only [List.mem_cons, List.not_mem_nil, or_false] at he
    obtain rfl | rfl := he <;> trivial
  · rintro ⟨x, hx⟩
    simp [aFirst, parts, entryParts] at hx

/-- `[1.5]` -/
def oneAndAHalf : SerdeValue (Option ℕ) := .seq [.float (some 15)]

/-- A finite float as a value is written, although there is a float in the tree. -/
theorem sample_float_written :
    oneAndAHalf.OthersSerializable ∧ ¬ RefusesFloats tenthsFormat id oneAndAHalf := by
  refine ⟨by simp [OthersSerializable, oneAndAHalf, parts, elementParts], ?_⟩
  intro h
  have hfloat : oneAndAHalf.HasFloat := ⟨some 15, by simp [oneAndAHalf, parts, elementParts]⟩
  obtain ⟨e, he⟩ := h.1.mpr hfloat
  cases he

end CanonicalSerializer

end ArbEngine
