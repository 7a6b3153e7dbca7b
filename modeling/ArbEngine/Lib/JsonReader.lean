import Mathlib.Algebra.BigOperators.Group.List.Basic
import Mathlib.Data.List.TakeWhile
import ArbEngine.Lib.Json

/-!
# A reader for compact JSON

The first character of a text tells which kind of value it begins (`kindOf`), and the reader of
that kind hands back the value and what stands behind it. Blanks are not skipped, so what is read
is the compact text that `Json.text` writes, and nothing else needs to be.

The readers call each other once for every item and once for every level, which is fuel for them.
Twice the length of the text is always enough: an item has at least one character, and so has what
follows it (`readValue_text`). `ofText` reads a whole text, and reads every value back from its own
one (`ofText_text`).
-/

namespace Json

/-! ## Leaves -/

/-- The inside of a string, up to the quote that ends it. Every character takes one unit of fuel,
    however it is escaped. -/
def readString : ℕ → List Char → Option (List Char × List Char)
  | 0, _ => none
  | fuel + 1, text =>
      if text.head? = some '"' then some ([], text.tail)
      else do
        let (c, text) ← unescape text
        let (s, text) ← readString fuel text
        return (c :: s, text)

/-- A string with its quotes. -/
def readQuoted (text : List Char) : Option (List Char × List Char) :=
  if text.head? = some '"' then readString text.length text.tail else none

/-- As many characters of a number as there are. Whether they make sense as a number is not asked,
    for the value keeps them as they are. -/
def readNumber (text : List Char) : Option (JsonNumber × List Char) :=
  if ne_nil : text.takeWhile isNumberChar = [] then none
  else
    some ({ chars := text.takeWhile isNumberChar, ne_nil,
            allNumber := fun _ hc => List.mem_takeWhile_imp hc },
      text.dropWhile isNumberChar)

/-! ## Values -/

mutual

/-- One value, and what stands behind it. The first character decides which reader is asked, and
    that reader does not give way to another. -/
def readValue : ℕ → List Char → Option (Json × List Char)
  | 0, _ => none
  | fuel + 1, text =>
      match text.head?.bind kindOf with
      | none => none
      | some .null => (text.dropPrefix? "null".toList).map fun rest => (.null, rest)
      | some .bool =>
          ((text.dropPrefix? "true".toList).map fun rest => (.bool true, rest)).or
            ((text.dropPrefix? "false".toList).map fun rest => (.bool false, rest))
      | some .num => (readNumber text).map fun read => (.num read.1, read.2)
      | some .str => (readQuoted text).map fun read => (.str read.1, read.2)
      | some .arr => (readItems fuel true text.tail).map fun read => (.arr read.1, read.2)
      | some .obj => (readEntries fuel true text.tail).map fun read => (.obj read.1, read.2)

/-- The items up to the bracket that closes their array. Between two items stands a comma, and none
    in front of the first. -/
def readItems : ℕ → Bool → List Char → Option (List Json × List Char)
  | 0, _, _ => none
  | fuel + 1, first, text =>
      if text.head? = some ']' then some ([], text.tail)
      else do
        let text ← text.dropPrefix? (separator first)
        let (a, text) ← readValue fuel text
        let (items, text) ← readItems fuel false text
        return (a :: items, text)

/-- The entries up to the brace that closes their object: a name in quotes, a colon, and a value.
    -/
def readEntries : ℕ → Bool → List Char → Option (List (List Char × Json) × List Char)
  | 0, _, _ => none
  | fuel + 1, first, text =>
      if text.head? = some '}' then some ([], text.tail)
      else do
        let text ← text.dropPrefix? (separator first)
        let (k, text) ← readQuoted text
        let text ← text.dropPrefix? [':']
        let (a, text) ← readValue fuel text
        let (entries, text) ← readEntries fuel false text
        return ((k, a) :: entries, text)

end

/-- The value that a text says, if it says one and nothing more. -/
def ofText (text : List Char) : Option Json :=
  match readValue (2 * text.length + 1) text with
  | some (a, []) => some a
  | _ => none

/-! ## What was written is read -/

section Leaves

variable {rest : List Char}

/-- A word is taken off the text that begins with it. -/
theorem dropPrefix?_append_self (word rest : List Char) :
    (word ++ rest).dropPrefix? word = some rest :=
  List.dropPrefix?_append_of_beq rest (beq_self_eq_true word)

/-- No character is escaped by nothing. -/
theorem escape_ne_nil (c : Char) : escape c ≠ [] := by
  rw [escape]
  split
  · exact List.cons_ne_nil _ _
  · split <;> exact List.cons_ne_nil _ _

/-- What stands for a character never begins with a quote, so a string does not end early. -/
theorem head_escape_ne_quote (c : Char) (rest : List Char) :
    (escape c ++ rest).head? ≠ some '"' := by
  intro h
  obtain ⟨tail, htail⟩ := List.head?_eq_some_iff.mp h
  exact escape_append_ne_quote htail

/-- A string is read back from its characters, each escaped, and stops at its own quote. By
    induction on the string, for any fuel that is larger than its length. -/
theorem readString_escapes (s : List Char) (fuel : ℕ) (enough : s.length < fuel) :
    readString fuel (s.flatMap escape ++ '"' :: rest) = some (s, rest) := by
  induction s generalizing fuel with
  | nil =>
    obtain ⟨fuel, rfl⟩ := Nat.exists_eq_add_of_le' enough
    rfl
  | cons c s ih =>
    obtain ⟨fuel, rfl⟩ := Nat.exists_eq_add_of_le' (Nat.one_le_of_lt enough)
    have later := ih fuel (by simpa using enough)
    rw [readString, List.flatMap_cons, List.append_assoc, if_neg (head_escape_ne_quote c _)]
    simp [unescape_escape, later]

/-- The text has at least one character for each of the string, which is the fuel that the reader
    starts with. -/
theorem readQuoted_quote (s rest : List Char) :
    readQuoted (quote s ++ rest) = some (s, rest) := by
  have shape : quote s ++ rest = '"' :: (s.flatMap escape ++ '"' :: rest) := by simp [quote]
  have long : s.length ≤ (s.flatMap escape).length := by
    rw [List.length_flatMap]
    have each : ∀ n ∈ s.map fun c => (escape c).length, 1 ≤ n := by
      intro n hn
      obtain ⟨c, -, rfl⟩ := List.mem_map.mp hn
      exact List.length_pos_of_ne_nil (escape_ne_nil c)
    simpa using List.length_le_sum_of_one_le _ each
  rw [readQuoted, shape, List.head?_cons, if_pos rfl, List.tail_cons]
  refine readString_escapes s _ ?_
  rw [List.length_cons, List.length_append, List.length_cons]
  omega

/-- A number is read back where nothing behind it could belong to it. -/
theorem readNumber_chars (n : JsonNumber) (stops : Stops rest) :
    readNumber (n.chars ++ rest) = some (n, rest) := by
  have taken : (n.chars ++ rest).takeWhile isNumberChar = n.chars := by
    rw [List.takeWhile_append_of_pos n.allNumber]
    cases rest with
    | nil => simp
    | cons c rest => simp [stops c rfl]
  have dropped : (n.chars ++ rest).dropWhile isNumberChar = rest := by
    rw [List.dropWhile_append_of_pos n.allNumber]
    cases rest with
    | nil => rfl
    | cons c rest => simp [stops c rfl]
  unfold readNumber
  rw [dif_neg (by rw [taken]; exact n.ne_nil), dropped]
  simp only [taken]

end Leaves

/-- No value has an empty text. -/
theorem text_ne_nil (a : Json) : a.text ≠ [] := by
  intro empty
  have kind := text_append_kind a []
  rw [empty] at kind
  cases kind

theorem length_text_pos (a : Json) : 0 < a.text.length := List.length_pos_of_ne_nil a.text_ne_nil

/-- The bracket at the end is always there. -/
theorem length_itemsText_pos (first : Bool) (items : List Json) :
    0 < (itemsText first items).length := by
  cases items with
  | nil => simp [itemsText]
  | cons a items =>
    have here := a.length_text_pos
    simp only [itemsText, List.length_append]
    omega

theorem length_entriesText_pos (first : Bool) (entries : List (List Char × Json)) :
    0 < (entriesText first entries).length := by
  cases entries with
  | nil => simp [entriesText]
  | cons e entries =>
    obtain ⟨k, a⟩ := e
    simp only [entriesText, List.length_append, List.length_cons]
    omega

/-- An array with an item does not begin with its closing bracket. -/
theorem head_itemsText_cons (first : Bool) (a : Json) (items : List Json) (rest : List Char) :
    (itemsText first (a :: items) ++ rest).head? ≠ some ']' := by
  intro h
  obtain ⟨tail, htail⟩ := List.head?_eq_some_iff.mp h
  exact itemsText_nil_ne htail.symm

/-- Nor does an object with an entry begin with its closing brace. -/
theorem head_entriesText_cons (first : Bool) (e : List Char × Json)
    (entries : List (List Char × Json)) (rest : List Char) :
    (entriesText first (e :: entries) ++ rest).head? ≠ some '}' := by
  intro h
  obtain ⟨tail, htail⟩ := List.head?_eq_some_iff.mp h
  exact entriesText_nil_ne htail.symm

mutual

/-- **A value is read from its text**, whatever stands behind it. By recursion over the value;
    what is in it is read with the fuel that is left. -/
theorem readValue_text : ∀ (a : Json) (fuel : ℕ) (rest : List Char),
    2 * a.text.length ≤ fuel + 1 → Stops rest →
      readValue (fuel + 1) (a.text ++ rest) = some (a, rest) := by
  intro a fuel rest enough stops
  have kind := text_append_kind a rest
  rw [readValue, kind]
  -- the kind is read off the first character, so for each constructor there is one branch of the
  -- reader
  match a with
  | .null =>
    dsimp only [Json.kind]
    rw [text, dropPrefix?_append_self]
    rfl
  | .bool true =>
    dsimp only [Json.kind]
    rw [text, if_pos rfl, dropPrefix?_append_self]
    rfl
  | .bool false =>
    dsimp only [Json.kind]
    rw [text, if_neg Bool.false_ne_true, dropPrefix?_append_self]
    rfl
  | .num n =>
    dsimp only [Json.kind]
    rw [text, readNumber_chars n stops]
    rfl
  | .str s =>
    dsimp only [Json.kind]
    rw [text, readQuoted_quote]
    rfl
  | .arr items =>
    dsimp only [Json.kind]
    rw [text, List.length_cons] at enough
    -- the brackets are two characters, which is where the fuel for one level deeper comes from
    have inside := readItems_text items true fuel rest (by omega)
    rw [text, List.cons_append, List.tail_cons, inside]
    rfl
  | .obj entries =>
    dsimp only [Json.kind]
    rw [text, List.length_cons] at enough
    have inside := readEntries_text entries true fuel rest (by omega)
    rw [text, List.cons_append, List.tail_cons, inside]
    rfl

/-- The items of an array, by recursion over them. The first item is read with one unit less and
    the others with two, and the text that they share pays for both. -/
theorem readItems_text : ∀ (items : List Json) (first : Bool) (fuel : ℕ) (rest : List Char),
    2 * (itemsText first items).length ≤ fuel + 1 →
      readItems fuel first (itemsText first items ++ rest) = some (items, rest) := by
  intro items first fuel rest enough
  match items with
  | [] =>
    rw [itemsText, List.length_singleton] at enough
    obtain ⟨fuel, rfl⟩ := Nat.exists_eq_add_of_le' (show 1 ≤ fuel by omega)
    rfl
  | a :: items =>
    have own := a.length_text_pos
    have others := length_itemsText_pos false items
    have opens := head_itemsText_cons first a items rest
    simp only [itemsText, List.length_append] at enough
    -- one unit for this call, and one for the value
    obtain ⟨fuel, rfl⟩ := Nat.exists_eq_add_of_le' (show 2 ≤ fuel by omega)
    have here := readValue_text a fuel (itemsText false items ++ rest) (by omega)
      (stops_itemsText items rest)
    have later := readItems_text items false (fuel + 1) rest (by omega)
    rw [readItems, if_neg opens, itemsText, List.append_assoc, dropPrefix?_append_self,
      List.append_assoc]
    simp [here, later]

/-- The entries of an object, in the same way; a name and a colon come before each value. -/
theorem readEntries_text : ∀ (entries : List (List Char × Json)) (first : Bool) (fuel : ℕ)
    (rest : List Char), 2 * (entriesText first entries).length ≤ fuel + 1 →
      readEntries fuel first (entriesText first entries ++ rest) = some (entries, rest) := by
  intro entries first fuel rest enough
  match entries with
  | [] =>
    rw [entriesText, List.length_singleton] at enough
    obtain ⟨fuel, rfl⟩ := Nat.exists_eq_add_of_le' (show 1 ≤ fuel by omega)
    rfl
  | (k, a) :: entries =>
    have own := a.length_text_pos
    have others := length_entriesText_pos false entries
    have opens := head_entriesText_cons first (k, a) entries rest
    simp only [entriesText, List.length_append, List.length_cons] at enough
    obtain ⟨fuel, rfl⟩ := Nat.exists_eq_add_of_le' (show 2 ≤ fuel by omega)
    have here := readValue_text a fuel (entriesText false entries ++ rest) (by omega)
      (stops_entriesText entries rest)
    have later := readEntries_text entries false (fuel + 1) rest (by omega)
    have colon : ∀ after, (':' :: after).dropPrefix? [':'] = some after :=
      dropPrefix?_append_self [':']
    rw [readEntries, if_neg opens, entriesText, List.append_assoc, dropPrefix?_append_self,
      List.append_assoc, List.cons_append, List.append_assoc]
    simp [readQuoted_quote, colon, here, later]

end

/-- **Every value is read back from its own text.** -/
@[simp] theorem ofText_text (a : Json) : ofText a.text = some a := by
  have read := readValue_text a (2 * a.text.length) [] (Nat.le_succ _) stops_nil
  rw [List.append_nil] at read
  rw [ofText, read]

end Json
