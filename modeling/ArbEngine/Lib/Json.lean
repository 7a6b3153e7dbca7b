import Mathlib.Data.Int.Notation
import Mathlib.Data.List.Basic
import Mathlib.Tactic.Common

/-!
# JSON values and their compact text

A `Json` value keeps an object's entries in the order they were given in, and `text` writes
them in that order, with no blank between anything. Two readings of "the same value" meet here:
equality of the trees, and `Same`, which lets the entries of an object, at any depth, come in
any order.

The text determines the tree (`text_inj`). No value's text is the start of another's, except
that a number may be cut short, so the lemma behind it (`text_append_inj`) reads two texts with
something behind them that a number cannot go on with; an array or an object is read item by
item.

The readers work character by character. `Stops` is what may follow a number; every character that
follows a value inside an array or an object is of this kind, and so is the end of the text.
-/

/-- The characters a number is spelled with. -/
def isNumberChar (c : Char) : Bool := c.isDigit || c ∈ ['-', '+', '.', 'e', 'E']

/-- The spelling of a number: not empty, and all of it number characters. -/
structure JsonNumber where
  chars : List Char
  ne_nil : chars ≠ []
  allNumber : ∀ c ∈ chars, isNumberChar c = true
deriving DecidableEq

/-- The decimal spelling of an integer, with a minus sign in front of a negative one. -/
def JsonNumber.ofInt (i : ℤ) : JsonNumber where
  chars := (if i < 0 then ['-'] else []) ++ Nat.toDigits 10 i.natAbs
  ne_nil := by simp
  allNumber := by
    intro c hc
    rw [isNumberChar, Bool.or_eq_true]
    rcases List.mem_append.mp hc with hsign | hdigit
    · have hminus : c = '-' := by
        split at hsign
        · simpa using hsign
        · cases hsign
      simp [hminus]
    · exact .inl (Nat.isDigit_of_mem_toDigits (by decide) (by decide) hdigit)

/-- A value. An object is a list of entries: names may come twice, and their order is kept. -/
inductive Json where
  | null
  | bool (b : Bool)
  | num (n : JsonNumber)
  | str (s : List Char)
  | arr (items : List Json)
  | obj (entries : List (List Char × Json))

namespace Json

/-! ## Text -/

/-- The characters with a two-character escape of their own. -/
def shortEscape (c : Char) : Option Char :=
  if c = '"' then some '"'
  else if c = '\\' then some '\\'
  else if c = '\x08' then some 'b'
  else if c = '\x0c' then some 'f'
  else if c = '\n' then some 'n'
  else if c = '\r' then some 'r'
  else if c = '\t' then some 't'
  else none

/-- A character as it stands in a string: the other control characters are numbered. -/
def escape (c : Char) : List Char :=
  match shortEscape c with
  | some e => ['\\', e]
  | none =>
    if c.toNat < 0x20 then
      ['\\', 'u', '0', '0', Nat.digitChar (c.toNat / 16), Nat.digitChar (c.toNat % 16)]
    else [c]

/-- A string in quotes, each character as it stands in a string. -/
def quote (s : List Char) : List Char := '"' :: (s.flatMap escape ++ ['"'])

/-- What stands before an item: nothing before the first, a comma before the others. -/
def separator (first : Bool) : List Char := if first then [] else [',']

mutual

/-- The compact text of a value, with no blank between anything. -/
def text : Json → List Char
  | .null => "null".toList
  | .bool b => (if b then "true" else "false").toList
  | .num n => n.chars
  | .str s => quote s
  | .arr items => '[' :: itemsText true items
  | .obj entries => '{' :: entriesText true entries

def itemsText : Bool → List Json → List Char
  | _, [] => [']']
  | first, a :: items => separator first ++ (a.text ++ itemsText false items)

def entriesText : Bool → List (List Char × Json) → List Char
  | _, [] => ['}']
  | first, (k, a) :: entries =>
    separator first ++ (quote k ++ ':' :: (a.text ++ entriesText false entries))

end

/-- The same value up to the order of the entries of its objects, at any depth. -/
inductive Same : Json → Json → Prop
  | refl (a : Json) : Same a a
  | trans {a b c : Json} : Same a b → Same b c → Same a c
  | reorder {l l' : List (List Char × Json)} : l.Perm l' → Same (.obj l) (.obj l')
  | item (before after : List Json) {a b : Json} : Same a b →
      Same (.arr (before ++ a :: after)) (.arr (before ++ b :: after))
  | entry (before after : List (List Char × Json)) (k : List Char) {a b : Json} : Same a b →
      Same (.obj (before ++ (k, a) :: after)) (.obj (before ++ (k, b) :: after))

/-! ## Strings -/

/-- The value of a hexadecimal digit. -/
def hexValue (d : Char) : ℕ := if d.isDigit then d.toNat - 48 else d.toNat - 87

/-- The character that a two-character escape stands for. -/
def unshort (e : Char) : Char :=
  if e = 'b' then '\x08'
  else if e = 'f' then '\x0c'
  else if e = 'n' then '\n'
  else if e = 'r' then '\r'
  else if e = 't' then '\t'
  else e

/-- Reads one character back from the inside of a string. -/
def unescape : List Char → Option (Char × List Char)
  | '\\' :: 'u' :: _ :: _ :: h :: l :: rest =>
    some (Char.ofNat (16 * hexValue h + hexValue l), rest)
  | '\\' :: e :: rest => some (unshort e, rest)
  | c :: rest => some (c, rest)
  | [] => none

theorem hexValue_digitChar : ∀ d < 16, hexValue (Nat.digitChar d) = d := by decide

/-- The letter of a short escape tells the character, and it is not the letter of a numbered one.
    -/
theorem shortEscape_cases {c e : Char} (h : shortEscape c = some e) :
    unshort e = c ∧ e ≠ 'u' := by
  rw [shortEscape] at h
  repeat' split at h
  all_goals first | (cases h; subst c; decide) | cases h

theorem shortEscape_backslash : shortEscape '\\' = some '\\' := by decide

/-- **A character is read back from its escape**, whatever stands behind it. -/
theorem unescape_escape (c : Char) (rest : List Char) :
    unescape (escape c ++ rest) = some (c, rest) := by
  rw [escape]
  split
  · rename_i e he
    obtain ⟨hc, hu⟩ := shortEscape_cases he
    simp [unescape, hc, hu]
  · rename_i he
    split
    · rename_i hlt
      have hh := hexValue_digitChar (c.toNat / 16) (by omega)
      have hl := hexValue_digitChar (c.toNat % 16) (by omega)
      have hc : Char.ofNat (16 * (c.toNat / 16) + c.toNat % 16) = c := by
        rw [Nat.div_add_mod, Char.ofNat_toNat]
      simp [unescape, hh, hl, hc]
    · have hb : c ≠ '\\' := by
        rintro rfl
        simp [shortEscape_backslash] at he
      simp [unescape, hb]

/-- So two characters whose escapes begin one text are the same. -/
theorem escape_append_inj {c c' : Char} {rest rest' : List Char}
    (h : escape c ++ rest = escape c' ++ rest') : c = c' ∧ rest = rest' := by
  have hr := congrArg unescape h
  rw [unescape_escape, unescape_escape] at hr
  simpa using hr

/-- The quote that ends a string does not read as a character of it. -/
theorem escape_append_ne_quote {c : Char} {rest rest' : List Char} :
    escape c ++ rest ≠ '"' :: rest' := by
  intro h
  have hr := congrArg unescape h
  rw [unescape_escape] at hr
  obtain ⟨rfl, rfl⟩ : c = '"' ∧ rest = rest' := by simpa [unescape] using hr
  exact absurd (List.head_eq_of_cons_eq h) (by decide)

/-- A string is determined by its characters up to the quote that ends it. -/
theorem escapes_append_inj {rest rest' : List Char} : ∀ {s s' : List Char},
    s.flatMap escape ++ '"' :: rest = s'.flatMap escape ++ '"' :: rest' →
      s = s' ∧ rest = rest' := by
  intro s
  induction s with
  | nil =>
    intro s' h
    cases s' with
    | nil => simpa using h
    | cons c' s' =>
      rw [List.flatMap_cons, List.append_assoc] at h
      exact absurd h.symm escape_append_ne_quote
  | cons c s ih =>
    intro s' h
    cases s' with
    | nil =>
      rw [List.flatMap_cons, List.append_assoc] at h
      exact absurd h escape_append_ne_quote
    | cons c' s' =>
      rw [List.flatMap_cons, List.flatMap_cons, List.append_assoc, List.append_assoc] at h
      obtain ⟨rfl, hs⟩ := escape_append_inj h
      obtain ⟨rfl, hr⟩ := ih hs
      exact ⟨rfl, hr⟩

/-- And by the text that begins with it in quotes. -/
theorem quote_append_inj {s s' rest rest' : List Char}
    (h : quote s ++ rest = quote s' ++ rest') : s = s' ∧ rest = rest' := by
  apply escapes_append_inj
  simpa [quote] using h

/-- The characters of a number stand for themselves. -/
theorem escape_number {c : Char} (h : isNumberChar c = true) : escape c = [c] := by
  have hc : shortEscape c = none := by
    rw [shortEscape]
    repeat' split
    all_goals first | rfl | (subst c; exact absurd h (by decide))
  have hn : ¬ c.toNat < 0x20 := by
    simp only [isNumberChar, Bool.or_eq_true, decide_eq_true_eq] at h
    rcases h with h | h
    · have h0 : 48 ≤ c.toNat := (Char.isDigit_iff_toNat.mp h).1
      omega
    · simp only [List.mem_cons, List.not_mem_nil, or_false] at h
      rcases h with rfl | rfl | rfl | rfl | rfl <;> decide
  rw [escape, hc]
  exact if_neg hn

theorem quote_number (n : JsonNumber) : quote n.chars = '"' :: (n.chars ++ ['"']) := by
  rw [quote, List.flatMap_congr fun c hc => escape_number (n.allNumber c hc)]
  simp

/-! ## Reading a text back -/

/-- What may stand behind a number without reading as more of it. -/
def Stops (rest : List Char) : Prop := ∀ c ∈ rest.head?, isNumberChar c = false

theorem stops_nil : Stops [] := by simp [Stops]

/-- Two numbers that begin one text are the same where neither can go on. -/
theorem number_append_inj {n n' : JsonNumber} {rest rest' : List Char} (hr : Stops rest)
    (hr' : Stops rest') (h : n.chars ++ rest = n'.chars ++ rest') : n = n' ∧ rest = rest' := by
  have read (n : JsonNumber) {rest : List Char} (hr : Stops rest) :
      (n.chars ++ rest).takeWhile isNumberChar = n.chars := by
    rw [List.takeWhile_append_of_pos n.allNumber]
    cases rest with
    | nil => simp
    | cons c rest => simp [hr c rfl]
  have hn : n.chars = n'.chars := by rw [← read n hr, h, read n' hr']
  have hrest : rest = rest' := by
    rw [hn] at h
    exact List.append_cancel_left h
  cases n
  cases n'
  cases hn
  exact ⟨rfl, hrest⟩

/-- The kinds of value a text can begin. -/
inductive Kind where
  | null | bool | num | str | arr | obj
deriving DecidableEq

/-- The kind of a value. -/
def kind : Json → Kind
  | .null => .null
  | .bool _ => .bool
  | .num _ => .num
  | .str _ => .str
  | .arr _ => .arr
  | .obj _ => .obj

/-- The kind of value whose text begins with a character, if any does. -/
def kindOf (c : Char) : Option Kind :=
  if isNumberChar c then some .num
  else if c = 'n' then some .null
  else if c = 't' ∨ c = 'f' then some .bool
  else if c = '"' then some .str
  else if c = '[' then some .arr
  else if c = '{' then some .obj
  else none

/-- **The first character of a value's text tells its kind.** So values of two kinds never have one
    text. -/
theorem text_append_kind (a : Json) (rest : List Char) :
    (a.text ++ rest).head?.bind kindOf = some a.kind := by
  cases a with
  | null => rfl
  | bool b => cases b <;> rfl
  | num n =>
    obtain ⟨chars, hne, hall⟩ := n
    cases chars with
    | nil => exact absurd rfl hne
    | cons c chars => simp [text, kind, kindOf, hall c (by simp)]
  | str s => rfl
  | arr items => rfl
  | obj entries => rfl

theorem itemsText_nil_ne {first : Bool} {a : Json} {items : List Json} {rest rest' : List Char} :
    itemsText first [] ++ rest ≠ itemsText first (a :: items) ++ rest' := by
  intro h
  cases first with
  | false => exact absurd (List.head_eq_of_cons_eq h) (by decide)
  | true =>
    have hk := text_append_kind a (itemsText false items ++ rest')
    have ht : a.text ++ (itemsText false items ++ rest') = ']' :: rest := by
      simpa [itemsText, separator] using h.symm
    rw [ht] at hk
    cases hk

theorem entriesText_nil_ne {first : Bool} {e : List Char × Json}
    {entries : List (List Char × Json)} {rest rest' : List Char} :
    entriesText first [] ++ rest ≠ entriesText first (e :: entries) ++ rest' := by
  intro h
  cases first with
  | false => exact absurd (List.head_eq_of_cons_eq h) (by decide)
  | true => exact absurd (List.head_eq_of_cons_eq h) (by decide)

theorem stops_itemsText (items : List Json) (rest : List Char) :
    Stops (itemsText false items ++ rest) := by
  cases items with
  | nil => simp [Stops, itemsText]; decide
  | cons a items => simp [Stops, itemsText, separator]; decide

theorem stops_entriesText (entries : List (List Char × Json)) (rest : List Char) :
    Stops (entriesText false entries ++ rest) := by
  cases entries with
  | nil => simp [Stops, entriesText]; decide
  | cons e entries => simp [Stops, entriesText, separator]; decide

mutual

/-- **Two texts that go on the same way are the texts of one value.** By recursion over the
    first value; the kinds of the two agree because their texts begin alike. -/
theorem text_append_inj : ∀ {a b : Json} {rest rest' : List Char}, Stops rest → Stops rest' →
    a.text ++ rest = b.text ++ rest' → a = b ∧ rest = rest' := by
  intro a b rest rest' hr hr' h
  have hkind : a.kind = b.kind := by
    have ha := text_append_kind a rest
    rw [h, text_append_kind b rest'] at ha
    exact (Option.some.inj ha).symm
  match a, b, hkind with
  | .null, .null, _ => simpa [text] using h
  | .bool b, .bool b', _ => cases b <;> cases b' <;> simp_all [text]
  | .num n, .num n', _ =>
    obtain ⟨rfl, hrest⟩ := number_append_inj hr hr' h
    exact ⟨rfl, hrest⟩
  | .str s, .str s', _ =>
    obtain ⟨rfl, hrest⟩ := quote_append_inj h
    exact ⟨rfl, hrest⟩
  | .arr items, .arr items', _ =>
    obtain ⟨rfl, hrest⟩ := itemsText_append_inj (List.tail_eq_of_cons_eq h)
    exact ⟨rfl, hrest⟩
  | .obj entries, .obj entries', _ =>
    obtain ⟨rfl, hrest⟩ := entriesText_append_inj (List.tail_eq_of_cons_eq h)
    exact ⟨rfl, hrest⟩

theorem itemsText_append_inj : ∀ {items items' : List Json} {first : Bool}
    {rest rest' : List Char}, itemsText first items ++ rest = itemsText first items' ++ rest' →
      items = items' ∧ rest = rest' := by
  intro items items' first rest rest' h
  match items, items' with
  | [], [] => simpa [itemsText] using h
  | [], b :: items' => exact absurd h itemsText_nil_ne
  | a :: items, [] => exact absurd h.symm itemsText_nil_ne
  | a :: items, b :: items' =>
    simp only [itemsText, List.append_assoc] at h
    obtain ⟨rfl, hitems⟩ := text_append_inj (stops_itemsText _ _) (stops_itemsText _ _)
      (List.append_cancel_left h)
    obtain ⟨rfl, hrest⟩ := itemsText_append_inj hitems
    exact ⟨rfl, hrest⟩

theorem entriesText_append_inj : ∀ {entries entries' : List (List Char × Json)} {first : Bool}
    {rest rest' : List Char},
    entriesText first entries ++ rest = entriesText first entries' ++ rest' →
      entries = entries' ∧ rest = rest' := by
  intro entries entries' first rest rest' h
  match entries, entries' with
  | [], [] => simpa [entriesText] using h
  | [], e :: entries' => exact absurd h entriesText_nil_ne
  | e :: entries, [] => exact absurd h.symm entriesText_nil_ne
  | (k, a) :: entries, (k', b) :: entries' =>
    simp only [entriesText, List.append_assoc, List.cons_append] at h
    obtain ⟨rfl, hvalue⟩ := quote_append_inj (List.append_cancel_left h)
    obtain ⟨rfl, hentries⟩ := text_append_inj (stops_entriesText _ _) (stops_entriesText _ _)
      (List.tail_eq_of_cons_eq hvalue)
    obtain ⟨rfl, hrest⟩ := entriesText_append_inj hentries
    exact ⟨rfl, hrest⟩

end

/-- **The text determines the value.** -/
theorem text_inj {a b : Json} : a.text = b.text ↔ a = b := by
  constructor
  · intro h
    refine (text_append_inj stops_nil stops_nil ?_).1
    rw [h]
  · rintro rfl
    rfl

/-- The text in UTF-8. -/
def bytes (a : Json) : ByteArray := (String.ofList a.text).toUTF8

theorem bytes_inj {a b : Json} : a.bytes = b.bytes ↔ a = b := by
  rw [bytes, bytes, String.toUTF8, String.toUTF8, String.toByteArray_inj, String.ofList_inj,
    text_inj]

end Json
