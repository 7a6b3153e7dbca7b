import Mathlib.Data.List.DropRight
import Mathlib.Tactic.Common

/-!
# Query strings

Parameters are written `key=value` with ampersands between them, and nothing is escaped. A reader
splits at every ampersand, and each part at its first equals sign. What is read is what was
written exactly where no value has an ampersand in it (`read_text_iff`), and a value that has one
is read up to it (`exists_read_cons`). A query that is put behind another is read behind it
(`read_append`).
-/

namespace QueryString

/-- A key and its value. -/
abbrev Param := List Char × List Char

/-- One parameter as it is written. -/
def paramText (p : Param) : List Char := p.1 ++ '=' :: p.2

/-- The parameters in their order, an ampersand between two of them and none at the ends. -/
def text : List Param → List Char
  | [] => []
  | [p] => paramText p
  | p :: ps => paramText p ++ '&' :: text ps

/-- A part without an equals sign is a key with an empty value. -/
def readParam (part : List Char) : Param :=
  (part.takeWhile (· != '='), (part.dropWhile (· != '=')).tail)

/-- An empty query is read as one parameter without a key. -/
def read (query : List Char) : List Param := (query.splitOn '&').map readParam

/-- A query without its last parameter, and that parameter. -/
def splitLast (query : List Char) : List Char × Param :=
  ((query.rdropWhile (· != '&')).dropLast, readParam (query.rtakeWhile (· != '&')))

/-- A key that reads as one. -/
def PlainKey (key : List Char) : Prop := '=' ∉ key ∧ '&' ∉ key

instance (key : List Char) : Decidable (PlainKey key) := by
  unfold PlainKey
  infer_instance

variable {p : Param} {ps : List Param} {xs ys : List Char}

@[simp] theorem text_singleton (p : Param) : text [p] = paramText p := rfl

/-- A parameter in front of others. -/
theorem text_cons (p : Param) (h : ps ≠ []) : text (p :: ps) = paramText p ++ '&' :: text ps := by
  cases ps with
  | nil => exact absurd rfl h
  | cons q ps => rfl

/-- A query is made of its parameters and of what stands between them. -/
theorem mem_text {c : Char} (h : c ∈ text ps) :
    c = '&' ∨ c = '=' ∨ ∃ p ∈ ps, c ∈ p.1 ∨ c ∈ p.2 := by
  have param : ∀ p : Param, c ∈ paramText p → c = '=' ∨ c ∈ p.1 ∨ c ∈ p.2 := by
    intro p inside
    rw [paramText, List.mem_append, List.mem_cons] at inside
    tauto
  induction ps with
  | nil => exact absurd h List.not_mem_nil
  | cons p ps ih =>
    have here : c ∈ paramText p → c = '&' ∨ c = '=' ∨ ∃ q ∈ p :: ps, c ∈ q.1 ∨ c ∈ q.2 := by
      intro inside
      rcases param p inside with equals | inParam
      · exact .inr (.inl equals)
      · exact .inr (.inr ⟨p, List.mem_cons_self, inParam⟩)
    by_cases last : ps = []
    · subst last
      exact here h
    · rw [text_cons p last, List.mem_append, List.mem_cons] at h
      rcases h with first | between | later
      · exact here first
      · exact .inl between
      · rcases ih later with between | equals | ⟨q, hq, inParam⟩
        · exact .inl between
        · exact .inr (.inl equals)
        · exact .inr (.inr ⟨q, List.mem_cons_of_mem _ hq, inParam⟩)

/-- A parameter is read back if its key is plain; its value may have equals signs in it. -/
theorem readParam_paramText (h : PlainKey p.1) : readParam (paramText p) = p := by
  have key : ∀ c ∈ p.1, (c != '=') = true := by
    intro c hc
    rw [bne_iff_ne]
    rintro rfl
    exact h.1 hc
  rw [readParam, paramText, List.takeWhile_append_of_pos key, List.dropWhile_append_of_pos key]
  simp

/-- A query behind another one is read behind it. -/
theorem read_append (xs ys : List Char) : read (xs ++ '&' :: ys) = read xs ++ read ys := by
  rw [read, List.splitOn_append_cons_self, List.map_append]
  rfl

/-- Alone, a parameter is read back. -/
theorem read_paramText (key : PlainKey p.1) (value : '&' ∉ p.2) : read (paramText p) = [p] := by
  have whole : '&' ∉ paramText p := by
    rw [paramText, List.mem_append, List.mem_cons]
    rintro (inKey | equals | inValue)
    · exact key.2 inKey
    · exact absurd equals (by decide)
    · exact value inValue
  rw [read, List.splitOn_eq_singleton whole, List.map_singleton, readParam_paramText key]

/-- The first parameter is read up to its first ampersand, whatever comes after it. A reader cannot
    know that the rest of the value belonged to it. -/
theorem exists_read_cons (key : PlainKey p.1) (ps : List Param) :
    ∃ rest, read (text (p :: ps)) = (p.1, p.2.takeWhile (· != '&')) :: rest := by
  obtain ⟨k, v⟩ := p
  have plain : '&' ∉ v.takeWhile (· != '&') := by
    intro inside
    exact absurd (List.mem_takeWhile_imp inside) (by simp)
  have first := read_paramText (p := (k, v.takeWhile (· != '&'))) key plain
  -- without an ampersand in the value it ends with the parameter, with one it ends there
  cases tail : v.dropWhile (· != '&') with
  | nil =>
    have whole : v.takeWhile (· != '&') = v := by
      have := List.takeWhile_append_dropWhile (p := (· != '&')) (l := v)
      rwa [tail, List.append_nil] at this
    rw [whole] at first ⊢
    by_cases last : ps = []
    · subst last
      exact ⟨[], first⟩
    · exact ⟨read (text ps), by rw [text_cons _ last, read_append, first]; rfl⟩
  | cons c after =>
    obtain rfl : c = '&' := by
      have head := List.head?_dropWhile_not (· != '&') v
      rw [tail] at head
      simpa using head
    have parts : v = v.takeWhile (· != '&') ++ '&' :: after := by
      rw [← tail, List.takeWhile_append_dropWhile]
    -- what is behind the ampersand is read as parameters of its own
    have split : ∃ more, text ((k, v) :: ps) =
        paramText (k, v.takeWhile (· != '&')) ++ '&' :: more := by
      by_cases last : ps = []
      · subst last
        refine ⟨after, ?_⟩
        rw [text_singleton, paramText, paramText]
        dsimp only
        conv_lhs => rw [parts]
        simp
      · refine ⟨after ++ '&' :: text ps, ?_⟩
        rw [text_cons _ last, paramText, paramText]
        dsimp only
        conv_lhs => rw [parts]
        simp
    obtain ⟨more, split⟩ := split
    exact ⟨read more, by rw [split, read_append, first]; rfl⟩

/-- What is put behind a query is split off again, whatever the query is. -/
theorem splitLast_append {part : List Char} (h : '&' ∉ part) (query : List Char) :
    splitLast (query ++ '&' :: part) = (query, readParam part) := by
  have rest : ∀ c ∈ part.reverse, (c != '&') = true := by
    intro c hc
    rw [bne_iff_ne]
    rintro rfl
    exact h (List.mem_reverse.mp hc)
  have reversed : (query ++ '&' :: part).reverse = part.reverse ++ '&' :: query.reverse := by simp
  rw [splitLast, List.rdropWhile, List.rtakeWhile, reversed, List.dropWhile_append_of_pos rest,
    List.takeWhile_append_of_pos rest]
  simp

/-! ## How many parameters are read -/

/-- One part more than there are separators. -/
theorem length_splitOn (c : Char) (xs : List Char) :
    (xs.splitOn c).length = xs.count c + 1 := by
  induction xs with
  | nil => rfl
  | cons x xs ih =>
    rw [List.splitOn_cons_eq_if_modifyHead]
    by_cases same : x = c
    · simp [same, ih]
    · simp [same, ih]

/-- So the number of parameters is known from the text. -/
theorem length_read (xs : List Char) : (read xs).length = xs.count '&' + 1 := by
  rw [read, List.length_map, length_splitOn]

/-- Plain keys have no ampersand, so all of them are in the values. -/
theorem count_paramText (key : PlainKey p.1) : (paramText p).count '&' = p.2.count '&' := by
  rw [paramText, List.count_append, List.count_eq_zero.mpr key.2, Nat.zero_add]
  exact List.count_cons_of_ne (by decide)

/-- Every ampersand in a value makes for one parameter more. -/
theorem length_read_text (keys : ∀ p ∈ ps, PlainKey p.1) (some_ : ps ≠ []) :
    (read (text ps)).length = ps.length + (ps.flatMap Prod.snd).count '&' := by
  induction ps with
  | nil => exact absurd rfl some_
  | cons p ps ih =>
    have key := keys p List.mem_cons_self
    by_cases last : ps = []
    · subst last
      rw [text_singleton, length_read, count_paramText key]
      simp [Nat.add_comm]
    · rw [text_cons p last, read_append, List.length_append,
        ih (fun q hq => keys q (List.mem_cons_of_mem _ hq)) last, length_read,
        count_paramText key, List.flatMap_cons, List.count_append, List.length_cons]
      omega

/-- What was written is read, if no value has an ampersand in it. -/
theorem read_text (keys : ∀ p ∈ ps, PlainKey p.1) (values : ∀ p ∈ ps, '&' ∉ p.2)
    (some_ : ps ≠ []) : read (text ps) = ps := by
  induction ps with
  | nil => exact absurd rfl some_
  | cons p ps ih =>
    have first := read_paramText (keys p List.mem_cons_self) (values p List.mem_cons_self)
    by_cases last : ps = []
    · subst last
      rw [text_singleton, first]
    · rw [text_cons p last, read_append, first,
        ih (fun q hq => keys q (List.mem_cons_of_mem _ hq))
          (fun q hq => values q (List.mem_cons_of_mem _ hq)) last]
      rfl

/-- **When a query is read as it was written**: no value has an ampersand in it. -/
theorem read_text_iff (keys : ∀ p ∈ ps, PlainKey p.1) (some_ : ps ≠ []) :
    read (text ps) = ps ↔ ∀ p ∈ ps, '&' ∉ p.2 := by
  refine ⟨fun same p hp => ?_, fun values => read_text keys values some_⟩
  -- Reading the same number of parameters leaves no room for an ampersand in a value.
  have none : (ps.flatMap Prod.snd).count '&' = 0 := by
    have lengths := length_read_text keys some_
    rw [same] at lengths
    omega
  intro ampersand
  exact List.count_eq_zero.mp none (List.mem_flatMap.mpr ⟨p, hp, ampersand⟩)

end QueryString
