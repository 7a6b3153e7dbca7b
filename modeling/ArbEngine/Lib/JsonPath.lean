import ArbEngine.Lib.Decimal
import ArbEngine.Lib.Json

/-!
# Looking into a JSON value

Nothing that is looked up is an error: what is not there, or under something that is no object,
is absent, and `index` makes it `null`. Of two entries with one key the later counts. The `as`
readers answer for a value of their own kind only.
-/

namespace Json

def get? : Json → String → Option Json
  | .obj entries, key => entries.reverse.lookup key.toList
  | _, _ => none

def getIdx? : Json → ℕ → Option Json
  | .arr items, i => items[i]?
  | _, _ => none

def index (j : Json) (key : String) : Json := (j.get? key).getD .null

def asStr : Json → Option String
  | .str s => some (String.ofList s)
  | _ => none

def asArray : Json → Option (List Json)
  | .arr items => some items
  | _ => none

def asBool : Json → Option Bool
  | .bool b => some b
  | _ => none

/-- The value of a number that is spelled with digits only, in 64 bits. -/
def asU64 : Json → Option ℕ
  | .num n =>
      if n.chars.all Char.isDigit && digitsValue n.chars < 2 ^ 64 then some (digitsValue n.chars)
      else none
  | _ => none

/-- The value of an integer of 64 bits; `-0` is none. -/
def asI64 : Json → Option ℤ
  | .num n =>
      match n.chars with
      | '-' :: digits =>
          if digits.all Char.isDigit && 0 < digitsValue digits && digitsValue digits ≤ 2 ^ 63 then
            some (-(digitsValue digits : ℤ))
          else none
      | digits =>
          if digits.all Char.isDigit && digitsValue digits < 2 ^ 63 then some (digitsValue digits)
          else none
  | _ => none

/-- The first of these fields that is a string. -/
def firstStr (j : Json) : List String → Option String
  | [] => none
  | key :: keys => ((j.index key).asStr).or (firstStr j keys)

variable {j : Json} {key : String} {keys : List String} {s : String}

@[simp] theorem asStr_null : Json.null.asStr = none := rfl

@[simp] theorem asStr_str (s : List Char) : (Json.str s).asStr = some (String.ofList s) := rfl

/-- Where one of the fields is a string, one of them is the first. -/
theorem exists_firstStr (mem : key ∈ keys) (h : (j.index key).asStr = some s) :
    ∃ first, j.firstStr keys = some first := by
  induction keys with
  | nil => cases mem
  | cons k keys ih =>
    rw [firstStr]
    cases hk : (j.index k).asStr with
    | some text => exact ⟨text, rfl⟩
    | none =>
      rcases List.mem_cons.mp mem with rfl | mem
      · rw [hk] at h
        cases h
      · exact ih mem

end Json
