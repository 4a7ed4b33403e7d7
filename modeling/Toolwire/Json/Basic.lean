import Toolwire.Number.Binary64
/-!
# JSON values

Numbers are integers or binary64 numbers. The members of an object stand in ascending
order of their keys; `Members.insert` keeps that order and replaces the value of a key
that is there already.
-/
namespace Toolwire

open Number

/-- A JSON value. -/
inductive Json where
  | null
  | bool (value : Bool)
  | int (value : Int)
  | float (value : Binary64)
  | str (value : String)
  | arr (items : List Json)
  | obj (members : List (String × Json))
  deriving Inhabited, BEq, Repr

/-- The members of an object. -/
abbrev Members := List (String × Json)

namespace Members

/-- The value of a key. -/
def get? (ms : List (String × α)) (key : String) : Option α := ms.lookup key

/-- Whether a key is present. -/
def has (ms : List (String × α)) (key : String) : Bool := (ms.lookup key).isSome

/-- Sets the value of a key, keeping the keys in ascending order. -/
def insert (ms : List (String × α)) (key : String) (value : α) : List (String × α) :=
  match ms with
  | [] => [(key, value)]
  | (k, v) :: rest =>
    if k = key then (key, value) :: rest
    else if key < k then (key, value) :: (k, v) :: rest
    else (k, v) :: insert rest key value

/-- Members without a key. -/
def erase (ms : List (String × α)) (key : String) : List (String × α) :=
  ms.filter fun m => m.1 != key

/-- Pairs in any order as members; the last value of a repeated key stays. -/
def ofList (pairs : List (String × α)) : List (String × α) :=
  pairs.foldl (fun ms p => insert ms p.1 p.2) []

/-- The keys in order. -/
def keys (ms : List (String × α)) : List String := ms.map (·.1)

theorem get?_insert_self (ms : List (String × α)) (key : String) (value : α) :
    get? (insert ms key value) key = some value := by
  induction ms with
  | nil => simp [insert, get?]
  | cons m rest ih =>
    obtain ⟨k, v⟩ := m
    simp only [insert]
    split
    · simp [get?]
    · split
      · simp [get?]
      · rename_i hne _
        have : (key == k) = false := by simp [Ne.symm hne]
        simpa [get?, List.lookup_cons, this] using ih

theorem get?_insert_of_ne (ms : List (String × α)) {key other : String} (value : α)
    (h : other ≠ key) : get? (insert ms key value) other = get? ms other := by
  have hb : (other == key) = false := by simp [h]
  induction ms with
  | nil => simp [insert, get?, List.lookup_cons, hb]
  | cons m rest ih =>
    obtain ⟨k, v⟩ := m
    simp only [insert]
    split
    · rename_i heq
      subst heq
      simp [get?, List.lookup_cons, hb]
    · split
      · simp [get?, List.lookup_cons, hb]
      · simp only [get?, List.lookup_cons] at ih ⊢
        split
        · rfl
        · exact ih

end Members

namespace Json

/-- An object of pairs in any order. -/
def ofPairs (pairs : List (String × Json)) : Json := .obj (Members.ofList pairs)

/-- A natural number as a JSON value. -/
def ofNat (n : Nat) : Json := .int n

/-- An array of strings. -/
def strings (items : List String) : Json := .arr (items.map .str)

/-- The member of an object under a key. -/
def get? (v : Json) (key : String) : Option Json :=
  match v with
  | .obj ms => Members.get? ms key
  | _ => none

/-- The string that a value is. -/
def asStr? : Json → Option String
  | .str s => some s
  | _ => none

/-- The items that an array has. -/
def asArr? : Json → Option (List Json)
  | .arr items => some items
  | _ => none

/-- The members that an object has. -/
def asObj? : Json → Option Members
  | .obj ms => some ms
  | _ => none

/-- The natural number that a value is. -/
def asNat? : Json → Option Nat
  | .int n => if 0 ≤ n then some n.toNat else none
  | _ => none

/-- The truth value that a value is. -/
def asBool? : Json → Option Bool
  | .bool b => some b
  | _ => none

/-- Whether a value is null. -/
def isNull : Json → Bool
  | .null => true
  | _ => false

/-- Whether a value is an object. -/
def isObj : Json → Bool
  | .obj _ => true
  | _ => false

end Json
end Toolwire
