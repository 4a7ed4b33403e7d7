import Toolwire.Json.Basic
import Toolwire.Secret.Finding
/-!
# Secrets in declarations

Every string in a declaration is looked at for a secret written out. A string that is a
member of an object is looked at together with its key, unless the object lies in a section
whose keys name placeholders or labels. A finding is told with the path of its string.
-/
namespace Toolwire.Leak

open Secret

/-- Sections whose keys are no credential names. -/
def unkeyedSections : List String := ["parameter_mapping", "response_mapping"]

/-- The path of a member. -/
def memberPath (at_ key : String) : String := if at_.isEmpty then key else at_ ++ "." ++ key

/-- A finding at a path, in words. -/
def describe (at_ : String) (finding : Option Finding) : List String :=
  match finding with
  | some f => [at_ ++ ": " ++ f.describe]
  | none => []

mutual

/-- The findings in a value at a path; `keyed` says that keys may name credentials. -/
def walk (at_ : String) (keyed : Bool) : Json → List String
  | .obj ms => walkMembers at_ keyed ms
  | .arr items => walkItems at_ keyed 0 items
  | .str s => describe (if at_.isEmpty then "value" else at_) (detect s)
  | _ => []

/-- The findings in the members of an object. -/
def walkMembers (at_ : String) (keyed : Bool) : List (String × Json) → List String
  | [] => []
  | (key, child) :: rest =>
    let path := memberPath at_ key
    let keyedHere := keyed && !unkeyedSections.contains key
    let here := match child with
      | .str s => describe path (if keyedHere then detectField key s else detect s)
      | other => walk path keyedHere other
    here ++ walkMembers at_ keyed rest

/-- The findings in the items of an array, counted from `index`. -/
def walkItems (at_ : String) (keyed : Bool) (index : Nat) : List Json → List String
  | [] => []
  | item :: rest =>
    walk (at_ ++ "[" ++ toString index ++ "]") keyed item ++ walkItems at_ keyed (index + 1) rest

end

/-- The findings in a declaration, in document order. -/
def findings (raw : Json) : List String := walk "" true raw

end Toolwire.Leak
