import Toolwire.Failure
/-!
# Statements

A statement is the text of a query, never changed, with its placeholders bound to
arguments in the order in which they first appear.
-/
namespace Toolwire.Sql

/-- A statement ready to be run. -/
structure Statement where
  text : String
  /-- Placeholders and the values bound to them. -/
  parameters : List (String × Json)
  deriving Repr, BEq, Inhabited

/-- A row: column names and values. -/
abbrev Row := Members

/-- The parameters as an object. -/
def Statement.parametersJson (s : Statement) : Json := .ofPairs s.parameters

/-- The value that a placeholder is bound to. -/
def bindOne (b : SqlBinding) (args : Members) (placeholder : String) :
    Except Failure (String × Json) :=
  match Members.get? b.parameters placeholder with
  | none =>
    .error (.invalidParameters ("placeholder ':" ++ placeholder
      ++ "' has no parameter_mapping entry"))
  | some argument =>
    match Members.get? args argument with
    | none =>
      .error (.invalidParameters ("missing argument '" ++ argument ++ "' for placeholder ':"
        ++ placeholder ++ "'"))
    | some value => .ok (placeholder, value)

/-- The values that placeholders are bound to. -/
def bindAll (b : SqlBinding) (args : Members) :
    List String → Except Failure (List (String × Json))
  | [] => .ok []
  | placeholder :: rest =>
    match bindOne b args placeholder with
    | .error e => .error e
    | .ok bound => (bindAll b args rest).map (bound :: ·)

/-- The statement of a binding for arguments. -/
def bind (b : SqlBinding) (args : Members) : Except Failure Statement :=
  (bindAll b args (Query.scan b.query).placeholders).map fun bound => ⟨b.query, bound⟩

end Toolwire.Sql
