import Toolwire.Http.Request
import Toolwire.Json.Parser
import Toolwire.Outcome
/-!
# Responses as outcomes

A complete response becomes an outcome whatever its status code: the label of the code is
the status, a success carries the data that the mapping selects, and any other code carries
an error text and, unless the mapping selects that text, the whole body.
-/
namespace Toolwire.Http

/-- The body of a response as a value: null when blank, a string when it is no JSON. -/
def bodyValue (body : String) : Json :=
  if Text.allBlank body then .null else (Json.parse? body).getD (.str body)

/-- Whether a status code is a success. -/
def isSuccess (status : Nat) : Bool := 200 ≤ status && status < 300

/-- The status of an outcome for a status code. -/
def statusFor (m : ResponseMapping) (status : Nat) : Status :=
  match m.label? status with
  | some label => .ofText label
  | none => if isSuccess status then .success else .error

/-- The value that a path selects. -/
def extract (v : Json) (path : String) : Except Failure (Option Json) :=
  match Json.Path.extract v path with
  | .ok found => .ok found
  | .error message => .error (.execution message)

/-- The outcome of a response. -/
def mapResponse (m : ResponseMapping) (reply : Reply) : Except Failure Outcome :=
  let value := bodyValue reply.body
  let base : Outcome := { status := statusFor m reply.status, statusCode := some reply.status }
  if isSuccess reply.status then
    match m.path with
    | none => .ok { base with data := some value }
    | some path =>
      (extract value path).map fun found => { base with data := some (found.getD .null) }
  else
    let whole : Outcome :=
      { base with error := some ("HTTP " ++ toString reply.status), data := some value }
    match m.errorPath with
    | none => .ok whole
    | some path =>
      (extract value path).map fun found =>
        match found with
        | some error => { base with error := some (Template.textOf error) }
        | none => whole

end Toolwire.Http
