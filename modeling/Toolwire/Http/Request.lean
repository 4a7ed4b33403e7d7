import Toolwire.Failure
import Toolwire.Http.Url
import Toolwire.Template
/-!
# Requests and replies

A request to a web service with its URL, headers and JSON body, and what comes back: a
status code and a body. A request is acceptable when its URL and its headers can be sent.
-/
namespace Toolwire.Http

/-- A request. -/
structure Request where
  method : Method
  url : String
  headers : List (String × String)
  body : Option Json
  deriving Repr, BEq, Inhabited

/-- A complete response. -/
structure Reply where
  status : Nat
  body : String
  deriving DecidableEq, Repr, Inhabited

/-- Whether a text can be the value of a header: no controls but tabs. -/
def isHeaderValue (value : String) : Bool :=
  value.toList.all fun c => c == '\t' || (32 ≤ c.toNat && c.toNat != 127)

/-- Whether a request can be sent. -/
def Request.isAcceptable (r : Request) : Bool :=
  Url.isAcceptable r.url
    && r.headers.all fun h => Binding.isHeaderName h.1 && isHeaderValue h.2

/-- The failure of a request that cannot be sent. -/
def unacceptable : Failure := .invalidParameters "invalid request: builder error"

/-- The failure of a request that does not reach its server. -/
def unreachable : Failure := .transport "error sending request"

/-- The body of a request: the rendered template, or all arguments; none for reads. -/
def requestBody (b : HttpBinding) (args : Members) (credentials : Template.Credentials) :
    Except Failure (Option Json) :=
  if b.method.isMutating then
    match b.body with
    | some template => (Template.renderJson args credentials template).map some
    | none => .ok (some (.obj args))
  else .ok none

/-- The request of a binding for arguments. -/
def request (b : HttpBinding) (args : Members) (r : Resolver) : Except Failure Request := do
  let url ← Template.render b.url args (.resolve r)
  let headers ← Template.renderHeaders args (.resolve r) b.headers
  let body ← requestBody b args (.resolve r)
  return ⟨b.method, url, headers, body⟩

end Toolwire.Http
