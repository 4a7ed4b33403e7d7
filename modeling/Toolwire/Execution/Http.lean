import Toolwire.Execution.Trace
import Toolwire.Http.Response
/-!
# Executing web service calls

The request is rendered once and sent until it is answered; any complete response ends the
run. In shadow mode a request that would change something is described instead of sent,
with the credentials in it left as references.
-/
namespace Toolwire.Http

/-- A web client: what each of its sends comes to. -/
structure Client where
  send : Nat → Request → Attempt Reply

/-- The client without a network. That no server can be reached takes it a millisecond to
find out. -/
def Client.offline : Client := ⟨fun _ _ => { afterMs := 1, outcome := .error unreachable }⟩

/-- The outcome that describes a request instead of sending it. -/
def shadowOutcome (b : HttpBinding) (args : Members) : Trace Outcome := do
  let url ← Trace.ofExcept (Template.render b.url args .redact)
  let body ← Trace.ofExcept (requestBody b args .redact)
  Trace.emit (.log { level := .info, message := "Shadow mode: HTTP write intercepted",
                     fields := [("method", b.method.name)] })
  return ((((Outcome.intercepted).withExtra "_method" (.str b.method.name)).withExtra
    "_url" (.str url)).withExtra "_body" (body.getD .null)).withExtra
    "_headers" (.strings (Members.keys b.headers))

/-- What one send of a request comes to; a request that cannot be sent fails at once. -/
def sendOnce (client : Client) (request : Request) (index : Nat) : Attempt Reply :=
  if request.isAcceptable then client.send index request
  else { outcome := .error unacceptable }

/-- Executes a web service call. -/
def execute (client : Client) (b : Binding) (h : HttpBinding) (args : Members) (r : Resolver) :
    Trace Outcome :=
  if b.isShadow && h.method.isMutating then shadowOutcome h args
  else do
    let request ← Trace.ofExcept (request h args r)
    let reply ← Trace.retried b "http" (.send request) (sendOnce client request)
    Trace.ofExcept (mapResponse h.mapping reply)

end Toolwire.Http
