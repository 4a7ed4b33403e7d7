import Toolwire.Json.Parser
import Toolwire.Template
/-!
# Messages

A message carries the arguments of a call as its payload, with a rendered topic and
rendered headers. A lone argument is sent as plain text where the format asks for text.
-/
namespace Toolwire.Queue

/-- A message ready to be published. -/
structure Message where
  topic : String
  payload : String
  format : MessageFormat
  headers : List (String × String)
  deriving DecidableEq, Repr, Inhabited

/-- The payload for arguments. -/
def payload (format : MessageFormat) (args : Members) : String :=
  match format, args with
  | .text, [(_, value)] => Template.textOf value
  | _, _ => (Json.obj args).compress

/-- A payload as a value. -/
def payloadValue (format : MessageFormat) (payload : String) : Json :=
  match format with
  | .json => (Json.parse? payload).getD (.str payload)
  | .text => .str payload

/-- The message of a binding for arguments. -/
def message (b : QueueBinding) (args : Members) (credentials : Template.Credentials) :
    Except Failure Message := do
  let topic ← Template.render b.topic args credentials
  let headers ← Template.renderHeaders args credentials b.headers
  return ⟨topic, payload b.format args, b.format, headers⟩

end Toolwire.Queue
