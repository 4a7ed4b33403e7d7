import Toolwire.Retry.Policy
/-!
# Bindings

A binding declares how a tool call reaches an outside system: one of four protocols with
its own fields, whether calls with side effects are performed or only reported, the time
that an attempt may take and the policy for retries.
-/
namespace Toolwire

/-- Whether calls with side effects are performed or intercepted. -/
inductive Mode where
  | active
  | shadow
  deriving DecidableEq, Repr, Inhabited

/-- The name of a mode. -/
def Mode.name : Mode → String
  | .active => "active"
  | .shadow => "shadow"

/-- An HTTP method. -/
inductive Method where
  | get
  | post
  | put
  | patch
  | delete
  deriving DecidableEq, Repr, Inhabited

namespace Method

/-- The name of a method, in capitals. -/
def name : Method → String
  | .get => "GET"
  | .post => "POST"
  | .put => "PUT"
  | .patch => "PATCH"
  | .delete => "DELETE"

/-- Whether a method changes remote state. -/
def isMutating : Method → Bool
  | .get => false
  | _ => true

/-- All methods. -/
def all : List Method := [.get, .post, .put, .patch, .delete]

/-- The method of a name in any case. -/
def ofName? (s : String) : Option Method :=
  let capitals := String.ofList (s.toList.map Char.toUpper)
  all.find? fun m => m.name == capitals

/-- What is said of a name that is no method. -/
def errorMessage (s : String) : String :=
  "unsupported HTTP method '" ++ s ++ "', expected one of GET, POST, PUT, PATCH, DELETE"

end Method

/-- How a response becomes a result. -/
structure ResponseMapping where
  /-- The path to the data of a success. -/
  path : Option String := none
  /-- The path to the error of a failure. -/
  errorPath : Option String := none
  /-- Status codes and classes of them, with their labels. -/
  statusCodes : List (String × String) := []
  deriving DecidableEq, Repr, Inhabited

namespace ResponseMapping

/-- Whether nothing is mapped. -/
def isEmpty (m : ResponseMapping) : Bool :=
  m.path.isNone && m.errorPath.isNone && m.statusCodes.isEmpty

/-- Whether two texts are equal but for the case of ASCII letters. -/
def sameLetters (a b : String) : Bool := a.toList.map Char.toLower == b.toList.map Char.toLower

/-- The label of a status code: its own, or that of the first key that is its class. -/
def label? (m : ResponseMapping) (code : Nat) : Option String :=
  match m.statusCodes.lookup (toString code) with
  | some label => some label
  | none =>
    (m.statusCodes.find? fun entry => sameLetters entry.1 (toString (code / 100) ++ "xx")).map
      (·.2)

end ResponseMapping

/-- A call of a web service. -/
structure HttpBinding where
  method : Method := .get
  /-- The template of the URL. -/
  url : String := ""
  /-- Names and templates of headers. -/
  headers : List (String × String) := []
  /-- The template of a JSON body. -/
  body : Option Json := none
  mapping : ResponseMapping := {}
  deriving Repr, Inhabited, BEq

/-- A family of message brokers. -/
inductive Provider where
  | kafka
  | rabbitmq
  | redis
  deriving DecidableEq, Repr, Inhabited

/-- The name of a provider. -/
def Provider.name : Provider → String
  | .kafka => "kafka"
  | .rabbitmq => "rabbitmq"
  | .redis => "redis"

/-- How the payload of a message is written. -/
inductive MessageFormat where
  | json
  | text
  deriving DecidableEq, Repr, Inhabited

/-- The name of a format. -/
def MessageFormat.name : MessageFormat → String
  | .json => "json"
  | .text => "text"

/-- A message published to a topic. -/
structure QueueBinding where
  provider : Provider
  /-- The credential reference of the connection. -/
  connection : String := ""
  /-- The template of the topic. -/
  topic : String := ""
  format : MessageFormat := .json
  /-- Names and templates of headers. -/
  headers : List (String × String) := []
  deriving DecidableEq, Repr, Inhabited

/-- An SQL statement. -/
structure SqlBinding where
  /-- The credential reference of the connection. -/
  connection : String := ""
  query : String := ""
  readOnly : Bool := true
  /-- The argument that each placeholder is bound to. -/
  parameters : List (String × String) := []
  /-- The most rows that a read returns. -/
  maxRows : Nat := 1000
  deriving DecidableEq, Repr, Inhabited

/-- A remote procedure call. -/
structure GrpcBinding where
  endpoint : String := ""
  service : String := ""
  method : String := ""
  deriving DecidableEq, Repr, Inhabited

/-- The protocol of a binding. -/
inductive Protocol where
  | http (b : HttpBinding)
  | queue (b : QueueBinding)
  | sql (b : SqlBinding)
  | grpc (b : GrpcBinding)
  deriving Repr, Inhabited, BEq

/-- The type name of a protocol. -/
def Protocol.typeName : Protocol → String
  | .http _ => "http"
  | .queue _ => "queue"
  | .sql _ => "sql"
  | .grpc _ => "grpc"

/-- A declared binding. -/
structure Binding where
  protocol : Protocol
  mode : Mode := .active
  /-- The time an attempt may take, in milliseconds. -/
  timeoutMs : Nat := 30000
  retry : RetryPolicy := {}
  deriving Repr, Inhabited, BEq

namespace Binding

/-- The types of bindings, sorted. -/
def supportedTypes : List String := ["grpc", "http", "queue", "sql"]

/-- The type name of a binding. -/
def typeName (b : Binding) : String := b.protocol.typeName

/-- Whether side effects are intercepted. -/
def isShadow (b : Binding) : Bool := b.mode == .shadow

/-- Whether an invocation has a side effect. -/
def isMutating (b : Binding) : Bool :=
  match b.protocol with
  | .http h => h.method.isMutating
  | .queue _ | .grpc _ => true
  | .sql s => !s.readOnly

end Binding
end Toolwire
