import Toolwire.Binding.Basic
/-!
# Bindings as JSON

Reading a declaration and writing it back. The fields of the protocol stand beside the
common fields, under a `type` that chooses the protocol. Defaults fill what is absent, and
empty maps and absent templates are not written.
-/
namespace Toolwire

open Json Json.Reader

/-- Reads a method in any case. -/
def Method.read : Reader Method := fun v =>
  match Reader.string v with
  | .error e => .error e
  | .ok s =>
    match ofName? s with
    | some m => .ok m
    | none => .error (.custom (errorMessage s))

/-- Reads a map of strings. -/
def readStrings : Reader (List (String × String)) := mapOf Reader.string

/-- A map of strings as a JSON value. -/
def stringsJson (ms : List (String × String)) : Json := .obj (ms.map fun m => (m.1, .str m.2))

namespace ResponseMapping

/-- Reads a mapping; `data_path` is a second name of `path`. -/
def readIn (place : Section) : Reader ResponseMapping
  | .obj ms => do
    let path ← field? ms "data_path" (option Reader.string)
    let errorPath ← field? ms "error_path" (option Reader.string)
    let path ← alias? ms "path" "path" (option Reader.string) path
    let codes ← field? ms "status_codes" readStrings
    return ⟨path.join, errorPath.join, codes.getD []⟩
  | .arr items => do
    let path ← item? items 0 (option Reader.string)
    let errorPath ← item? items 1 (option Reader.string)
    let codes ← item? items 2 readStrings
    endItems place items 3
    return ⟨path.join, errorPath.join, codes.getD []⟩
  | v => unexpected v "struct ResponseMapping"

/-- Reads a mapping that stands alone. -/
def read : Reader ResponseMapping := readIn .plain

/-- The members of a mapping that are written. -/
def toJson (m : ResponseMapping) : Json :=
  .ofPairs <|
    (m.path.map fun p => ("path", .str p)).toList
      ++ (m.errorPath.map fun p => ("error_path", .str p)).toList
      ++ (if m.statusCodes.isEmpty then [] else [("status_codes", stringsJson m.statusCodes)])

end ResponseMapping

namespace HttpBinding

/-- Reads the fields of a web service call. -/
def readFields (ms : Members) : Except ReadError HttpBinding := do
  let body ← field? ms "body_template" (option Reader.any)
  let headers ← field? ms "headers" readStrings
  let method ← field? ms "method" Method.read
  let mapping ← field? ms "response_mapping" (ResponseMapping.readIn .tagged)
  let url ← field? ms "url" Reader.string
  return { method := method.getD .get, url := url.getD "", headers := headers.getD [],
           body := body.join, mapping := mapping.getD {} }

/-- The fields of a web service call that are written. -/
def fields (b : HttpBinding) : List (String × Json) :=
  [("method", .str b.method.name), ("url", .str b.url)]
    ++ (if b.headers.isEmpty then [] else [("headers", stringsJson b.headers)])
    ++ (b.body.map fun t => ("body_template", t)).toList
    ++ (if b.mapping.isEmpty then [] else [("response_mapping", b.mapping.toJson)])

end HttpBinding

namespace QueueBinding

/-- The providers by name. -/
def providers : List (String × Provider) :=
  [("kafka", .kafka), ("rabbitmq", .rabbitmq), ("redis", .redis)]

/-- The formats by name. -/
def formats : List (String × MessageFormat) := [("json", .json), ("text", .text)]

/-- Reads the fields of a message. -/
def readFields (ms : Members) : Except ReadError QueueBinding := do
  let connection ← field? ms "connection" Reader.string
  let format ← field? ms "format" (variant .tagged formats)
  let headers ← field? ms "headers" readStrings
  let provider ← field? ms "provider" (variant .tagged providers)
  let topic ← field? ms "topic" Reader.string
  match provider with
  | none => .error (.missingField "provider")
  | some provider =>
    return { provider := provider, connection := connection.getD "", topic := topic.getD "",
             format := format.getD .json, headers := headers.getD [] }

/-- The fields of a message that are written. -/
def fields (b : QueueBinding) : List (String × Json) :=
  [("provider", .str b.provider.name), ("connection", .str b.connection),
    ("topic", .str b.topic), ("format", .str b.format.name)]
    ++ (if b.headers.isEmpty then [] else [("headers", stringsJson b.headers)])

end QueueBinding

namespace SqlBinding

/-- Reads the fields of a statement. -/
def readFields (ms : Members) : Except ReadError SqlBinding := do
  let connection ← field? ms "connection" Reader.string
  let maxRows ← field? ms "max_rows" (unsigned 64 "usize")
  let parameters ← field? ms "parameter_mapping" readStrings
  let query ← field? ms "query" Reader.string
  let readOnly ← field? ms "read_only" Reader.bool
  return { connection := connection.getD "", query := query.getD "",
           readOnly := readOnly.getD true, parameters := parameters.getD [],
           maxRows := maxRows.getD 1000 }

/-- Reads a statement that stands alone. -/
def read : Reader SqlBinding
  | .obj ms => readFields ms
  | .arr items => do
    let connection ← item? items 0 Reader.string
    let query ← item? items 1 Reader.string
    let readOnly ← item? items 2 Reader.bool
    let parameters ← item? items 3 readStrings
    let maxRows ← item? items 4 (unsigned 64 "usize")
    endItems .plain items 5
    return { connection := connection.getD "", query := query.getD "",
             readOnly := readOnly.getD true, parameters := parameters.getD [],
             maxRows := maxRows.getD 1000 }
  | v => unexpected v "struct SqlBinding"

/-- The fields of a statement that are written. -/
def fields (b : SqlBinding) : List (String × Json) :=
  [("connection", .str b.connection), ("query", .str b.query), ("read_only", .bool b.readOnly),
    ("max_rows", .ofNat b.maxRows)]
    ++ (if b.parameters.isEmpty then [] else [("parameter_mapping", stringsJson b.parameters)])

end SqlBinding

namespace GrpcBinding

/-- Reads the fields of a remote procedure call. -/
def readFields (ms : Members) : Except ReadError GrpcBinding := do
  let endpoint ← field? ms "endpoint" Reader.string
  let method ← field? ms "method" Reader.string
  let service ← field? ms "service" Reader.string
  return ⟨endpoint.getD "", service.getD "", method.getD ""⟩

/-- The fields of a remote procedure call that are written. -/
def fields (b : GrpcBinding) : List (String × Json) :=
  [("endpoint", .str b.endpoint), ("service", .str b.service), ("method", .str b.method)]

end GrpcBinding

namespace Protocol

/-- The protocol types in the order of their numbers. -/
def typeNames : List String := ["http", "queue", "sql", "grpc"]

/-- Reads the name of the type; its number will do as well. -/
def readType (ms : Members) : Except ReadError String :=
  match Members.get? ms "type" with
  | none => .error (.missingField "type")
  | some (.str name) =>
    if typeNames.contains name then .ok name else .error (.unknownVariant name typeNames)
  | some (.int n) =>
    if n < 0 then unexpected (.int n) "variant identifier"
    else
      match typeNames[n.toNat]? with
      | some name => .ok name
      | none => .error (.invalidValue (describe (.int n)) "variant index 0 <= i < 4")
  | some v => unexpected v "variant identifier"

/-- Reads the protocol that the `type` among the members chooses. -/
def readFields (ms : Members) : Except ReadError Protocol := do
  let name ← readType ms
  if name = "http" then (HttpBinding.readFields ms).map .http
  else if name = "queue" then (QueueBinding.readFields ms).map .queue
  else if name = "sql" then (SqlBinding.readFields ms).map .sql
  else (GrpcBinding.readFields ms).map .grpc

/-- The fields of a protocol that are written. -/
def fields : Protocol → List (String × Json)
  | .http b => b.fields
  | .queue b => b.fields
  | .sql b => b.fields
  | .grpc b => b.fields

end Protocol

namespace Binding

/-- The modes by name. -/
def modes : List (String × Mode) := [("active", .active), ("shadow", .shadow)]

/-- Reads a declaration. -/
def read : Reader Binding
  | .obj ms => do
    let mode ← field? ms "mode" (variant .plain modes)
    let retry ← field? ms "retry" RetryPolicy.read
    let timeoutMs ← field? ms "timeout_ms" (unsigned 64 "u64")
    let protocol ← Protocol.readFields ms
    return { protocol := protocol, mode := mode.getD .active, timeoutMs := timeoutMs.getD 30000,
             retry := retry.getD {} }
  | v => unexpected v "struct BindingConfig"

/-- A binding as a JSON value. -/
def toJson (b : Binding) : Json :=
  .ofPairs <|
    [("type", .str b.typeName), ("mode", .str b.mode.name), ("timeout_ms", .ofNat b.timeoutMs),
      ("retry", b.retry.toJson)]
      ++ b.protocol.fields

end Binding
end Toolwire
