import Toolwire.Binding.Encoding
import Toolwire.Binding.Leak
import Toolwire.Credential.Error
import Toolwire.Json.Path
import Toolwire.Query.Scan
/-!
# Checking bindings

A check finds every problem of a declaration in one pass: fields that nobody reads, values
of the wrong type, declarations that make no sense, and secrets written out. Secrets block
a declaration in strict validation and are warnings in lenient validation; all else always
blocks it.
-/
namespace Toolwire

/-- How findings of secrets are treated. -/
inductive Validation where
  | strict
  | lenient
  deriving DecidableEq, Repr, Inhabited

/-- The name of a validation mode. -/
def Validation.name : Validation → String
  | .strict => "strict"
  | .lenient => "lenient"

/-- What a check has found. -/
structure Report where
  errors : List String := []
  warnings : List String := []
  deriving DecidableEq, Repr, Inhabited

/-- Whether nothing blocks the declaration. -/
def Report.isValid (r : Report) : Bool := r.errors.isEmpty

/-- A declaration is invalid, for all of these reasons. -/
structure ConfigurationError where
  errors : List String
  deriving DecidableEq, Repr

/-- The error in words. -/
def ConfigurationError.message (e : ConfigurationError) : String :=
  "Invalid binding configuration: " ++ "; ".intercalate e.errors

/-- The warnings of a report, unless it has errors. -/
def Report.result (r : Report) : Except ConfigurationError (List String) :=
  if r.errors.isEmpty then .ok r.warnings else .error ⟨r.errors⟩

/-- Adds findings of secrets to a report. -/
def Report.addFindings (r : Report) (mode : Validation) (findings : List String) : Report :=
  match mode with
  | .strict => { r with errors := r.errors ++ findings }
  | .lenient => { r with warnings := r.warnings ++ findings }

namespace Binding

open Text

/-- A text that starts with another. -/
def startsWith (s : List Char) (head : String) : Bool := head.toList.isPrefixOf s

/-- A character of a header name. -/
def isHeaderChar (c : Char) : Bool := c.isAlphanum || "!#$%&'*+-.^_`|~".toList.contains c

/-- Whether a text can name a header. -/
def isHeaderName (name : String) : Bool :=
  let s := name.toList
  !s.isEmpty && s.length < 65536 && s.all isHeaderChar

/-- Whether a text is a status code like 404 or a class like 4xx. -/
def isStatusKey (key : String) : Bool :=
  match key.toList with
  | [a, b, c] =>
    '1' ≤ a && a ≤ '5'
      && ((b.isDigit && c.isDigit) || ((b == 'x' || b == 'X') && (c == 'x' || c == 'X')))
  | _ => false

/-- Why the value of a credential field is no reference. -/
def literalReason? (value : String) : Option String :=
  if Reference.containedIn value then (Secret.detect value).map (·.describe)
  else some "value contains no $\x7bVAR\x7d reference"

/-- The problems of a credential field, which must be a reference in every mode. -/
def credentialFieldErrors (binding field value : String) : List String :=
  if allBlank value then [binding ++ " binding requires '" ++ field ++ "'"]
  else
    match literalReason? value with
    | some reason => [(CredentialError.plaintextSecret field reason).message]
    | none => []

/-- The problems of a path in a response mapping. -/
def pathErrors (field : String) (path : Option String) : List String :=
  match path with
  | none => []
  | some p =>
    match Json.Path.parse p with
    | some _ => []
    | none => ["response_mapping." ++ field ++ ": " ++ Json.Path.errorMessage p]

/-- The problems of an entry among the status codes. -/
def statusErrors (code label : String) : List String :=
  (if isStatusKey code then []
    else ["response_mapping.status_codes key '" ++ code
      ++ "' must be a status code like 404 or a class like 4xx"])
    ++ (if allBlank label then
      ["response_mapping.status_codes['" ++ code ++ "'] has an empty label"] else [])

/-- The problems of a URL template. -/
def urlErrors (url : String) : List String :=
  let s := trim url.toList
  if s.isEmpty then ["http binding requires 'url'"]
  else if startsWith s "http://" || startsWith s "https://" || startsWith s "$\x7b" then []
  else ["url must start with http://, https:// or a $\x7bVAR\x7d reference"]

/-- The problems of a web service call. -/
def httpErrors (b : HttpBinding) : List String :=
  urlErrors b.url
    ++ ((b.headers.filter fun h => !isHeaderName h.1).map fun h =>
      "invalid header name '" ++ h.1 ++ "'")
    ++ (if b.body.isSome && !b.method.isMutating then
      ["body_template is not allowed for GET"] else [])
    ++ pathErrors "path" b.mapping.path
    ++ pathErrors "error_path" b.mapping.errorPath
    ++ b.mapping.statusCodes.flatMap fun entry => statusErrors entry.1 entry.2

/-- The problems of a message. -/
def queueErrors (b : QueueBinding) : List String :=
  credentialFieldErrors "queue" "connection" b.connection
    ++ (if allBlank b.topic then ["queue binding requires 'topic'"] else [])

/-- The problems of an entry that binds a placeholder. -/
def parameterErrors (scan : Query.Scan) (placeholder argument : String) : List String :=
  (if scan.placeholders.contains placeholder then []
    else ["parameter_mapping entry '" ++ placeholder
      ++ "' does not match any placeholder in query"])
    ++ (if allBlank argument then
      ["parameter_mapping entry '" ++ placeholder ++ "' names no argument"] else [])

/-- The problems of a query. -/
def queryErrors (b : SqlBinding) : List String :=
  let scan := Query.scan b.query
  (scan.markers.map fun m => "query contains interpolation marker '" ++ m
      ++ "'; use named :placeholders with parameter_mapping")
    ++ ((scan.placeholders.filter fun p => !Members.has b.parameters p).map fun p =>
      "placeholder ':" ++ p ++ "' has no parameter_mapping entry")
    ++ (b.parameters.flatMap fun entry => parameterErrors scan entry.1 entry.2)
    ++ (if b.readOnly && scan.isMutating then
      ["query contains mutating statement (" ++ ", ".intercalate scan.keywords
        ++ ") but read_only is true"] else [])

/-- The problems of a statement. -/
def sqlErrors (b : SqlBinding) : List String :=
  credentialFieldErrors "sql" "connection" b.connection
    ++ (if b.maxRows = 0 then ["max_rows must be at least 1"] else [])
    ++ (if allBlank b.query then ["sql binding requires 'query'"] else queryErrors b)

/-- The problems of a remote procedure call. -/
def grpcErrors (b : GrpcBinding) : List String :=
  ([("endpoint", b.endpoint), ("service", b.service), ("method", b.method)].filter
    fun field => allBlank field.2).map fun field => "grpc binding requires '" ++ field.1 ++ "'"

/-- The problems of a protocol. -/
def protocolErrors : Protocol → List String
  | .http b => httpErrors b
  | .queue b => queueErrors b
  | .sql b => sqlErrors b
  | .grpc b => grpcErrors b

/-- The problems of a binding that is of the right types. -/
def structuralErrors (b : Binding) : List String :=
  (if b.timeoutMs = 0 then ["timeout_ms must be greater than 0"] else [])
    ++ (if b.retry.maxAttempts = 0 then ["retry.max_attempts must be at least 1"] else [])
    ++ (if RetryPolicy.isGrowth b.retry.multiplier then []
      else ["retry.backoff_multiplier must be a finite number >= 1.0"])
    ++ protocolErrors b.protocol

/-- The fields that every declaration may have. -/
def commonFields : List String := ["type", "mode", "timeout_ms", "retry"]

/-- The fields that a declaration of a type may have besides. -/
def protocolFields (type : String) : List String :=
  if type = "http" then ["method", "url", "headers", "body_template", "response_mapping"]
  else if type = "queue" then ["provider", "connection", "topic", "format", "headers"]
  else if type = "sql" then ["connection", "query", "read_only", "parameter_mapping", "max_rows"]
  else ["endpoint", "service", "method"]

/-- The sections of a declaration and the fields that each may have. -/
def sectionFields : List (String × List String) :=
  [("retry", ["max_attempts", "backoff_ms", "backoff_multiplier", "multiplier"]),
   ("response_mapping", ["path", "data_path", "error_path", "status_codes"])]

/-- The fields of a section that nobody reads. -/
def unknownInSection (ms : Members) (name : String) (allowed : List String) : List String :=
  match Members.get? ms name with
  | some (.obj inner) =>
    ((Members.keys inner).filter fun key => !allowed.contains key).map fun key =>
      "unknown field '" ++ name ++ "." ++ key ++ "'"
  | _ => []

/-- The fields of a declaration that nobody reads. -/
def unknownFields (type : String) (ms : Members) : List String :=
  (((Members.keys ms).filter fun key =>
      !commonFields.contains key && !(protocolFields type).contains key).map fun key =>
      "unknown field '" ++ key ++ "' for " ++ type ++ " binding")
    ++ sectionFields.flatMap fun s => unknownInSection ms s.1 s.2

/-- The type that a declaration names. -/
def declaredType (ms : Members) : Except String String :=
  match Members.get? ms "type" with
  | none => .error "missing required field 'type'"
  | some (.str t) =>
    if supportedTypes.contains t then .ok t
    else .error ("Unsupported binding type '" ++ t ++ "'. Supported types: "
      ++ ", ".intercalate supportedTypes)
  | some _ => .error "field 'type' must be a string"

/-- The binding of a declaration as far as it can be read, and the problems apart from
secrets. -/
def analyzeMembers (ms : Members) : Option Binding × List String :=
  match declaredType ms with
  | .error message => (none, [message])
  | .ok type =>
    match read (.obj ms) with
    | .ok b => (some b, unknownFields type ms ++ b.structuralErrors)
    | .error e => (none, unknownFields type ms ++ ["invalid " ++ type ++ " binding: " ++ e.message])

/-- The binding of a declaration as far as it can be read, and the report on it. -/
def analyze (raw : Json) (mode : Validation) : Option Binding × Report :=
  match raw with
  | .obj ms =>
    let (b, errors) := analyzeMembers ms
    (b, Report.addFindings { errors := errors } mode (Leak.findings raw))
  | _ => (none, { errors := ["binding declaration must be a mapping"] })

/-- Checks a declaration without building the binding. -/
def check (raw : Json) (mode : Validation) : Report := (analyze raw mode).2

/-- The binding of a declaration that passes its check, and the warnings. -/
def parse (raw : Json) (mode : Validation) : Except ConfigurationError (Binding × List String) :=
  let (b, report) := analyze raw mode
  match report.result with
  | .error e => .error e
  | .ok warnings =>
    match b with
    | some b => .ok (b, warnings)
    | none => .error ⟨["binding declaration could not be parsed"]⟩

/-- Checks a binding once more. -/
def report (b : Binding) (mode : Validation) : Report :=
  Report.addFindings { errors := b.structuralErrors } mode (Leak.findings b.toJson)

mutual

/-- The credential names in every string of a value. -/
def namesIn : Json → List String
  | .str s => Reference.names s
  | .arr items => namesInItems items
  | .obj ms => namesInMembers ms
  | _ => []

/-- The credential names in items. -/
def namesInItems : List Json → List String
  | [] => []
  | x :: xs => namesIn x ++ namesInItems xs

/-- The credential names in members. -/
def namesInMembers : List (String × Json) → List String
  | [] => []
  | (_, x) :: ms => namesIn x ++ namesInMembers ms

end

/-- The credential names in a protocol, in order of appearance. -/
def protocolNames : Protocol → List String
  | .http b =>
    Reference.names b.url ++ (b.headers.flatMap fun h => Reference.names h.2)
      ++ (b.body.map namesIn).getD []
  | .queue b => Reference.names b.connection ++ b.headers.flatMap fun h => Reference.names h.2
  | .sql b => Reference.names b.connection
  | .grpc b => Reference.names b.endpoint

/-- Puts a name in its place among sorted names unless it is there. -/
def insertName (name : String) : List String → List String
  | [] => [name]
  | n :: rest =>
    if name = n then n :: rest
    else if name < n then name :: n :: rest
    else n :: insertName name rest

/-- The names of all credentials that a binding refers to, sorted and distinct. -/
def credentialReferences (b : Binding) : List String :=
  (protocolNames b.protocol).foldl (fun names name => insertName name names) []

end Binding
end Toolwire
