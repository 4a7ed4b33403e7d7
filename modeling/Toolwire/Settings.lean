import Toolwire.Binding.Check
import Toolwire.Json.Printer
import Toolwire.Json5.Typed
import Toolwire.Text.Blank
/-!
# Engine settings

The settings file is JSON5, so that it may carry comments. Every field has a default.
Settings are written as JSON with their fields in declaration order. JSON writes the line
separators of Unicode as they are, and JSON5 takes them in no string.
-/
namespace Toolwire

open Json5

/-- Why settings cannot be used. -/
inductive SettingsError where
  /-- The file cannot be read. -/
  | unreadable (reason : String)
  /-- The text does not follow the grammar. -/
  | malformed
  /-- A field is of the wrong type. -/
  | mistyped (e : ReadError)
  /-- A value makes no sense. -/
  | invalid (message : String)
  deriving DecidableEq, Repr

/-- What is said of a text that does not follow the grammar. -/
def malformedText : String := " --> the text does not follow the grammar"

/-- The error in words. -/
def SettingsError.message : SettingsError → String
  | .unreadable reason => "IO error: " ++ reason
  | .malformed => "Parse error: " ++ malformedText
  | .mistyped e => "Parse error: " ++ e.message
  | .invalid message => "Validation error: " ++ message

/-- How invocations are handled. -/
structure EngineSettings where
  /-- The most characters of a recorded summary. -/
  summaryMax : Nat := 500
  validation : Validation := .strict
  deriving DecidableEq, Repr, Inhabited

/-- How web services are called. -/
structure ClientSettings where
  userAgent : String := "owlclaw/0.1.0"
  connectTimeoutMs : Nat := 5000
  poolIdleSeconds : Nat := 90
  deriving DecidableEq, Repr, Inhabited

/-- Where stored credentials are kept. -/
structure StoreSettings where
  enabled : Bool := true
  directory : Option String := none
  deriving DecidableEq, Repr, Inhabited

/-- How log entries are laid out. -/
inductive LogFormat where
  | pretty
  | json
  deriving DecidableEq, Repr, Inhabited

/-- The name of a format. -/
def LogFormat.name : LogFormat → String
  | .pretty => "pretty"
  | .json => "json"

/-- What concerns the program as a whole. -/
structure GeneralSettings where
  debug : Bool := false
  logFormat : LogFormat := .pretty
  deriving DecidableEq, Repr, Inhabited

/-- All settings. -/
structure Settings where
  engine : EngineSettings := {}
  client : ClientSettings := {}
  store : StoreSettings := {}
  general : GeneralSettings := {}
  deriving DecidableEq, Repr, Inhabited

/-- The validation modes by name. -/
def Validation.modes : List (String × Validation) := [("strict", .strict), ("lenient", .lenient)]

open Json5.Reader

/-- Reads the settings of invocations. -/
def EngineSettings.read : Json5.Reader EngineSettings :=
  record "struct EngineSettings"
    [field "summaryMaxChars" natural fun n s => { s with summaryMax := n },
     field "validation" (variant Validation.modes) fun v s => { s with validation := v }] {}

/-- Reads the settings of the web client. -/
def ClientSettings.read : Json5.Reader ClientSettings :=
  record "struct HttpSettings"
    [field "userAgent" string fun t s => { s with userAgent := t },
     field "connectTimeoutMs" natural fun n s => { s with connectTimeoutMs := n },
     field "poolIdleTimeoutSecs" natural fun n s => { s with poolIdleSeconds := n }] {}

/-- Reads the settings of the credential store. -/
def StoreSettings.read : Json5.Reader StoreSettings :=
  record "struct SecretsSettings"
    [field "enabled" bool fun b s => { s with enabled := b },
     field "storeDir" (option (stringAs "path string")) fun d s => { s with directory := d }] {}

/-- The log formats by name. -/
def LogFormat.formats : List (String × LogFormat) := [("pretty", .pretty), ("json", .json)]

/-- Reads the settings of the program. -/
def GeneralSettings.read : Json5.Reader GeneralSettings :=
  record "struct GlobalSettings"
    [field "debug" bool fun b s => { s with debug := b },
     field "logFormat" (variant LogFormat.formats) fun f s => { s with logFormat := f }] {}

/-- Reads the settings of the web client from a JSON value. -/
def ClientSettings.readJson : Json.Reader ClientSettings
  | .obj ms => do
    let connect ← Json.Reader.field? ms "connectTimeoutMs" (Json.Reader.unsigned 64 "u64")
    let idle ← Json.Reader.field? ms "poolIdleTimeoutSecs" (Json.Reader.unsigned 64 "u64")
    let agent ← Json.Reader.field? ms "userAgent" Json.Reader.string
    return make agent connect idle
  | .arr items => do
    let agent ← Json.Reader.item? items 0 Json.Reader.string
    let connect ← Json.Reader.item? items 1 (Json.Reader.unsigned 64 "u64")
    let idle ← Json.Reader.item? items 2 (Json.Reader.unsigned 64 "u64")
    Json.Reader.endItems .plain items 3
    return make agent connect idle
  | v => Json.unexpected v "struct HttpSettings"
where
  /-- The settings with the given fields and defaults for the others. -/
  make (agent : Option String) (connect idle : Option Nat) : ClientSettings :=
    let base : ClientSettings := {}
    ⟨agent.getD base.userAgent, connect.getD base.connectTimeoutMs,
      idle.getD base.poolIdleSeconds⟩

namespace Settings

/-- Reads settings. -/
def read : Json5.Reader Settings :=
  record "struct EngineConfig"
    [field "engine" EngineSettings.read fun e s => { s with engine := e },
     field "http" ClientSettings.read fun c s => { s with client := c },
     field "secrets" StoreSettings.read fun d s => { s with store := d },
     field "settings" GeneralSettings.read fun g s => { s with general := g }] {}

/-- The fewest characters that summaries may be cut to. -/
def minSummary : Nat := 32

/-- What makes no sense in settings. -/
def problem? (s : Settings) : Option String :=
  if s.engine.summaryMax < minSummary then
    some ("engine.summaryMaxChars must be at least " ++ toString minSummary)
  else if s.client.connectTimeoutMs = 0 then some "http.connectTimeoutMs cannot be 0"
  else if Text.allBlank s.client.userAgent then some "http.userAgent cannot be empty"
  else none

/-- The settings in a text. -/
def parse (text : String) : Except SettingsError Settings :=
  match Json5.parse text with
  | none => .error .malformed
  | some node =>
    match read node with
    | .error e => .error (.mistyped e)
    | .ok s =>
      match s.problem? with
      | some message => .error (.invalid message)
      | none => .ok s

/-- What is said of a file that is not UTF-8. -/
def notText : String := "stream did not contain valid UTF-8"

/-- The settings in the bytes of a file. -/
def ofBytes (bytes : ByteArray) : Except SettingsError Settings :=
  match String.fromUTF8? bytes with
  | some text => parse text
  | none => .error (.unreadable notText)

/-- Settings as a JSON value whose members stand in declaration order. -/
def toJson (s : Settings) : Json :=
  .obj [
    ("engine", .obj [("summaryMaxChars", .ofNat s.engine.summaryMax),
      ("validation", .str s.engine.validation.name)]),
    ("http", .obj [("userAgent", .str s.client.userAgent),
      ("connectTimeoutMs", .ofNat s.client.connectTimeoutMs),
      ("poolIdleTimeoutSecs", .ofNat s.client.poolIdleSeconds)]),
    ("secrets", .obj [("enabled", .bool s.store.enabled),
      ("storeDir", (s.store.directory.map Json.str).getD .null)]),
    ("settings", .obj [("debug", .bool s.general.debug),
      ("logFormat", .str s.general.logFormat.name)])]

/-- The text of the file that settings are saved in. -/
def text (s : Settings) : String := s.toJson.pretty

/-- A path below a directory; an absolute path stands for itself. -/
def joinPath (directory name : String) : String :=
  if name.toList.head? = some '/' then name
  else if directory.isEmpty then name
  else if directory.toList.getLast? = some '/' then directory ++ name
  else directory ++ "/" ++ name

/-- The path of the settings file in the state directory. -/
def defaultPath (stateDir : String) : String := joinPath stateDir "owlclaw.json"

/-- The directory of the credential store. -/
def storePath (s : Settings) (stateDir : String) : String :=
  s.store.directory.getD (joinPath stateDir "secrets")

end Settings
end Toolwire
