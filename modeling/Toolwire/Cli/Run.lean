import Toolwire.Call
import Toolwire.Cli.Command
import Toolwire.Credential.Vault
import Toolwire.Json.Parser
import Toolwire.Manifest.Build
/-!
# Running commands

A command sees the files that it is given and answers with the lines that it prints, the
folder of the credential store as it leaves it, and a failure if there is one. Nobody is
there to be asked, so a command that needs an answer fails.
-/
namespace Toolwire.Cli

/-- What stands at a path that is read. -/
inductive Lookup where
  /-- Nothing, for a reason. -/
  | missing (reason : String)
  | file (content : ByteArray)
  /-- Something that cannot be read. -/
  | unreadable (reason : String)

/-- What stands at the path of the credential store. -/
inductive StorePlace where
  | absent
  | folder (entries : Folder)
  /-- Something else, which may be there or not. -/
  | blocked (exists_ : Bool) (reason : String)

/-- What a command sees. -/
structure View where
  environment : List (String × String)
  /-- The path of the settings file and what stands there. -/
  settingsPath : String
  settings : Lookup
  /-- What stands at the path of the manifest. -/
  manifest : Lookup
  /-- What stands at the path of the credential store. -/
  store : StorePlace
  client : Http.Client
  /-- A nonce and a salt that were never used before. -/
  nonce : ByteArray
  salt : ByteArray

/-- What a command fails with: a message and the causes behind it. -/
abbrev Chain := List String

/-- What a command comes to. -/
structure Answer where
  /-- The lines that are printed. -/
  output : List String := []
  failure : Option Chain := none
  /-- The folder of the credential store, when it is written. -/
  store : Option Folder := none
  log : List LogEntry := []

namespace Answer

/-- A failure behind lines. -/
def fail (output : List String) (chain : Chain) : Answer :=
  { output := output, failure := some chain }

/-- The exit code. -/
def exitCode (a : Answer) : Nat := if a.failure.isSome then 1 else 0

/-- Lines as a text. -/
def textOf (lines : List String) : String := String.join (lines.map (· ++ "\n"))

/-- A text cut into lines. -/
def linesOf (s : String) : List (List Char) := s.toList.splitOn '\n'

/-- A text behind a margin; further lines stand under its first. -/
def indented (first others s : String) : String :=
  match linesOf s with
  | [] => first
  | line :: rest =>
    first ++ String.ofList line
      ++ String.join (rest.map fun l => "\n" ++ others ++ String.ofList l)

/-- A cause behind its number. -/
def numbered (n : Nat) (cause : String) : String :=
  let digits := toString n
  indented (String.ofList (List.replicate (5 - digits.length) ' ') ++ digits ++ ": ")
    "       " cause

/-- Causes behind their numbers. -/
def numberedFrom (n : Nat) : List String → List String
  | [] => []
  | cause :: rest => numbered n cause :: numberedFrom (n + 1) rest

/-- A failure as lines: causes stand below the message, numbered if there are several. -/
def chainLines : Chain → List String
  | [] => []
  | [message] => ["Error: " ++ message]
  | [message, cause] =>
    ["Error: " ++ message, "", "Caused by:", indented "    " "    " cause]
  | message :: causes =>
    ["Error: " ++ message, "", "Caused by:"] ++ numberedFrom 0 causes

/-- What is printed on standard output. -/
def outputText (a : Answer) : String := textOf a.output

/-- What is printed on standard error. -/
def errorText (a : Answer) : String := textOf (chainLines (a.failure.getD []))

end Answer

/-! ## Causes -/

/-- What settings fail with. -/
def settingsChain (e : SettingsError) : Chain :=
  match e with
  | .unreadable reason => [e.message, reason]
  | .malformed => [e.message, malformedText]
  | .mistyped cause => [e.message, cause.message]
  | .invalid _ => [e.message]

/-- What a manifest fails with. -/
def manifestChain (e : ManifestError) : Chain :=
  match e with
  | .unreadable reason => [e.message, reason]
  | .malformed => [e.message, malformedText]
  | .mistyped cause => [e.message, cause.message]
  | .invalidTool _ cause => [e.message, cause.message]
  | _ => [e.message]

/-- What the credential store fails with. -/
def storeChain (e : StoreError) : Chain :=
  match e with
  | .system reason => [e.message, reason]
  | .notText fault => [e.message, fault.message]
  | _ => [e.message]

/-- What a question fails with when nobody is there. -/
def unansweredChain : Chain := ["IO error: not a terminal", "not a terminal"]

/-! ## Lines -/

/-- A line of success. -/
def good (s : String) : String := "✓ " ++ s

/-- A line of failure. -/
def bad (s : String) : String := "✗ " ++ s

/-- A line of warning. -/
def warning (s : String) : String := "⚠ " ++ s

/-- A line of information. -/
def note (s : String) : String := "ℹ " ++ s

/-- A heading. -/
def heading (s : String) : String := "\n" ++ s

/-- A detail below a line. -/
def detail (s : String) : String := "    " ++ s

/-- A key and its value. -/
def entry (key value : String) : String := "  " ++ key ++ ": " ++ value

/-- A text filled up with spaces. -/
def padded (width : Nat) (s : String) : String :=
  s ++ String.ofList (List.replicate (width - s.length) ' ')

/-! ## Settings -/

/-- The directory that holds the state of the program. -/
def stateDir (environment : List (String × String)) : String :=
  match environment.lookup "OWLCLAW_STATE_DIR" with
  | some dir => dir
  | none =>
    match environment.lookup "HOME" with
    | some home => if home.isEmpty then ".owlclaw" else Settings.joinPath home ".owlclaw"
    | none => ".owlclaw"

/-- The path of the settings file. -/
def settingsPath (environment : List (String × String)) (r : Request) : String :=
  r.settingsPath.getD (Settings.defaultPath (stateDir environment))

/-- The settings in what stands at a path. -/
def settingsAt : Lookup → Except SettingsError Settings
  | .missing _ => .ok {}
  | .file content => Settings.ofBytes content
  | .unreadable reason => .error (.unreadable reason)

/-- The settings, or what loading them fails with. -/
def loadSettings (path : String) (l : Lookup) : Except Chain Settings :=
  match settingsAt l with
  | .ok s => .ok s
  | .error e => .error (("loading " ++ path) :: settingsChain e)

/-- Where the credential store is looked for: settings that cannot be read count as none. -/
def storePathAt (environment : List (String × String)) (l : Lookup) : String :=
  match settingsAt l with
  | .ok s => s.storePath (stateDir environment)
  | .error _ => ({} : Settings).storePath (stateDir environment)

namespace View

/-- The settings in force, or what loading them fails with. -/
def loaded (v : View) : Except Chain Settings := loadSettings v.settingsPath v.settings

/-- The directory of the credential store under settings. -/
def storePath (v : View) (s : Settings) : String := s.storePath (stateDir v.environment)

end View

/-- The manifest in what stands at a path, or what loading it fails with. -/
def loadManifest (path : String) (l : Lookup) : Except Chain Manifest :=
  let read : Except ManifestError Manifest := match l with
    | .missing reason | .unreadable reason => .error (.unreadable reason)
    | .file content => Manifest.ofBytes content
  match read with
  | .ok m => .ok m
  | .error e => .error (("loading manifest " ++ path) :: manifestChain e)

/-! ## Manifests -/

/-- The lines about a tool that was checked. -/
def reportLines (name : String) (r : Report) : List String :=
  (if r.isValid then [good name] else bad name :: r.errors.map detail)
    ++ r.warnings.map fun w => warning (name ++ ": " ++ w)

/-- Checks every tool of a manifest. -/
def validate (path : String) (lenient : Bool) (m : Manifest) : Answer :=
  let title := heading ("Validating " ++ path)
  if m.tools.isEmpty then { output := [title, warning "Manifest declares no tools"] }
  else
    let reports := m.check (if lenient then .lenient else .strict)
    let lines := title :: reports.flatMap fun r => reportLines r.1 r.2
    let total := toString reports.length
    match (reports.filter fun r => !r.2.isValid).length with
    | 0 => { output := lines ++ [good (total ++ " tool(s) valid")] }
    | n => .fail lines [toString n ++ " of " ++ total ++ " tool(s) invalid"]

/-- The tools that have findings of secrets, and these. -/
def flagged (m : Manifest) : List (String × List String) :=
  (m.tools.map fun d => (d.name, Leak.findings d.binding)).filter fun f => !f.2.isEmpty

/-- Looks for secrets in a manifest. -/
def scan (path : String) (m : Manifest) : Answer :=
  let title := heading ("Scanning " ++ path)
  let found := flagged m
  if found.isEmpty then
    { output := [title,
        good ("No literal secrets in " ++ toString m.tools.length ++ " tool(s)")] }
  else
    let lines := found.flatMap fun f => bad f.1 :: f.2.map detail
    let total := (found.flatMap (·.2)).length
    .fail (title :: lines) [toString total ++ " possible secret(s) found"]

/-! ## Types -/

/-- The executors that the program has of its own. -/
def builtIn (s : Settings) (client : Http.Client) : Except Chain Registry :=
  if Http.isHeaderValue s.client.userAgent then .ok (Registry.empty.register (.http client))
  else .error [(Failure.transport "failed to build HTTP client: builder error").message]

/-- A row of the table of types. -/
def typeRow (type executor : String) : String := padded 10 type ++ padded 12 executor

/-- Lists the types of bindings. -/
def types (s : Settings) (client : Http.Client) : Answer :=
  match builtIn s client with
  | .error chain => .fail [] chain
  | .ok registry =>
    let rows := Binding.supportedTypes.map fun type =>
      typeRow type (if registry.has type then "built-in" else "external")
    { output := [heading "Binding types", typeRow "TYPE" "EXECUTOR"] ++ rows
        ++ [note "External types need a driver registered by the embedding application"] }

/-! ## The credential store -/

/-- The variable that holds the passphrase of the store. -/
def passphraseVariable : String := "OWLCLAW_PASSPHRASE"

/-- Opens the store. Without `create` a store that is not there stays closed. -/
def openStore (v : View) (s : Settings) (create : Bool) : Except Chain (Option Vault) :=
  if !s.store.enabled then .ok none
  else
    let place : Option (Except StoreError Folder) := match v.store with
      | .absent => if create then some (.ok []) else none
      | .folder entries => some (.ok entries)
      | .blocked there reason => if create || there then some (.error (.system reason)) else none
    match place with
    | none => .ok none
    | some folder =>
      match v.environment.lookup passphraseVariable with
      | none => .error unansweredChain
      | some passphrase =>
        match folder.bind fun f =>
            CredentialStore.openWith CredentialStore.argon2id f passphrase v.salt with
        | .ok (f, key) => .ok (some ⟨f, key⟩)
        | .error e => .error (storeChain e)

/-- Puts a credential into the store. -/
def setCredential (v : View) (o : Vault) (name value : String) : Answer :=
  if value.isEmpty then { Answer.fail [] ["secret value is empty"] with store := some o.folder }
  else
    match CredentialStore.store .aesGcm o.key v.nonce o.folder name value with
    | .ok f =>
      { output := [good ("Stored " ++ name ++ "; reference it as " ++ Reference.spell name)],
        store := some f }
    | .error e => { Answer.fail [] (storeChain e) with store := some o.folder }

/-- Runs a command on the store, which is at a path. -/
def runStore (v : View) (path : String) (o : Vault) : StoreAction → Answer
  | .set name (some value) => setCredential v o name value
  | .set _ none => { Answer.fail [] unansweredChain with store := some o.folder }
  | .list =>
    let names := CredentialStore.list o.folder
    { output := heading ("Secrets in " ++ path)
        :: ((if names.isEmpty then [note "No secrets stored"] else [])
          ++ names.map fun name => entry name "********"),
      store := some o.folder }
  | .delete name true =>
    match CredentialStore.delete o.folder name with
    | .ok f => { output := [good ("Deleted " ++ name)], store := some f }
    | .error e => { Answer.fail [] (storeChain e) with store := some o.folder }
  | .delete _ false => { Answer.fail [] unansweredChain with store := some o.folder }

/-- Opens the store and runs a command on it. -/
def store (v : View) (s : Settings) (action : StoreAction) : Answer :=
  match openStore v s true with
  | .error chain => .fail [] chain
  | .ok none => .fail [] ["secret store is disabled (secrets.enabled = false)"]
  | .ok (some o) => runStore v (v.storePath s) o action

/-! ## Invocations -/

/-- The arguments of an invocation, which must be an object. -/
def parseArguments (text : String) : Except Chain Json :=
  match Json.parse text with
  | .error message => .error ["--args is not valid JSON", message]
  | .ok v => if v.isObj then .ok v else .error ["--args must be a JSON object"]

/-- The overrides that assignments `NAME=VALUE` make; the last one of a name counts. -/
def parseVariables (overrides : List (String × String)) :
    List String → Except Chain (List (String × String))
  | [] => .ok overrides
  | assignment :: rest =>
    match Matches.cutAtEquals assignment.toList with
    | (_, none) => .error ["invalid --var, expected NAME=VALUE"]
    | (name, some value) =>
      if name.isEmpty then .error ["--var needs a name before '='"]
      else parseVariables (Members.insert overrides name value) rest

/-- Where the credentials of an invocation come from. -/
def resolverOf (v : View) (overrides : List (String × String)) (o : Option Vault) :
    Resolver where
  overrides := overrides
  environment := Source.ofMap v.environment
  store := o.map fun o => CredentialStore.source .aesGcm o.key o.folder

/-- The lines and the failure of an invocation that came to an outcome. -/
def outcomeAnswer (t : Tool) (outcome : Except Failure Outcome) : Answer :=
  match outcome with
  | .error f => .fail [] [f.toolMessage t.name, f.message]
  | .ok o =>
    let lines := [o.toJson.pretty]
    if o.isError then .fail lines ["tool '" ++ t.name ++ "' returned an error result"]
    else { output := lines }

/-- Invokes a tool that is built; its record goes to the audit log. -/
def invokeTool (t : Tool) (registry : Registry) (r : Resolver) (arguments : Json) : Answer :=
  let call : Call := { tool := t, registry := registry, resolver := r, arguments := arguments }
  let (_, i) := call.make Recorder.audit.keeper? {}
  let a := outcomeAnswer t i.outcome
  let lines :=
    if t.binding.isShadow then [note "Shadow mode: side effects are reported, not performed"]
    else []
  let entries := i.events.filterMap fun
    | .log e => some e
    | _ => none
  { a with output := lines ++ a.output, log := entries }

/-- What an invocation is put together from. -/
structure Assembly where
  tool : Tool
  registry : Registry
  resolver : Resolver
  arguments : Json
  /-- The folder of the store, when the store is open. -/
  folder : Option Folder

/-- Puts an invocation together. -/
def assemble (v : View) (s : Settings) (path name text : String) (shadow : Bool)
    (assignments : List String) : Except Chain Assembly := do
  let m ← loadManifest path v.manifest
  let some d := m.find? name | .error ["no tool named '" ++ name ++ "' in manifest"]
  let arguments ← parseArguments text
  let overrides ← parseVariables [] assignments
  let o ← openStore v s false
  let registry ← builtIn s v.client
  let options := { BuildOptions.ofSettings s with recorder := .audit, forceShadow := shadow }
  match (d.build registry.types options).2 with
  | .ok tool => return ⟨tool, registry, resolverOf v overrides o, arguments, o.map (·.folder)⟩
  | .error e => .error (manifestChain e)

/-- Invokes a tool of a manifest. -/
def invoke (v : View) (s : Settings) (path name text : String) (shadow : Bool)
    (assignments : List String) : Answer :=
  match assemble v s path name text shadow assignments with
  | .error chain => .fail [] chain
  | .ok a =>
    { invokeTool a.tool a.registry a.resolver a.arguments with store := a.folder }

/-! ## The settings file -/

/-- Prints the settings in force. -/
def printSettings (v : View) : Answer :=
  let lines := match v.settings with
    | .missing _ => [note ("No config file at " ++ v.settingsPath ++ "; showing defaults")]
    | _ => []
  match v.loaded with
  | .ok s => { output := lines ++ [s.text] }
  | .error chain => .fail lines chain

/-- The sections that settings have. -/
def sections : List String := ["engine", "http", "secrets", "settings"]

/-- The warnings about sections that nobody reads. -/
def sectionWarnings : Json → List String
  | .obj ms =>
    ((Members.keys ms).filter fun key => !sections.contains key).map fun key =>
      warning ("Unknown section '" ++ key ++ "' is ignored")
  | _ => []

/-- The value in a text, or what is said of a text that has none. -/
def untyped (text : String) : Except String Json :=
  match Json5.parse text with
  | none => .error malformedText
  | some node =>
    match Json5.readAny node with
    | .ok value => .ok value
    | .error e => .error e.message

/-- Checks the text of the settings file. -/
def validateText (v : View) (title : String) (text : String) : Answer :=
  match untyped text with
  | .error message => .fail [title, bad ("Syntax error: " ++ message)] ["invalid config file"]
  | .ok value =>
    let lines := [title, good "Syntax: Valid JSON5"] ++ sectionWarnings value
    match Settings.parse text with
    | .error e => .fail (lines ++ [bad ("Schema error: " ++ e.message)]) ["invalid config file"]
    | .ok s =>
      { output := lines ++ [good "Schema: Configuration is valid",
          entry "validation" s.engine.validation.name, entry "secrets dir" (v.storePath s)] }

/-- Checks the settings file. -/
def validateSettings (v : View) : Answer :=
  let title := heading "Validating Configuration"
  match v.settings with
  | .missing _ =>
    { output := [title, warning ("Config file not found: " ++ v.settingsPath),
        note "Defaults apply until one is created"] }
  | .unreadable reason => .fail [title] [reason]
  | .file content =>
    match String.fromUTF8? content with
    | some text => validateText v title text
    | none => .fail [title] [Settings.notText]

/-! ## Commands -/

/-- An answer that needs settings. -/
def withSettings (v : View) (f : Settings → Answer) : Answer :=
  match v.loaded with
  | .ok s => f s
  | .error chain => .fail [] chain

/-- An answer that needs a manifest. -/
def withManifest (v : View) (path : String) (f : Manifest → Answer) : Answer :=
  match loadManifest path v.manifest with
  | .ok m => f m
  | .error chain => .fail [] chain

/-- Runs a command. -/
def run (v : View) : Command → Answer
  | .validate path lenient => withManifest v path (validate path lenient)
  | .scan path => withManifest v path (scan path)
  | .types => withSettings v fun s => types s v.client
  | .invoke path name text shadow assignments =>
    withSettings v fun s => invoke v s path name text shadow assignments
  | .store action => withSettings v fun s => store v s action
  | .settings .print => printSettings v
  | .settings .path => { output := [v.settingsPath] }
  | .settings .validate => validateSettings v

end Toolwire.Cli
