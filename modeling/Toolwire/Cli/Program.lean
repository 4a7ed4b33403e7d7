import Toolwire.Cli.FileTree
/-!
# The program

The program is run with words, an environment and the files around it. It prints, ends with
a code, and may leave the folder of the credential store changed.
-/
namespace Toolwire.Cli

/-- What a run of the program ends with. -/
structure Ending where
  exitCode : Nat
  output : String
  error : String
  deriving DecidableEq, Repr

/-- The ending of a run whose words are no command: help is printed, an error is reported. -/
def Ending.ofUsage (e : UsageError) : Ending :=
  let text := e.message ++ "\n"
  if e.exitCode = 0 then ⟨0, text, ""⟩ else ⟨e.exitCode, "", text⟩

/-- The ending of a run of a command. -/
def Ending.ofAnswer (a : Answer) : Ending := ⟨a.exitCode, a.outputText, a.errorText⟩

/-- An entry of the log as a line. -/
def logLine (e : LogEntry) : String :=
  " ".intercalate (e.level.name :: e.message :: e.fields.map fun f => f.1 ++ "=" ++ f.2)

/-- The variables that a command knows by itself. -/
def ownVariables : List String :=
  ["HOME", "OWLCLAW_STATE_DIR", settingsVariable, passphraseVariable]

/-- The variables that the bindings of a manifest refer to. -/
def referredVariables (l : Lookup) : List String :=
  match loadManifest "" l with
  | .ok m => m.tools.flatMap fun d => Reference.names d.binding.compress
  | .error _ => []

/-- What is around a run of the program besides files. -/
structure Surroundings where
  environment : List (String × String)
  client : Http.Client
  /-- A nonce and a salt that were never used before. -/
  nonce : ByteArray
  salt : ByteArray

namespace FileTree

/-- What a request sees of a tree of files. -/
def view (t : FileTree) (s : Surroundings) (r : Request) : View :=
  let path := settingsPath s.environment r
  let settings := t.lookup path
  { environment := s.environment
    settingsPath := path
    settings := settings
    manifest := t.lookup (r.command.manifest?.getD "")
    store := t.storePlace (storePathAt s.environment settings)
    client := s.client
    nonce := s.nonce
    salt := s.salt }

/-- Runs the program among files. -/
def run (t : FileTree) (s : Surroundings) (words : List String) : FileTree × Ending :=
  match Request.parse s.environment words with
  | .error e => (t, Ending.ofUsage e)
  | .ok r =>
    let v := t.view s r
    let a := Cli.run v r.command
    match a.store with
    | some f => (t.leave (storePathAt s.environment v.settings) f, Ending.ofAnswer a)
    | none => (t, Ending.ofAnswer a)

end FileTree
end Toolwire.Cli
