/-!
# The command line

Words on the command line become a command. Options may stand anywhere behind the command
that knows them, those of the program itself behind any command. A value stands in the next
word or behind an equals sign, and behind a lone `--` every word is an argument.
-/
namespace Toolwire.Cli

/-- What is done with stored credentials. -/
inductive StoreAction where
  | set (name : String) (value : Option String)
  | list
  | delete (name : String) (confirmed : Bool)
  deriving DecidableEq, Repr

/-- What is done with the settings. -/
inductive SettingsAction where
  | print
  | path
  | validate
  deriving DecidableEq, Repr

/-- A command. -/
inductive Command where
  | validate (manifest : String) (lenient : Bool)
  | scan (manifest : String)
  | types
  | invoke (manifest tool arguments : String) (shadow : Bool) (assignments : List String)
  | store (action : StoreAction)
  | settings (action : SettingsAction)
  deriving DecidableEq, Repr

/-- A command with the options of the program. -/
structure Request where
  /-- The path of the settings file, if one is named. -/
  settingsPath : Option String
  verbose : Bool
  command : Command
  deriving DecidableEq, Repr

/-- Why words are no command. -/
inductive UsageError where
  /-- Help is asked for. -/
  | help
  /-- The version is asked for. -/
  | version (command : String)
  | noCommand
  | unexpected (word : String)
  | unknownCommand (word : String)
  | noValue (option : String)
  | repeated (option : String)
  | missing (argument : String)
  deriving DecidableEq, Repr

/-- The name of the program. -/
def programName : String := "owlclaw"

/-- The version of the program. -/
def programVersion : String := "0.1.0"

/-- The error in words. -/
def UsageError.message : UsageError → String
  | .help => "Usage: " ++ programName ++ " [OPTIONS] <COMMAND>"
  | .version command => command ++ " " ++ programVersion
  | .noCommand => "Usage: " ++ programName ++ " [OPTIONS] <COMMAND>"
  | .unexpected word => "error: unexpected argument '" ++ word ++ "' found"
  | .unknownCommand word => "error: unrecognized subcommand '" ++ word ++ "'"
  | .noValue option =>
    "error: a value is required for '" ++ option ++ "' but none was supplied"
  | .repeated option => "error: the argument '" ++ option ++ "' cannot be used multiple times"
  | .missing argument =>
    "error: the following required arguments were not provided: " ++ argument

/-- The exit code of the error: asking for help is none. -/
def UsageError.exitCode : UsageError → Nat
  | .help | .version _ => 0
  | _ => 2

/-- What a command takes. -/
structure Shape where
  /-- The words that lead to the command. -/
  path : List String
  /-- The names of its arguments. -/
  arguments : List String := []
  /-- Its flags and their letters. -/
  flags : List (String × Option Char) := []
  /-- Its options that take a value. -/
  options : List String := []
  /-- Its options that may be given more than once. -/
  repeatable : List String := []

/-- The options of the program itself, known to every command. -/
def common : Shape where
  path := []
  flags := [("verbose", some 'v'), ("help", some 'h'), ("version", some 'V')]
  options := ["config"]

/-- All commands. -/
def shapes : List Shape := [
  { path := [] },
  { path := ["validate"], arguments := ["<MANIFEST>"], flags := [("lenient", none)] },
  { path := ["scan"], arguments := ["<MANIFEST>"] },
  { path := ["types"] },
  { path := ["invoke"], arguments := ["<MANIFEST>", "<TOOL>"], flags := [("shadow", none)],
    options := ["args", "var"], repeatable := ["var"] },
  { path := ["secrets"] },
  { path := ["secrets", "set"], arguments := ["<NAME>"], options := ["value"] },
  { path := ["secrets", "list"] },
  { path := ["secrets", "delete"], arguments := ["<NAME>"], flags := [("yes", some 'y')] },
  { path := ["config"] },
  { path := ["config", "show"] },
  { path := ["config", "path"] },
  { path := ["config", "validate"] }]

/-- The shape of the command of a path. -/
def shapeOf (path : List String) : Shape :=
  (shapes.find? fun s => s.path == path).getD { path := path }

/-- Whether a command has commands of its own. -/
def hasCommands (path : List String) : Bool :=
  shapes.any fun s => s.path.length == path.length + 1 && s.path.take path.length == path

/-- Words taken apart. -/
structure Matches where
  path : List String := []
  flags : List String := []
  /-- Options and their values, in order. -/
  values : List (String × String) := []
  /-- Flags and options in front of the last word of the path, the nearest first. -/
  outerFlags : List String := []
  outerValues : List (String × String) := []
  arguments : List String := []

/-- Whether a word starts an option. -/
def isOption (word : String) : Bool := word.toList.head? == some '-' && word.length != 1

namespace Matches

/-- Sets a flag. -/
def setFlag (m : Matches) (name : String) : Except UsageError Matches :=
  if name = "help" then .error .help
  else if name = "version" then .error (.version ("-".intercalate (programName :: m.path)))
  else if m.flags.contains name then .error (.repeated ("--" ++ name))
  else .ok { m with flags := name :: m.flags }

/-- Sets an option. -/
def setValue (m : Matches) (name value : String) : Except UsageError Matches :=
  if (m.values.lookup name).isSome && !(shapeOf m.path).repeatable.contains name then
    .error (.repeated ("--" ++ name))
  else .ok { m with values := m.values ++ [(name, value)] }

/-- Takes an argument; only a command without commands of its own has arguments. -/
def takeArgument (m : Matches) (word : String) : Except UsageError Matches :=
  if m.arguments.length < (shapeOf m.path).arguments.length then
    .ok { m with arguments := m.arguments ++ [word] }
  else .error (.unexpected word)

/-- Takes the name of a command. -/
def takeCommand (m : Matches) (word : String) : Except UsageError Matches :=
  if shapes.any fun s => s.path == m.path ++ [word] then
    .ok { m with path := m.path ++ [word], flags := [], values := [],
                 outerFlags := m.flags ++ m.outerFlags,
                 outerValues := m.values ++ m.outerValues }
  else if word = "help" then .error .help
  else .error (.unknownCommand word)

/-- Takes a word that is no option. -/
def take (m : Matches) (word : String) : Except UsageError Matches :=
  if hasCommands m.path then m.takeCommand word else m.takeArgument word

/-- The flags that are known behind a command. -/
def knownFlags (m : Matches) : List (String × Option Char) :=
  (shapeOf m.path).flags ++ common.flags

/-- Whether an option is known behind a command. -/
def knowsOption (m : Matches) (name : String) : Bool :=
  (shapeOf m.path).options.contains name || common.options.contains name

/-- Sets the flags of letters behind a dash. -/
def setLetters (m : Matches) (word : String) : List Char → Except UsageError Matches
  | [] => .ok m
  | c :: rest =>
    match m.knownFlags.find? fun f => f.2 == some c with
    | some f =>
      match m.setFlag f.1 with
      | .ok m => setLetters m word rest
      | .error e => .error e
    | none => .error (.unexpected word)

/-- A word cut at its first equals sign. -/
def cutAtEquals (word : List Char) : String × Option String :=
  match word.dropWhile (· != '=') with
  | [] => (String.ofList word, none)
  | _ :: value => (String.ofList (word.takeWhile (· != '=')), some (String.ofList value))

/-- Takes words apart, behind those that are taken already. -/
def takeAll (m : Matches) : List String → Except UsageError Matches
  | [] => .ok m
  | word :: rest =>
    match word.toList with
    | ['-', '-'] => rest.foldlM takeArgument m
    | '-' :: '-' :: body =>
      match cutAtEquals body with
      | (name, some value) =>
        if m.knowsOption name then
          match m.setValue name value with
          | .ok m => takeAll m rest
          | .error e => .error e
        else .error (.unexpected word)
      | (name, none) =>
        if m.knownFlags.any fun f => f.1 == name then
          match m.setFlag name with
          | .ok m => takeAll m rest
          | .error e => .error e
        else if m.knowsOption name then
          match rest with
          | [] => .error (.noValue word)
          | value :: rest =>
            if isOption value then .error (.noValue word)
            else
              match m.setValue name value with
              | .ok m => takeAll m rest
              | .error e => .error e
        else .error (.unexpected word)
    | '-' :: c :: letters =>
      match m.setLetters word (c :: letters) with
      | .ok m => takeAll m rest
      | .error e => .error e
    | _ =>
      match m.take word with
      | .ok m => takeAll m rest
      | .error e => .error e

/-- The first argument that lacks a word. -/
def missing? (m : Matches) : Option String :=
  (shapeOf m.path).arguments[m.arguments.length]?

/-- The values of an option. -/
def valuesOf (m : Matches) (name : String) : List String :=
  (m.values.filter fun v => v.1 == name).map (·.2)

/-- The command that was matched. -/
def command (m : Matches) : Except UsageError Command :=
  let has (flag : String) : Bool := m.flags.contains flag
  match m.path, m.arguments with
  | ["validate"], [manifest] => .ok (.validate manifest (has "lenient"))
  | ["scan"], [manifest] => .ok (.scan manifest)
  | ["types"], _ => .ok .types
  | ["invoke"], [manifest, tool] =>
    .ok (.invoke manifest tool ((m.values.lookup "args").getD "\x7b\x7d") (has "shadow")
      (m.valuesOf "var"))
  | ["secrets", "set"], [name] => .ok (.store (.set name (m.values.lookup "value")))
  | ["secrets", "list"], _ => .ok (.store .list)
  | ["secrets", "delete"], [name] => .ok (.store (.delete name (has "yes")))
  | ["config"], _ => .ok (.settings .print)
  | ["config", "show"], _ => .ok (.settings .print)
  | ["config", "path"], _ => .ok (.settings .path)
  | ["config", "validate"], _ => .ok (.settings .validate)
  | _, _ => .error .noCommand

end Matches

/-- The variable that names the settings file when no option does. -/
def settingsVariable : String := "OWLCLAW_CONFIG_PATH"

/-- The manifest that a command reads. -/
def Command.manifest? : Command → Option String
  | .validate manifest _ | .scan manifest | .invoke manifest .. => some manifest
  | _ => none

/-- The request in words, with the variables of the environment. A path is never empty. -/
def Request.parse (environment : List (String × String)) (words : List String) :
    Except UsageError Request := do
  let m ← Matches.takeAll {} words
  match m.missing? with
  | some argument => .error (.missing argument)
  | none =>
    let command ← m.command
    let settingsPath := match (m.values ++ m.outerValues).lookup "config" with
      | some path => some path
      | none => environment.lookup settingsVariable
    if command.manifest? = some "" then .error (.noValue "<MANIFEST>")
    else if settingsPath = some "" then .error (.noValue "--config <CONFIG>")
    else return ⟨settingsPath, (m.flags ++ m.outerFlags).contains "verbose", command⟩

end Toolwire.Cli
