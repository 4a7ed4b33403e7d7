import Toolwire.Manifest.Basic
import Toolwire.Tool
/-!
# Building tools

A declaration becomes a tool if its name, its schema and its binding are sound and its type
has an executor. A manifest is built as a whole, and the first declaration that is not sound
ends it; checking a manifest instead reports on every declaration.
-/
namespace Toolwire

/-- What holds for every tool that is built. -/
structure BuildOptions where
  recorder : Recorder := .none
  /-- The most characters of a recorded summary. -/
  summaryMax : Nat := 500
  validation : Validation := .strict
  /-- Every tool runs in shadow mode. -/
  forceShadow : Bool := false
  deriving DecidableEq, Repr

namespace BuildOptions

/-- The options that settings ask for. -/
def ofSettings (s : Settings) : BuildOptions :=
  { summaryMax := s.engine.summaryMax, validation := s.engine.validation }

/-- The name of a truth value. -/
def truth (b : Bool) : String := if b then "true" else "false"

/-- The name of a validation mode as a constant. -/
def constant : Validation → String
  | .strict => "Strict"
  | .lenient => "Lenient"

/-- Options in words. -/
def describe (o : BuildOptions) : String :=
  "BuildOptions \x7b recorder: " ++ truth (o.recorder != .none) ++ ", summary_max_chars: "
    ++ toString o.summaryMax ++ ", validation: " ++ constant o.validation ++ ", force_shadow: "
    ++ truth o.forceShadow ++ " \x7d"

end BuildOptions

/-- A tool in words. -/
def Tool.describe (t : Tool) : String :=
  let mode := match t.binding.mode with
    | .active => "Active"
    | .shadow => "Shadow"
  "BindingTool \x7b name: " ++ Text.quoted t.name ++ ", binding_type: "
    ++ Text.quoted t.binding.typeName ++ ", mode: " ++ mode ++ ", .. \x7d"

namespace ToolDeclaration

/-- The tool of a declaration, and the warnings about its binding. -/
def build (d : ToolDeclaration) (types : List String) (o : BuildOptions) :
    List String × Except ManifestError Tool :=
  let refuse (reasons : List String) : List String × Except ManifestError Tool :=
    ([], .error (.invalidTool d.name ⟨reasons⟩))
  match nameProblem? d.name with
  | some problem => refuse [problem]
  | none =>
    if !d.parameters.isObj then refuse [parametersProblem]
    else
      match Binding.parse d.binding o.validation with
      | .error e => refuse e.errors
      | .ok (binding, warnings) =>
        let binding := if o.forceShadow then { binding with mode := .shadow } else binding
        (warnings,
          if types.contains binding.typeName then
            .ok { name := d.name, description := d.description, schema := d.parameters,
                  binding := binding, summaryMax := o.summaryMax, validation := o.validation }
          else .error (.noExecutor d.name binding.typeName types))

/-- What the log says of the warnings about a declaration: first that they were found, then
which tool they are about. -/
def warningEntries (d : ToolDeclaration) (warnings : List String) : List LogEntry :=
  warnings.map Tool.findingEntry
    ++ warnings.map fun warning =>
      { level := .warn, message := warning, fields := [("tool", d.name)] }

/-- The report on a declaration that stands behind others. -/
def report (d : ToolDeclaration) (mode : Validation) (earlier : List String) : Report :=
  let r := Binding.check d.binding mode
  { r with
    errors :=
      (if earlier.contains d.name then ["duplicate tool name '" ++ d.name ++ "'"] else [])
        ++ (nameProblem? d.name).toList ++ r.errors
        ++ (if d.parameters.isObj then [] else [parametersProblem]) }

end ToolDeclaration

namespace Manifest

/-- Reports on declarations that stand behind others of the names `earlier`. -/
def reportsFrom (mode : Validation) (earlier : List String) :
    List ToolDeclaration → List (String × Report)
  | [] => []
  | d :: rest => (d.name, d.report mode earlier) :: reportsFrom mode (d.name :: earlier) rest

/-- The report on every declaration. -/
def check (m : Manifest) (mode : Validation) : List (String × Report) :=
  reportsFrom mode [] m.tools

/-- Tools of declarations that stand behind others of the names `earlier`. -/
def buildFrom (types : List String) (o : BuildOptions) (earlier : List String) :
    List ToolDeclaration → Except ManifestError (List Tool)
  | [] => .ok []
  | d :: rest =>
    if earlier.contains d.name then .error (.duplicateTool d.name)
    else
      match (d.build types o).2 with
      | .error e => .error e
      | .ok tool => (buildFrom types o (d.name :: earlier) rest).map (tool :: ·)

/-- The tools of a manifest. -/
def build (m : Manifest) (types : List String) (o : BuildOptions) :
    Except ManifestError (List Tool) :=
  buildFrom types o [] m.tools

end Manifest
end Toolwire
