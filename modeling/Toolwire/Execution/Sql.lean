import Toolwire.Execution.Trace
import Toolwire.Outcome
/-!
# Executing statements

Reads go to the database at once and return at most the declared number of rows. Writes
are put before a gate first, in shadow mode too, and reach the database only if the gate
approves and the mode is active.
-/
namespace Toolwire.Sql

/-- A database: what each read and each write comes to. -/
structure Backend where
  fetch : Nat → Attempt (List Row)
  write : Nat → Attempt Nat

/-- A gate refuses a write with a reason or approves it. -/
abbrev Gate := Statement → Bool → Except String Unit

/-- The gate that refuses every write. -/
def denyWrites : Gate := fun _ _ => .error "SQL writes require approval from a risk gate"

/-- The gate that approves every write. -/
def approveWrites : Gate := fun _ _ => .ok ()

/-- The outcome of a read. -/
def rowsOutcome (rows : List Row) : Outcome :=
  (Outcome.success (.arr (rows.map .obj))).withExtra "row_count" (.ofNat rows.length)

/-- The outcome of a write. -/
def writtenOutcome (affected : Nat) : Outcome :=
  Outcome.withExtra { status := .success } "affected_rows" (.ofNat affected)

/-- The outcome that describes a write instead of running it. -/
def shadowOutcome (s : Statement) : Trace Outcome := do
  Trace.emit (.log { level := .info, message := "Shadow mode: SQL write intercepted" })
  return ((Outcome.intercepted).withExtra "_query" (.str s.text)).withExtra "_parameters"
    s.parametersJson

/-- Runs a read. -/
def runRead (backend : Backend) (b : Binding) (q : SqlBinding) (s : Statement) (r : Resolver) :
    Trace Outcome := do
  let connection ← Trace.ofCredential (r.resolveCredential "connection" q.connection)
  let rows ← Trace.retried b "sql.fetch" (.fetch connection s q.maxRows) backend.fetch
  return rowsOutcome (rows.take q.maxRows)

/-- Runs a write that is approved. -/
def runWrite (backend : Backend) (b : Binding) (q : SqlBinding) (s : Statement) (r : Resolver) :
    Trace Outcome := do
  let connection ← Trace.ofCredential (r.resolveCredential "connection" q.connection)
  let affected ← Trace.retried b "sql.execute" (.write connection s) backend.write
  return writtenOutcome affected

/-- Puts a write before the gate. -/
def approve (gate : Gate) (s : Statement) (shadow : Bool) : Trace Unit := do
  Trace.emit (.ask s shadow)
  match gate s shadow with
  | .ok () => return ()
  | .error reason =>
    Trace.emit (.log { level := .warn, message := "SQL write denied",
                       fields := [("reason", reason)] })
    Trace.fail (.writeDenied reason)

/-- Executes a statement. -/
def execute (backend : Backend) (gate : Gate) (b : Binding) (q : SqlBinding) (args : Members)
    (r : Resolver) : Trace Outcome := do
  let s ← Trace.ofExcept (bind q args)
  if q.readOnly then runRead backend b q s r
  else do
    approve gate s b.isShadow
    if b.isShadow then shadowOutcome s else runWrite backend b q s r

end Toolwire.Sql
