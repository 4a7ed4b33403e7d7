import Toolwire.Binding.Check
/-!
# Failures

Why an invocation gave no result. Only failures of transport and expired attempts are
worth another attempt.
-/
namespace Toolwire

/-- Why there is no result. -/
inductive Failure where
  | configuration (e : ConfigurationError)
  | credential (e : CredentialError)
  | noExecutor (type : String) (available : List String)
  | invalidParameters (message : String)
  | transport (message : String)
  | timeout (ms : Nat)
  | execution (message : String)
  | writeDenied (reason : String)
  deriving DecidableEq, Repr

namespace Failure

/-- Whether another attempt may succeed. -/
def isRetryable : Failure → Bool
  | .transport _ | .timeout _ => true
  | _ => false

/-- The short name of the kind of a failure. -/
def kind : Failure → String
  | .configuration _ => "configuration"
  | .credential _ => "credential"
  | .noExecutor .. => "executor_not_found"
  | .invalidParameters _ => "invalid_parameters"
  | .transport _ => "transport"
  | .timeout _ => "timeout"
  | .execution _ => "execution"
  | .writeDenied _ => "write_denied"

/-- The failure in words. -/
def message : Failure → String
  | .configuration e => e.message
  | .credential e => e.message
  | .noExecutor type available =>
    "No executor registered for binding type '" ++ type ++ "'. Available types: "
      ++ ", ".intercalate available
  | .invalidParameters m => "Invalid parameters: " ++ m
  | .transport m => "Transport error: " ++ m
  | .timeout ms => "Timed out after " ++ toString ms ++ "ms"
  | .execution m => "Execution failed: " ++ m
  | .writeDenied reason => "Write denied: " ++ reason

/-- The failure of a tool in words. -/
def toolMessage (tool : String) (f : Failure) : String :=
  "Tool '" ++ tool ++ "' failed: " ++ f.message

/-- A binding given to an executor of another type. -/
def mismatched (expected : String) (b : Binding) : Failure :=
  .execution ("executor '" ++ expected ++ "' cannot run binding type '" ++ b.typeName ++ "'")

end Failure
end Toolwire
