/-!
# Credential errors

What can go wrong with a credential. The messages name credentials and never hold values.
-/
namespace Toolwire

/-- Why a credential cannot be used. -/
inductive CredentialError where
  | unresolved (name : String)
  | plaintextSecret (field reason : String)
  | invalidName (name : String)
  | store (message : String)
  deriving DecidableEq, Repr

/-- The short name of the kind of an error. -/
def CredentialError.kind : CredentialError → String
  | .unresolved _ => "unresolved"
  | .plaintextSecret .. => "plaintext_secret"
  | .invalidName _ => "invalid_name"
  | .store _ => "store"

/-- The error in words. -/
def CredentialError.message : CredentialError → String
  | .unresolved name => "Unresolved credential reference '$\x7b" ++ name ++ "\x7d'"
  | .plaintextSecret field reason =>
    "Credential field '" ++ field ++ "' must use $\x7bVAR\x7d references: " ++ reason
  | .invalidName name => "Invalid credential name '" ++ name ++ "'"
  | .store message => "Secret store error: " ++ message

end Toolwire
