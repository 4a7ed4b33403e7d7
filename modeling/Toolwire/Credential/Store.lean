import Toolwire.Crypto.Argon2
import Toolwire.Crypto.Gcm
import Toolwire.Credential.Resolver
import Toolwire.Text.Utf8
/-!
# The credential store

A folder keeps every credential in a file of its own, `NAME.enc`: a nonce of twelve bytes
and the encrypted value behind it. The key of a store may be derived from a passphrase and
from a salt that is kept in the folder too.
-/
namespace Toolwire

open Crypto

/-- What stands under a name in a folder. -/
inductive Entry where
  /-- A file with its content and its permissions. -/
  | file (content : ByteArray) (mode : Nat)
  | folder
  deriving Inhabited

/-- The entries of a folder, by name. A folder that does not exist has none. -/
abbrev Folder := List (String × Entry)

/-- Why the store does not do what is asked. -/
inductive StoreError where
  /-- The system refuses. -/
  | system (reason : String)
  | crypto (reason : String)
  | notText (fault : Text.Utf8Fault)
  | notFound (name : String)
  | invalidName (name : String)
  deriving DecidableEq, Repr

/-- The error in words. -/
def StoreError.message : StoreError → String
  | .system reason => "IO error: " ++ reason
  | .crypto reason => "Crypto error: " ++ reason
  | .notText fault => "UTF-8 error: " ++ fault.message
  | .notFound name => "Credential not found: " ++ name
  | .invalidName name =>
    "Invalid credential name '" ++ name ++ "': expected [A-Za-z_][A-Za-z0-9_]*"

/-- What the system says of a folder that is used as a file. -/
def isFolderReason : String := "Is a directory (os error 21)"

namespace Folder

/-- The content of a file; nothing when there is no entry. -/
def read? (f : Folder) (name : String) : Except StoreError (Option ByteArray) :=
  match Members.get? f name with
  | none => .ok none
  | some (.file content _) => .ok (some content)
  | some .folder => .error (.system isFolderReason)

/-- Writes a file with permissions. -/
def write (f : Folder) (name : String) (content : ByteArray) (mode : Nat) :
    Except StoreError Folder :=
  match Members.get? f name with
  | some .folder => .error (.system isFolderReason)
  | _ => .ok (Members.insert f name (.file content mode))

/-- Removes a file; nothing happens when there is none. -/
def remove (f : Folder) (name : String) : Except StoreError Folder :=
  match Members.get? f name with
  | some .folder => .error (.system isFolderReason)
  | _ => .ok (Members.erase f name)

end Folder

namespace CredentialStore

/-- The end of the name of a credential file. -/
def suffix : String := ".enc"

/-- The name of the file of a credential. -/
def fileName (name : String) : Except StoreError String :=
  if Reference.isName name then .ok (name ++ suffix) else .error (.invalidName name)

/-- The permissions of a credential file: its owner may read and write it. -/
def privateMode : Nat := 0o600

/-- The permissions of other files. -/
def commonMode : Nat := 0o644

/-- The size of a nonce. -/
def nonceSize : Nat := 12

/-- What is said of bytes that are not what was encrypted under the key. -/
def refused : String := "aead::Error"

/-- The text in bytes. -/
def textOf (bytes : ByteArray) : Except StoreError String :=
  match String.fromUTF8? bytes with
  | some text => .ok text
  | none => .error (.notText ((Text.utf8Fault? bytes).getD ⟨0, none⟩))

/-- The value in the content of a credential file. -/
def decode (cipher : Cipher) (key content : ByteArray) : Except StoreError String :=
  if content.size < nonceSize then .error (.crypto "Data too short")
  else
    match cipher.decrypt? key (content.extract 0 nonceSize)
        (content.extract nonceSize content.size) with
    | some plain => textOf plain
    | none => .error (.crypto refused)

/-- The content of a credential file. -/
def encode (cipher : Cipher) (key nonce : ByteArray) (value : String) : ByteArray :=
  nonce ++ cipher.encrypt key nonce value.toUTF8

/-- Puts a credential into the store. -/
def store (cipher : Cipher) (key nonce : ByteArray) (f : Folder) (name value : String) :
    Except StoreError Folder := do
  let file ← fileName name
  f.write file (encode cipher key nonce value) privateMode

/-- The value of a credential. -/
def load (cipher : Cipher) (key : ByteArray) (f : Folder) (name : String) :
    Except StoreError String := do
  let file ← fileName name
  match ← f.read? file with
  | some content => decode cipher key content
  | none => .error (.notFound name)

/-- Takes a credential out of the store, if it is there. -/
def delete (f : Folder) (name : String) : Except StoreError Folder := do
  let file ← fileName name
  f.remove file

/-- A name without the end that credential files have. -/
def stem? (name : String) : Option String :=
  let s := name.toList
  let n := s.length - suffix.length
  if s.drop n = suffix.toList then some (String.ofList (s.take n)) else none

/-- Whether a text stands before another or is the same. -/
def notAbove (a b : String) : Bool := !(b < a)

/-- The names of the credentials, sorted. -/
def list (f : Folder) : List String := ((f.map (·.1)).filterMap stem?).mergeSort notAbove

/-- The name of the salt file. -/
def saltName : String := ".salt"

/-- The size of a fresh salt. -/
def saltSize : Nat := 16

/-- The salt of a folder, and the folder with a fresh one if it has none. -/
def ensureSalt (f : Folder) (fresh : ByteArray) : Except StoreError (Folder × ByteArray) := do
  match ← f.read? saltName with
  | some salt => return (f, salt)
  | none => return (← f.write saltName fresh commonMode, fresh)

/-- A way to derive a key from a passphrase and a salt. -/
abbrev Derivation := String → ByteArray → Except StoreError ByteArray

/-- The size of a key. -/
def keySize : Nat := 32

/-- Derives a key with Argon2id; a salt of less than eight bytes is refused. -/
def argon2id : Derivation := fun passphrase salt =>
  if salt.size < Argon2.minSalt then .error (.crypto "salt is too short")
  else .ok (Argon2.hash {} keySize passphrase.toUTF8 salt)

/-- The folder and the key of a store that is opened with a passphrase. -/
def openWith (derive : Derivation) (f : Folder) (passphrase : String) (fresh : ByteArray) :
    Except StoreError (Folder × ByteArray) := do
  let (f, salt) ← ensureSalt f fresh
  return (f, ← derive passphrase salt)

/-- The store as a place to look credentials up. -/
def source (cipher : Cipher) (key : ByteArray) (f : Folder) : Source := fun name =>
  match load cipher key f name with
  | .ok value => .ok (some value)
  | .error (.notFound _) => .ok none
  | .error (.invalidName name) => .error (.invalidName name)
  | .error e => .error (.store e.message)

end CredentialStore
end Toolwire
