import Toolwire.Credential.Store
/-!
# A store that is open

An open store works on one folder with one key at a time. It answers one request after the
other and can be opened anew, with a key or with a passphrase, over the same folder.
-/
namespace Toolwire

/-- A store that is open: its folder and the key that it works with. -/
structure Vault where
  folder : Folder
  key : ByteArray

namespace Vault

open CredentialStore Crypto

/-- What is asked of a store. The bytes that are drawn for a request come with it. -/
inductive Request where
  | store (name value : String) (nonce : Bytes nonceSize)
  | load (name : String)
  | delete (name : String)
  | list
  | openKey (key : Bytes keySize)
  | openPassphrase (passphrase : String) (fresh : Bytes saltSize)

/-- The name of the credential that a request is about. -/
def Request.name? : Request → Option String
  | .store name .. | .load name | .delete name => some name
  | .list | .openKey _ | .openPassphrase .. => none

/-- What a request is answered with. -/
inductive Answer where
  | done
  | value (text : String)
  | names (all : List String)
  | refused (why : StoreError)

/-- The store with its folder changed, unless the change is refused. -/
def changed (v : Vault) : Except StoreError Folder → Vault × Answer
  | .ok f => ({ v with folder := f }, .done)
  | .error e => (v, .refused e)

/-- The store after a request, and its answer. -/
def step (cipher : Cipher) (derive : Derivation) (v : Vault) : Request → Vault × Answer
  | .store name value nonce =>
    v.changed (CredentialStore.store cipher v.key nonce.1 v.folder name value)
  | .load name =>
    match CredentialStore.load cipher v.key v.folder name with
    | .ok text => (v, .value text)
    | .error e => (v, .refused e)
  | .delete name => v.changed (CredentialStore.delete v.folder name)
  | .list => (v, .names (CredentialStore.list v.folder))
  | .openKey key => ({ v with key := key.1 }, .done)
  | .openPassphrase passphrase fresh =>
    match openWith derive v.folder passphrase fresh.1 with
    | .ok (f, key) => (⟨f, key⟩, .done)
    | .error e => (v, .refused e)

/-- The store after requests made one after the other. -/
def after (cipher : Cipher) (derive : Derivation) (v : Vault) (requests : List Request) : Vault :=
  requests.foldl (fun v q => (v.step cipher derive q).1) v

end Vault
end Toolwire
