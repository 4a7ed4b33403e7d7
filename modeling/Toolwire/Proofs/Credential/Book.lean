import Mathlib
import Toolwire.Credential.Vault
/-!
# The book of a store

What a store is to those who use it: for every live name a value and how the store was open
when the value was put in. The book says what a request is answered, given that a cipher tells
keys apart and a derivation passphrases; it has one answer to each (`Book.Says.unique`).
-/
namespace Toolwire

open CredentialStore Crypto

/-! ## Ideal encryption and derivation -/

/-- What is encrypted under a key is read under that key and under no other. -/
structure Crypto.Cipher.Ideal (c : Cipher) : Prop where
  opens : ∀ (key : Bytes keySize) (nonce : Bytes nonceSize) (plain : ByteArray),
    c.decrypt? key.1 nonce.1 (c.encrypt key.1 nonce.1 plain) = some plain
  refuses : ∀ (key other : Bytes keySize) (nonce : Bytes nonceSize) (plain : ByteArray),
    other ≠ key → c.decrypt? other.1 nonce.1 (c.encrypt key.1 nonce.1 plain) = none

/-- Every known passphrase makes a key with every salt, and no other of them makes the same.
Keys are of one size, so no derivation tells all passphrases apart, but it may tell apart those
that are in use. -/
structure CredentialStore.TellsApart (derive : Derivation) (known : Set String) : Prop where
  derives : ∀ p ∈ known, ∀ salt : Bytes saltSize, ∃ key : Bytes keySize,
    derive p salt.1 = .ok key.1
  injective : ∀ p ∈ known, ∀ q ∈ known, ∀ (salt other : Bytes saltSize) (key : ByteArray),
    derive p salt.1 = .ok key → derive q other.1 = .ok key → p = q ∧ salt = other

namespace CredentialStore

variable {cipher : Cipher} {key other : Bytes keySize} {nonce : Bytes nonceSize} {value : String}

theorem decode_append (sealed : ByteArray) (key : ByteArray) :
    decode cipher key (nonce.1 ++ sealed) =
      (cipher.decrypt? key nonce.1 sealed).elim (.error (.crypto refused)) textOf := by
  have hsize : ¬ (nonce.1 ++ sealed).size < nonceSize := by
    have := nonce.2
    rw [ByteArray.size_append]
    omega
  have hhead : (nonce.1 ++ sealed).extract 0 nonceSize = nonce.1 :=
    ByteArray.extract_append_eq_left nonce.2.symm
  have htail : (nonce.1 ++ sealed).extract nonceSize (nonce.1 ++ sealed).size = sealed :=
    ByteArray.extract_append_eq_right nonce.2.symm ByteArray.size_append
  rw [decode, if_neg hsize, hhead, htail]
  cases cipher.decrypt? key nonce.1 sealed <;> rfl

theorem decode_encode (hc : cipher.Ideal) :
    decode cipher key.1 (encode cipher key.1 nonce.1 value) = .ok value := by
  have htext : String.fromUTF8? value.toUTF8 = some value := dif_pos value.isValidUTF8
  rw [encode, decode_append, hc.opens, Option.elim_some, textOf, htext]

theorem decode_encode_of_ne (hc : cipher.Ideal) (h : other ≠ key) :
    decode cipher other.1 (encode cipher key.1 nonce.1 value) = .error (.crypto refused) := by
  rw [encode, decode_append, hc.refuses _ _ _ _ h]
  rfl

end CredentialStore

/-! ## Openings -/

/-- How a store is opened. -/
inductive Opening where
  | key (key : Bytes keySize)
  | passphrase (text : String)

namespace Opening

/-- Two openings are under the same key. Passphrases differ in their keys, but a key may be
the one that a passphrase makes. -/
def SameKey (derive : Derivation) (salt : Option (Bytes saltSize)) : Opening → Opening → Prop
  | key k, key l => k = l
  | passphrase p, passphrase q => p = q
  | key k, passphrase p | passphrase p, key k => ∃ s, salt = some s ∧ derive p s.1 = .ok k.1

/-- The key of an opening, whose passphrase is known. -/
def HasKey (derive : Derivation) (known : Set String) (salt : Option (Bytes saltSize)) :
    Opening → Bytes keySize → Prop
  | key k, l => k = l
  | passphrase p, l => p ∈ known ∧ ∃ s, salt = some s ∧ derive p s.1 = .ok l.1

variable {derive : Derivation} {known : Set String} {salt : Option (Bytes saltSize)}
  {o o' : Opening} {k k' : Bytes keySize}

/-- Drawing a salt takes no key away, for a salt that is there stays. -/
theorem HasKey.getD (h : HasKey derive known salt o k) (fresh : Bytes saltSize) :
    HasKey derive known (some (salt.getD fresh)) o k := by
  cases o with
  | key l => exact h
  | passphrase p =>
    obtain ⟨hp, s, rfl, hk⟩ := h
    exact ⟨hp, s, rfl, hk⟩

theorem HasKey.derive_iff {p : String} (h : HasKey derive known salt (.passphrase p) k') :
    (∃ s, salt = some s ∧ derive p s.1 = .ok k.1) ↔ k' = k := by
  obtain ⟨-, s, rfl, hk'⟩ := h
  constructor
  · rintro ⟨t, ht, hk⟩
    cases ht
    exact Subtype.ext (Except.ok.inj (hk'.symm.trans hk))
  · rintro rfl
    exact ⟨s, rfl, hk'⟩

theorem sameKey_iff (hd : TellsApart derive known) (h : o.HasKey derive known salt k)
    (h' : o'.HasKey derive known salt k') : o.SameKey derive salt o' ↔ k' = k := by
  cases o with
  | key l =>
    obtain rfl : l = k := h
    cases o' with
    | key m =>
      obtain rfl : m = k' := h'
      exact eq_comm
    | passphrase q => exact h'.derive_iff
  | passphrase p =>
    cases o' with
    | key m =>
      obtain rfl : m = k' := h'
      exact h.derive_iff.trans eq_comm
    | passphrase q =>
      obtain ⟨hp, s, rfl, hk⟩ := h
      obtain ⟨hq, t, ht, hk'⟩ := h'
      cases ht
      -- Both were derived from the one salt, so the passphrases are all that can differ.
      constructor
      · rintro (rfl : p = q)
        exact Subtype.ext (Except.ok.inj (hk'.symm.trans hk))
      · rintro rfl
        exact (hd.injective p hp q hq s s _ hk hk').1

end Opening

/-! ## The book -/

/-- What a store is to those who use it. -/
structure Book where
  /-- The value of every live name, and how the store was open when it was put in. -/
  entries : String → Option (Opening × String) := fun _ => none
  opening : Opening
  /-- Drawn when a passphrase is used for the first time. -/
  salt : Option (Bytes saltSize) := none

namespace Book

open Vault

/-- The book after a request. -/
def step (b : Book) : Request → Book
  | .store name value _ =>
    if Reference.isName name then
      { b with entries := Function.update b.entries name (some (b.opening, value)) }
    else b
  | .delete name =>
    if Reference.isName name then { b with entries := Function.update b.entries name none } else b
  | .load _ | .list => b
  | .openKey key => { b with opening := .key key }
  | .openPassphrase passphrase fresh =>
    { b with opening := .passphrase passphrase, salt := some (b.salt.getD fresh) }

/-- The book after requests made one after the other. -/
def after (b : Book) (requests : List Request) : Book := requests.foldl step b

/-- The answer that a book has for a request. -/
inductive Says (derive : Derivation) (b : Book) : Request → Answer → Prop where
  | invalid {q : Request} {name : String} (hq : q.name? = some name)
      (hn : Reference.isName name = false) : Says derive b q (.refused (.invalidName name))
  | stored {name value : String} {nonce : Bytes nonceSize} (hn : Reference.isName name = true) :
      Says derive b (.store name value nonce) .done
  | deleted {name : String} (hn : Reference.isName name = true) :
      Says derive b (.delete name) .done
  | unknown {name : String} (hn : Reference.isName name = true) (he : b.entries name = none) :
      Says derive b (.load name) (.refused (.notFound name))
  | readable {name value : String} {opening : Opening} (hn : Reference.isName name = true)
      (he : b.entries name = some (opening, value)) (hk : opening.SameKey derive b.salt b.opening) :
      Says derive b (.load name) (.value value)
  | foreign {name value : String} {opening : Opening} (hn : Reference.isName name = true)
      (he : b.entries name = some (opening, value))
      (hk : ¬ opening.SameKey derive b.salt b.opening) :
      Says derive b (.load name) (.refused (.crypto CredentialStore.refused))
  | listed {names : List String} (hs : names.Pairwise (· < ·))
      (hm : ∀ name, name ∈ names ↔ (b.entries name).isSome = true) :
      Says derive b .list (.names names)
  | openedKey {key : Bytes keySize} : Says derive b (.openKey key) .done
  | openedPassphrase {passphrase : String} {fresh : Bytes saltSize} :
      Says derive b (.openPassphrase passphrase fresh) .done

variable {derive : Derivation} {b : Book}

/-- A book leaves no choice: it has one answer to a request. -/
theorem Says.unique {q : Request} {a a' : Answer} (h : b.Says derive q a)
    (h' : b.Says derive q a') : a = a' := by
  cases h with
  | listed hs hm =>
    cases h' with
    | invalid hq _ => cases hq
    | listed hs' hm' =>
      have hsame := fun name => (hm name).trans (hm' name).symm
      have hperm := (List.perm_ext_iff_of_nodup (hs.imp ne_of_lt) (hs'.imp ne_of_lt)).2 hsame
      rw [hperm.eq_of_pairwise (fun _ _ _ _ hlt hgt => absurd hgt hlt.asymm) hs hs']
  | _ => cases h' <;> simp_all [Request.name?]

theorem step_of_not_isName {q : Request} {name : String} (hq : q.name? = some name)
    (hn : Reference.isName name = false) : b.step q = b := by
  cases q with
  | store other value nonce =>
    cases hq
    exact if_neg (by simp [hn])
  | delete other =>
    cases hq
    exact if_neg (by simp [hn])
  | load _ => rfl
  | list | openKey _ | openPassphrase _ _ => cases hq

theorem salt_step {s : Bytes saltSize} (h : b.salt = some s) (q : Request) :
    (b.step q).salt = some s := by
  cases q with
  | store name value nonce =>
    simp only [step]
    split <;> exact h
  | delete name =>
    simp only [step]
    split <;> exact h
  | load _ | list | openKey _ => exact h
  | openPassphrase passphrase fresh =>
    simp only [step, h, Option.getD_some]

/-- A salt is drawn once. -/
theorem salt_after {s : Bytes saltSize} (h : b.salt = some s) (requests : List Request) :
    (b.after requests).salt = some s := by
  induction requests generalizing b with
  | nil => exact h
  | cons q requests ih => exact ih (salt_step h q)

end Book

end Toolwire
