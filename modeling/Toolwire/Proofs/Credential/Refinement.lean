import Mathlib
import Toolwire.Proofs.Credential.Book
import Toolwire.Proofs.Credential.Folder
/-!
# A store is a map

A folder of nonces, encrypted values and a salt keeps a book, and each request leaves it keeping
the book after the request. So over runs of any length a store answers as the book does,
whichever keys and passphrases it is opened with in between (`Vault.refines_book`).
-/
namespace Toolwire

open CredentialStore Crypto

namespace Vault

/-- What passphrases a request may come with. -/
def Request.Uses (known : Set String) : Request → Prop
  | .openPassphrase passphrase _ => passphrase ∈ known
  | .store .. | .load _ | .delete _ | .list | .openKey _ => True

/-- What stands in the file of a name: nothing without an entry, and else the value, encrypted
under the key that it was put in with. -/
def Holds (cipher : Cipher) (derive : Derivation) (known : Set String)
    (salt : Option (Bytes saltSize)) : Option (Opening × String) → Option Entry → Prop
  | none, file => file = none
  | some (opening, value), file =>
    ∃ (key : Bytes keySize) (nonce : Bytes nonceSize), opening.HasKey derive known salt key
      ∧ file = some (.file (encode cipher key.1 nonce.1 value) privateMode)

/-- A store keeps a book: the salt and the live entries are in their files, and the store works
with the key of the opening. -/
structure Keeps (cipher : Cipher) (derive : Derivation) (known : Set String) (v : Vault)
    (b : Book) : Prop where
  sorted : Members.Sorted v.folder
  salt : Members.get? v.folder saltName = b.salt.map fun s => Entry.file s.1 commonMode
  entries : ∀ name, Holds cipher derive known b.salt (b.entries name)
    (Members.get? v.folder (name ++ suffix))
  valid : ∀ name, b.entries name ≠ none → Reference.isName name = true
  opened : ∃ key : Bytes keySize, v.key = key.1 ∧ b.opening.HasKey derive known b.salt key

variable {cipher : Cipher} {derive : Derivation} {known : Set String} {v : Vault} {b : Book}
  {salt : Option (Bytes saltSize)} {entry : Option (Opening × String)} {file : Option Entry}

theorem Holds.ne_folder (h : Holds cipher derive known salt entry file) :
    file ≠ some .folder := by
  cases entry with
  | none =>
    obtain rfl : file = none := h
    simp
  | some e =>
    obtain ⟨key, nonce, -, rfl⟩ := h
    simp

theorem Holds.isSome_eq (h : Holds cipher derive known salt entry file) :
    file.isSome = entry.isSome := by
  cases entry with
  | none =>
    obtain rfl : file = none := h
    rfl
  | some e =>
    obtain ⟨key, nonce, -, rfl⟩ := h
    rfl

theorem Holds.getD (h : Holds cipher derive known salt entry file) (fresh : Bytes saltSize) :
    Holds cipher derive known (some (salt.getD fresh)) entry file := by
  cases entry with
  | none => exact h
  | some e =>
    obtain ⟨key, nonce, hk, rfl⟩ := h
    exact ⟨key, nonce, hk.getD fresh, rfl⟩

/-- A request about a name that is none is refused and touches nothing. -/
theorem step_of_not_isName (v : Vault) {q : Request} {name : String} (hq : q.name? = some name)
    (hn : Reference.isName name = false) :
    v.step cipher derive q = (v, .refused (.invalidName name)) := by
  have hfile := fileName_of_not_isName hn
  cases q with
  | store other value nonce =>
    cases hq
    rw [step, CredentialStore.store, hfile]
    rfl
  | load other =>
    cases hq
    rw [step, CredentialStore.load, hfile]
    rfl
  | delete other =>
    cases hq
    rw [step, CredentialStore.delete, hfile]
    rfl
  | list | openKey _ | openPassphrase _ _ => cases hq

namespace Keeps

/-- Changing the file of one name changes the entry of that name. -/
theorem change (h : Keeps cipher derive known v b) {name : String}
    (hn : Reference.isName name = true) {f : Folder} (hsorted : Members.Sorted f)
    (hself : Holds cipher derive known b.salt entry (Members.get? f (name ++ suffix)))
    (hothers : ∀ file, file ≠ name ++ suffix → Members.get? f file = Members.get? v.folder file) :
    Keeps cipher derive known { v with folder := f }
      { b with entries := Function.update b.entries name entry } := by
  constructor
  case sorted => exact hsorted
  case salt => exact (hothers saltName (saltName_ne name)).trans h.salt
  case entries =>
    -- Names and files correspond one to one, so no other name shares the file.
    intro other
    by_cases hother : other = name
    · subst hother
      simpa only [Function.update_self] using hself
    · have hfile := hothers (other ++ suffix) fun heq => hother (append_suffix_inj heq)
      simpa only [Function.update_of_ne hother, hfile] using h.entries other
  case valid =>
    intro other he
    by_cases hother : other = name
    · exact hother ▸ hn
    · exact h.valid other (by simpa only [Function.update_of_ne hother] using he)
  case opened => exact h.opened

theorem reopen (h : Keeps cipher derive known v b) {o : Opening} {key : Bytes keySize}
    (hk : o.HasKey derive known b.salt key) :
    Keeps cipher derive known { v with key := key.1 } { b with opening := o } where
  sorted := h.sorted
  salt := h.salt
  entries := h.entries
  valid := h.valid
  opened := ⟨key, rfl, hk⟩

/-- A salt is drawn once; a store that has one keeps it. -/
theorem ensureSalt (h : Keeps cipher derive known v b) (fresh : Bytes saltSize) :
    ∃ f, CredentialStore.ensureSalt v.folder fresh.1 = .ok (f, (b.salt.getD fresh).1)
      ∧ Keeps cipher derive known { v with folder := f }
        { b with salt := some (b.salt.getD fresh) } := by
  have hsalt := h.salt
  cases hs : b.salt with
  | some s =>
    rw [hs, Option.map_some] at hsalt
    refine ⟨v.folder, ensureSalt_of_file hsalt, ?_⟩
    rw [Option.getD_some, ← hs]
    exact h
  | none =>
    -- The salt is a file of its own, so the entries stay, and no key was derived before it.
    rw [hs, Option.map_none] at hsalt
    refine ⟨_, ensureSalt_of_none hsalt, ?_⟩
    constructor
    case sorted => exact Members.sorted_insert h.sorted _ _
    case salt => exact Members.get?_insert_self _ _ _
    case entries =>
      intro name
      have hfile : Members.get? (Members.insert v.folder saltName (.file fresh.1 commonMode))
          (name ++ suffix) = Members.get? v.folder (name ++ suffix) :=
        Members.get?_insert_of_ne _ _ (saltName_ne name).symm
      have hholds := (h.entries name).getD fresh
      rw [← hfile, hs] at hholds
      exact hholds
    case valid => exact h.valid
    case opened =>
      obtain ⟨key, hkey, hk⟩ := h.opened
      have hk := hk.getD fresh
      rw [hs] at hk
      exact ⟨key, hkey, hk⟩

/-! ### One request -/

theorem step_of_not_isName (h : Keeps cipher derive known v b) {q : Request} {name : String}
    (hq : q.name? = some name) (hn : Reference.isName name = false) :
    Keeps cipher derive known (v.step cipher derive q).1 (b.step q)
      ∧ b.Says derive q (v.step cipher derive q).2 := by
  rw [Vault.step_of_not_isName v hq hn, Book.step_of_not_isName hq hn]
  exact ⟨h, .invalid hq hn⟩

theorem step_store (h : Keeps cipher derive known v b) {name : String}
    (hn : Reference.isName name = true) (value : String) (nonce : Bytes nonceSize) :
    Keeps cipher derive known (v.step cipher derive (.store name value nonce)).1
        (b.step (.store name value nonce))
      ∧ (v.step cipher derive (.store name value nonce)).2 = .done := by
  obtain ⟨key, hkey, hopen⟩ := h.opened
  rw [step, store_of_ne hn (h.entries name).ne_folder, Book.step, if_pos hn]
  refine ⟨?_, rfl⟩
  apply h.change hn (Members.sorted_insert h.sorted _ _)
  · refine ⟨key, nonce, hopen, ?_⟩
    rw [Members.get?_insert_self, hkey]
  · intro file hfile
    exact Members.get?_insert_of_ne _ _ hfile

theorem step_delete (h : Keeps cipher derive known v b) {name : String}
    (hn : Reference.isName name = true) :
    Keeps cipher derive known (v.step cipher derive (.delete name)).1 (b.step (.delete name))
      ∧ (v.step cipher derive (.delete name)).2 = .done := by
  rw [step, delete_of_ne hn (h.entries name).ne_folder, Book.step, if_pos hn]
  refine ⟨?_, rfl⟩
  apply h.change hn (Members.sorted_erase h.sorted _)
  · exact Members.get?_erase_self _ _
  · intro file hfile
    exact Members.get?_erase_of_ne _ hfile

theorem step_load (hc : cipher.Ideal) (hd : TellsApart derive known)
    (h : Keeps cipher derive known v b) {name : String} (hn : Reference.isName name = true) :
    v.step cipher derive (.load name) = (v, (v.step cipher derive (.load name)).2)
      ∧ b.Says derive (.load name) (v.step cipher derive (.load name)).2 := by
  obtain ⟨key, hkey, hopen⟩ := h.opened
  have hholds := h.entries name
  cases he : b.entries name with
  | none =>
    rw [he] at hholds
    rw [step, load_of_none hn hholds]
    exact ⟨rfl, .unknown hn he⟩
  | some e =>
    obtain ⟨opening, value⟩ := e
    rw [he] at hholds
    obtain ⟨stored, nonce, hstored, hfile⟩ := hholds
    have hsame := Opening.sameKey_iff hd hstored hopen
    rw [step, load_of_file hn hfile, hkey]
    by_cases heq : key = stored
    · rw [heq, decode_encode hc]
      exact ⟨rfl, .readable hn he (hsame.2 heq)⟩
    · rw [decode_encode_of_ne hc heq]
      exact ⟨rfl, .foreign hn he fun hs => heq (hsame.1 hs)⟩

theorem step_openPassphrase (hd : TellsApart derive known) (h : Keeps cipher derive known v b)
    {passphrase : String} (hp : passphrase ∈ known) (fresh : Bytes saltSize) :
    Keeps cipher derive known (v.step cipher derive (.openPassphrase passphrase fresh)).1
        (b.step (.openPassphrase passphrase fresh))
      ∧ (v.step cipher derive (.openPassphrase passphrase fresh)).2 = .done := by
  obtain ⟨f, hf, hkeeps⟩ := h.ensureSalt fresh
  obtain ⟨key, hkey⟩ := hd.derives passphrase hp (b.salt.getD fresh)
  have hopen : openWith derive v.folder passphrase fresh.1 = .ok (f, key.1) := by
    simp only [openWith, hf, hkey, bind, Except.bind, pure, Except.pure]
  rw [step, hopen, Book.step]
  exact ⟨hkeeps.reopen ⟨hp, _, rfl, hkey⟩, rfl⟩

/-- A request is answered as the book says, and the store goes on keeping the book. -/
theorem step (hc : cipher.Ideal) (hd : TellsApart derive known)
    (h : Keeps cipher derive known v b) {q : Request} (hq : q.Uses known) :
    Keeps cipher derive known (v.step cipher derive q).1 (b.step q)
      ∧ b.Says derive q (v.step cipher derive q).2 := by
  cases q with
  | store name value nonce =>
    cases hn : Reference.isName name with
    | true =>
      obtain ⟨hkeeps, hdone⟩ := h.step_store hn value nonce
      exact ⟨hkeeps, hdone ▸ .stored hn⟩
    | false => exact h.step_of_not_isName rfl hn
  | load name =>
    cases hn : Reference.isName name with
    | true =>
      obtain ⟨hsame, hanswer⟩ := h.step_load hc hd hn
      rw [hsame]
      exact ⟨h, hanswer⟩
    | false => exact h.step_of_not_isName rfl hn
  | delete name =>
    cases hn : Reference.isName name with
    | true =>
      obtain ⟨hkeeps, hdone⟩ := h.step_delete hn
      exact ⟨hkeeps, hdone ▸ .deleted hn⟩
    | false => exact h.step_of_not_isName rfl hn
  | list =>
    refine ⟨h, .listed (pairwise_list h.sorted) ?_⟩
    intro name
    rw [mem_list, (h.entries name).isSome_eq]
  | openKey key => exact ⟨h.reopen rfl, .openedKey⟩
  | openPassphrase passphrase fresh =>
    obtain ⟨hkeeps, hdone⟩ := h.step_openPassphrase hd hq fresh
    exact ⟨hkeeps, hdone ▸ .openedPassphrase⟩

theorem after (hc : cipher.Ideal) (hd : TellsApart derive known)
    (h : Keeps cipher derive known v b) {requests : List Request}
    (hq : ∀ q ∈ requests, q.Uses known) :
    Keeps cipher derive known (v.after cipher derive requests) (b.after requests) := by
  induction requests generalizing v b with
  | nil => exact h
  | cons q requests ih =>
    have hstep := (h.step hc hd (hq q (by simp))).1
    exact ih hstep fun p hp => hq p (by simp [hp])

end Keeps

/-- A store that is made with a key and has no folder yet keeps the empty book. -/
theorem keeps_new (key : Bytes keySize) :
    Keeps cipher derive known ⟨[], key.1⟩ { opening := .key key } where
  sorted := List.Pairwise.nil
  salt := rfl
  entries _ := rfl
  valid _ h := absurd rfl h
  opened := ⟨key, rfl, rfl⟩

/-- A store is a map, over runs of any length from a folder that is not there. It answers every
request as the book of the run does, a request about a name that is none touches nothing, a salt
that is drawn stays, and a passphrase reads again what was put in with it. -/
theorem refines_book (hc : cipher.Ideal) (hd : TellsApart derive known) (key : Bytes keySize)
    {requests : List Request} (hq : ∀ q ∈ requests, q.Uses known) :
    let v := after cipher derive ⟨[], key.1⟩ requests
    let b := Book.after { opening := .key key } requests
    (∀ q : Request, q.Uses known → b.Says derive q (v.step cipher derive q).2)
    ∧ (∀ (q : Request) (name : String), q.name? = some name → Reference.isName name = false →
      v.step cipher derive q = (v, .refused (.invalidName name)))
    ∧ (∀ salt, Members.get? v.folder saltName = some salt → ∀ more : List Request,
      (∀ q ∈ more, q.Uses known) →
        Members.get? (v.after cipher derive more).folder saltName = some salt)
    ∧ (∀ name passphrase value, b.entries name = some (.passphrase passphrase, value) →
      ∀ fresh, ((v.step cipher derive (.openPassphrase passphrase fresh)).1.step cipher derive
        (.load name)).2 = .value value) := by
  intro v b
  have h : Keeps cipher derive known v b := (keeps_new key).after hc hd hq
  refine ⟨fun q hq => (h.step hc hd hq).2, fun q name => step_of_not_isName v, ?_, ?_⟩
  · intro salt hsalt more hmore
    have hlater := h.after hc hd hmore
    rw [h.salt, Option.map_eq_some_iff] at hsalt
    obtain ⟨s, hs, rfl⟩ := hsalt
    rw [hlater.salt, Book.salt_after hs, Option.map_some]
  · intro name passphrase value he fresh
    have hholds := h.entries name
    rw [he] at hholds
    obtain ⟨-, -, ⟨hp, -⟩, -⟩ := hholds
    have hn := h.valid name (by simp [he])
    have hopened := (h.step_openPassphrase hd hp fresh).1
    exact (hopened.step_load hc hd hn).2.unique (.readable hn he rfl)

/-- A cipher that puts the key in front of the text. -/
def labelled : Cipher where
  encrypt key _ plain := key ++ plain
  decrypt? key _ sealed :=
    if sealed.extract 0 keySize = key then some (sealed.extract keySize sealed.size) else none

theorem labelled_ideal : labelled.Ideal where
  opens key nonce plain := by
    have hhead : (key.1 ++ plain).extract 0 keySize = key.1 :=
      ByteArray.extract_append_eq_left key.2.symm
    have htail : (key.1 ++ plain).extract keySize (key.1 ++ plain).size = plain :=
      ByteArray.extract_append_eq_right key.2.symm ByteArray.size_append
    simp only [labelled, hhead, htail, if_true]
  refuses key other nonce plain h := by
    have hhead : (key.1 ++ plain).extract 0 keySize = key.1 :=
      ByteArray.extract_append_eq_left key.2.symm
    simp only [labelled, hhead]
    exact if_neg fun heq => h (Subtype.ext heq.symm)

/-- A derivation that puts the passphrase in front of the salt. -/
def spelled : Derivation := fun passphrase salt => .ok (passphrase.toUTF8 ++ salt)

/-- Passphrases of sixteen bytes. -/
def sixteen : Set String := {p | p.toUTF8.size = 16}

theorem spelled_tellsApart : TellsApart spelled sixteen where
  derives p hp salt := by
    have hsize : (p.toUTF8 ++ salt.1).size = keySize := by
      rw [ByteArray.size_append, hp, salt.2]
      rfl
    exact ⟨⟨_, hsize⟩, rfl⟩
  injective p hp q hq salt other key h h' := by
    have heq : p.toUTF8 ++ salt.1 = q.toUTF8 ++ other.1 := Except.ok.inj (h.trans h'.symm)
    have hsizes : p.toUTF8.size = q.toUTF8.size := Eq.trans hp (Eq.symm hq)
    have hpq : p = q := String.toByteArray_inj.1 (ByteArray.append_inj_left heq hsizes)
    subst hpq
    exact ⟨rfl, Subtype.ext ((ByteArray.append_right_inj _).1 heq)⟩

/-- Data of one byte again and again. -/
def repeated (size : Nat) (byte : UInt8) : Bytes size :=
  ⟨⟨Array.replicate size byte⟩, Array.size_replicate⟩

/-- Two passphrases and a key over one folder. -/
theorem refines_book_reopened :
    let requests : List Request := [
      .openPassphrase "correct horse 16" (repeated saltSize 7),
      .store "A" "one" (repeated nonceSize 1), .store "C" "two" (repeated nonceSize 2),
      .openKey (repeated keySize 9), .store "B" "three" (repeated nonceSize 3), .delete "C",
      .openPassphrase "battery staple 2" (repeated saltSize 8)]
    let v := after labelled spelled ⟨[], (repeated keySize 0).1⟩ requests
    let answer := fun q => (v.step labelled spelled q).2
    let reopened := (v.step labelled spelled
      (.openPassphrase "correct horse 16" (repeated saltSize 6))).1
    labelled.Ideal ∧ TellsApart spelled sixteen ∧ (∀ q ∈ requests, q.Uses sixteen)
    ∧ answer (.load "A") = .refused (.crypto CredentialStore.refused)
    ∧ answer (.load "C") = .refused (.notFound "C")
    ∧ answer (.load "../A") = .refused (.invalidName "../A")
    ∧ answer .list = .names ["A", "B"]
    ∧ (reopened.step labelled spelled (.load "A")).2 = .value "one" := by
  intro requests v answer reopened
  have hq : ∀ q ∈ requests, q.Uses sixteen := by
    simp only [requests, List.forall_mem_cons, Request.Uses, true_and]
    exact ⟨rfl, rfl, by simp⟩
  obtain ⟨hanswer, hinvalid, -, hreads⟩ :=
    refines_book labelled_ideal spelled_tellsApart (repeated keySize 0) hq
  refine ⟨labelled_ideal, spelled_tellsApart, hq, ?_, ?_, ?_, ?_, ?_⟩
  · have hne : "correct horse 16" ≠ "battery staple 2" := by decide
    exact (hanswer (.load "A") trivial).unique (.foreign (by decide) rfl hne)
  · exact (hanswer (.load "C") trivial).unique (.unknown (by decide) rfl)
  · exact congrArg Prod.snd (hinvalid (.load "../A") "../A" rfl (by decide))
  · refine (hanswer .list trivial).unique (.listed (by decide) ?_)
    intro name
    by_cases hA : name = "A"
    · subst hA
      exact iff_of_true (by decide) rfl
    by_cases hB : name = "B"
    · subst hB
      exact iff_of_true (by decide) rfl
    have hvalid : Reference.isName "A" ∧ Reference.isName "B" ∧ Reference.isName "C" := by decide
    simp [requests, Book.after, Book.step, hvalid, Function.update_apply, hA, hB]
  · exact hreads "A" "correct horse 16" "one" rfl (repeated saltSize 6)

end Vault
end Toolwire
