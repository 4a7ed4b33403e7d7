import Mathlib
import Toolwire.Credential.Store
import Toolwire.Proofs.Json.Reading
/-!
# The folder of a store

Each operation on a folder changes the entry that it is about and no other. The file of a
credential is the name with an end of its own, so the names in a folder are read off its files
and the salt is none of them.
-/
namespace Toolwire

/-! ## Names and files -/

namespace CredentialStore

theorem append_suffix_inj {name other : String} (h : name ++ suffix = other ++ suffix) :
    name = other := by
  rw [← String.toList_inj] at h ⊢
  simpa using h

theorem saltName_ne (name : String) : saltName ≠ name ++ suffix := by
  intro h
  have hlast := congrArg (fun s => s.toList.getLast?) h
  simp [saltName, suffix] at hlast

/-- A name is the file of a credential without its end. -/
theorem stem?_eq_some {file name : String} : stem? file = some name ↔ file = name ++ suffix := by
  constructor
  · intro h
    simp only [stem?] at h
    split at h
    · rename_i hdrop
      cases h
      rw [← String.toList_inj, String.toList_append, String.toList_ofList, ← hdrop,
        List.take_append_drop]
    · cases h
  · rintro rfl
    simp [stem?, ← String.length_toList]

theorem notAbove_iff {a b : String} : notAbove a b = true ↔ a ≤ b := by
  simp only [notAbove, Bool.not_eq_true', decide_eq_false_iff_not, not_lt]

theorem pairwise_list {f : Folder} (h : Members.Sorted f) : (list f).Pairwise (· < ·) := by
  have htrans : ∀ a b c : String, notAbove a b → notAbove b c → notAbove a c := by
    intro a b c
    simp only [notAbove_iff]
    exact le_trans
  have htotal : ∀ a b : String, notAbove a b || notAbove b a := by
    intro a b
    simp only [Bool.or_eq_true, notAbove_iff]
    exact le_total a b
  have hsorted : (list f).Pairwise (notAbove · ·) := List.pairwise_mergeSort htrans htotal _
  have hnodup : (list f).Nodup := by
    rw [list, (List.mergeSort_perm _ _).nodup_iff]
    apply h.nodup_keys.filterMap
    intro a b name ha hb
    rw [Option.mem_def, stem?_eq_some] at ha hb
    rw [ha, hb]
  exact hsorted.imp₂ (fun a b hle hne => lt_of_le_of_ne (notAbove_iff.1 hle) hne) hnodup

/-- The list has the names of the credentials that are there. -/
theorem mem_list {f : Folder} {name : String} :
    name ∈ list f ↔ (Members.get? f (name ++ suffix)).isSome = true := by
  rw [Members.isSome_get?, list, List.mem_mergeSort, List.mem_filterMap]
  constructor
  · rintro ⟨file, hfile, hstem⟩
    rw [stem?_eq_some] at hstem
    exact hstem ▸ hfile
  · intro h
    exact ⟨name ++ suffix, h, stem?_eq_some.2 rfl⟩

end CredentialStore

/-! ## Reading and writing files -/

section

variable {f : Folder} {name : String} {content : ByteArray} {mode : Nat}

theorem Folder.read?_of_file (h : Members.get? f name = some (.file content mode)) :
    f.read? name = .ok (some content) := by
  rw [read?, h]

theorem Folder.read?_of_none (h : Members.get? f name = none) : f.read? name = .ok none := by
  rw [read?, h]

theorem Folder.write_of_ne (h : Members.get? f name ≠ some .folder) :
    f.write name content mode = .ok (Members.insert f name (.file content mode)) := by
  unfold write
  split
  · contradiction
  · rfl

theorem Folder.remove_of_ne (h : Members.get? f name ≠ some .folder) :
    f.remove name = .ok (Members.erase f name) := by
  unfold remove
  split
  · contradiction
  · rfl

namespace CredentialStore

variable {cipher : Crypto.Cipher} {key nonce fresh : ByteArray} {value : String}

theorem fileName_of_isName (hn : Reference.isName name = true) :
    fileName name = .ok (name ++ suffix) :=
  if_pos hn

theorem fileName_of_not_isName (hn : Reference.isName name = false) :
    fileName name = .error (.invalidName name) :=
  if_neg (by simp [hn])

theorem store_of_ne (hn : Reference.isName name = true)
    (h : Members.get? f (name ++ suffix) ≠ some .folder) :
    store cipher key nonce f name value =
      .ok (Members.insert f (name ++ suffix)
        (.file (encode cipher key nonce value) privateMode)) := by
  rw [store, fileName_of_isName hn]
  exact Folder.write_of_ne h

theorem delete_of_ne (hn : Reference.isName name = true)
    (h : Members.get? f (name ++ suffix) ≠ some .folder) :
    delete f name = .ok (Members.erase f (name ++ suffix)) := by
  rw [delete, fileName_of_isName hn]
  exact Folder.remove_of_ne h

theorem load_of_file (hn : Reference.isName name = true)
    (h : Members.get? f (name ++ suffix) = some (.file content mode)) :
    load cipher key f name = decode cipher key content := by
  have hread := Folder.read?_of_file h
  simp only [load, fileName_of_isName hn, hread, bind, Except.bind]

theorem load_of_none (hn : Reference.isName name = true)
    (h : Members.get? f (name ++ suffix) = none) :
    load cipher key f name = .error (.notFound name) := by
  have hread := Folder.read?_of_none h
  simp only [load, fileName_of_isName hn, hread, bind, Except.bind]

theorem ensureSalt_of_file (h : Members.get? f saltName = some (.file content mode)) :
    ensureSalt f fresh = .ok (f, content) := by
  rw [ensureSalt, Folder.read?_of_file h]
  rfl

/-- A salt that is drawn is kept in its file. -/
theorem ensureSalt_of_none (h : Members.get? f saltName = none) :
    ensureSalt f fresh = .ok (Members.insert f saltName (.file fresh commonMode), fresh) := by
  have hwrite : f.write saltName fresh commonMode = _ := Folder.write_of_ne (by simp [h])
  simp only [ensureSalt, Folder.read?_of_none h, hwrite, bind, Except.bind, pure, Except.pure]

end CredentialStore

end

end Toolwire
