import Mathlib
import Toolwire.Outcome
import Toolwire.Proofs.Json.Reading
/-!
# Two encodings of an outcome

An outcome is written as a flat object in two ways. In the result mapping a fixed field wins over a
further field of its name, for a serializer the further field wins. `serialized_eq_toJson_iff` says
when the two come to the same.
-/
namespace Toolwire

/-! ## Members as a map -/

namespace Members

variable {α : Type}

theorem sorted_ofList (pairs : List (String × α)) : Sorted (ofList pairs) := by
  have main : ∀ (pairs ms : List (String × α)), Sorted ms →
      Sorted (pairs.foldl (fun ms p => insert ms p.1 p.2) ms) := by
    intro pairs
    induction pairs with
    | nil => exact fun ms h => h
    | cons p rest ih => exact fun ms h => ih _ (sorted_insert h p.1 p.2)
  exact main pairs [] .nil

/-- Members in order are settled by what they hold. -/
theorem Sorted.ext {ms ns : List (String × α)} (hm : Sorted ms) (hn : Sorted ns)
    (h : ∀ key, get? ms key = get? ns key) : ms = ns := by
  have hmem : ∀ p, p ∈ ms ↔ p ∈ ns := by
    rintro ⟨key, value⟩
    rw [← hm.get?_eq_some, ← hn.get?_eq_some, h]
  have nodup : ∀ {ls : List (String × α)}, Sorted ls → ls.Nodup := fun hs =>
    List.Nodup.of_map _ hs.nodup_keys
  have hperm : ms.Perm ns := (List.perm_ext_iff_of_nodup (nodup hm) (nodup hn)).2 hmem
  exact hperm.eq_of_pairwise (fun a b _ _ hab hba => absurd hab hba.not_gt) hm hn

/-- The object of pairs behind other pairs holds the values of the later ones first. -/
theorem get?_ofList_append (ms ns : List (String × α)) (key : String) :
    get? (ofList (ms ++ ns)) key = (get? (ofList ns) key).or (get? (ofList ms) key) := by
  simp only [get?_ofList, List.reverse_append, List.lookup_append]

theorem Sorted.get?_ofList {ms : List (String × α)} (h : Sorted ms) (key : String) :
    get? (ofList ms) key = get? ms key := by
  apply Option.ext
  intro value
  have once : ∀ k v v', (k, v) ∈ ms → (k, v') ∈ ms → v = v' := by
    intro k v v' hv hv'
    rw [← h.get?_eq_some] at hv hv'
    exact Option.some.inj (hv.symm.trans hv')
  rw [get?_ofList_iff once, h.get?_eq_some]

end Members

namespace Outcome

/-! ## Fields by name -/

/-- The value of a fixed field that is written. -/
def fixed? (o : Outcome) (key : String) : Option Json :=
  if key = "status" then some (.str o.status.text)
  else if key = "data" then o.data
  else if key = "error" then o.error.map .str
  else if key = "status_code" then o.statusCode.map .ofNat
  else if key = "_shadow" then (if o.shadow then some (.bool true) else none)
  else none

theorem get?_fixedFields (o : Outcome) (key : String) :
    Members.get? (Members.ofList o.fixedFields) key = o.fixed? key := by
  obtain ⟨status, data, error, code, shadow, extras⟩ := o
  have hshadow : (if shadow then [("_shadow", Json.bool true)] else []).reverse.lookup key =
      if key = "_shadow" then (if shadow then some (.bool true) else none) else none := by
    cases shadow <;> simp [lookup_cons_ite]
  rw [Members.get?_ofList]
  simp only [fixedFields, List.reverse_append, List.lookup_append, hshadow,
    lookup_option _ _ _ Json.str, lookup_option _ _ _ Json.ofNat,
    lookup_option _ _ _ fun d : Json => d, List.reverse_singleton, lookup_cons_ite,
    List.lookup_nil, Option.map_id', fixed?]
  split_ifs <;> simp_all

theorem get?_toJson (o : Outcome) (hs : Members.Sorted o.extras) (key : String) :
    o.toJson.get? key = (o.fixed? key).or (Members.get? o.extras key) := by
  unfold toJson Json.ofPairs Json.get?
  simp only [Members.get?_ofList_append, get?_fixedFields, hs.get?_ofList]

theorem get?_serialized (o : Outcome) (hs : Members.Sorted o.extras) (key : String) :
    o.serialized.get? key = (Members.get? o.extras key).or (o.fixed? key) := by
  unfold serialized Json.ofPairs Json.get?
  simp only [Members.get?_ofList_append, get?_fixedFields, hs.get?_ofList]

/-- Both encodings are objects in order, so they are settled by what they hold. -/
theorem serialized_eq_toJson {o : Outcome} :
    o.serialized = o.toJson ↔ ∀ key, o.serialized.get? key = o.toJson.get? key := by
  constructor
  · intro h key
    rw [h]
  · intro h
    exact congrArg Json.obj ((Members.sorted_ofList _).ext (Members.sorted_ofList _) h)

/-! ## Outcomes that are built -/

/-- An outcome as it can be built: any fixed fields, and further fields added one after the
other. -/
def build (status : Status) (data : Option Json) (error : Option String) (code : Option Nat)
    (shadow : Bool) (fields : List (String × Json)) : Outcome :=
  fields.foldl (fun o f => o.withExtra f.1 f.2)
    { status := status, data := data, error := error, statusCode := code, shadow := shadow }

/-- Further fields are added to the members that there are, and nothing else changes. -/
theorem foldl_withExtra (fields : List (String × Json)) (o : Outcome) :
    fields.foldl (fun o f => o.withExtra f.1 f.2) o =
      { o with extras := fields.foldl (fun ms f => Members.insert ms f.1 f.2) o.extras } := by
  induction fields generalizing o with
  | nil => rfl
  | cons f fields ih => rw [List.foldl_cons, ih, List.foldl_cons, withExtra]

section
variable (status : Status) (data : Option Json) (error : Option String) (code : Option Nat)
  (shadow : Bool) (fields : List (String × Json))

theorem extras_build :
    (build status data error code shadow fields).extras = Members.ofList fields := by
  rw [build, foldl_withExtra]
  rfl

/-- What the two encodings of an outcome say whose further fields were added one after the other. -/
structure Encodes (o : Outcome) (fields : List (String × Json)) : Prop where
  /-- In the result mapping a fixed field wins over the value that was last added under its name. -/
  toJson : ∀ key, o.toJson.get? key = (o.fixed? key).or (fields.reverse.lookup key)
  /-- For a serializer the value that was last added wins. -/
  serialized : ∀ key, o.serialized.get? key = (fields.reverse.lookup key).or (o.fixed? key)
  /-- So the two are equal exactly when no value that was last added under the name of a fixed field
  that is written is another one than that of the field. -/
  agree : o.serialized = o.toJson ↔ ∀ key value other, o.fixed? key = some value →
    fields.reverse.lookup key = some other → other = value

/-- The two encodings of an outcome, however it is built. -/
theorem serialized_eq_toJson_iff :
    Encodes (build status data error code shadow fields) fields := by
  have hsorted : Members.Sorted (build status data error code shadow fields).extras := by
    rw [extras_build]
    exact Members.sorted_ofList fields
  have hextra : ∀ key, Members.get? (build status data error code shadow fields).extras key =
      fields.reverse.lookup key := by
    intro key
    rw [extras_build, Members.get?_ofList]
  generalize build status data error code shadow fields = o at hsorted hextra ⊢
  have hflat : ∀ key, o.toJson.get? key = (o.fixed? key).or (fields.reverse.lookup key) :=
    fun key => hextra key ▸ o.get?_toJson hsorted key
  have hserial : ∀ key, o.serialized.get? key = (fields.reverse.lookup key).or (o.fixed? key) :=
    fun key => hextra key ▸ o.get?_serialized hsorted key
  refine ⟨hflat, hserial, serialized_eq_toJson.trans (forall_congr' fun key => ?_)⟩
  rw [hflat, hserial]
  -- Where only one of the two has a value, both orders come to it.
  cases o.fixed? key <;> cases fields.reverse.lookup key <;> simp

end

/-- A further field called `status` is left out of the result mapping and overwrites the status for
a serializer. -/
theorem serialized_ne_toJson_status :
    let o := build .success none none none false [("status", .str "failed")]
    o.toJson = .obj [("status", .str "success")]
    ∧ o.serialized = .obj [("status", .str "failed")]
    ∧ o.serialized ≠ o.toJson := by
  intro o
  have hflat : o.toJson = .obj [("status", .str "success")] := rfl
  have hserial : o.serialized = .obj [("status", .str "failed")] := rfl
  refine ⟨hflat, hserial, ?_⟩
  rw [hflat, hserial]
  simp

end Outcome
end Toolwire
