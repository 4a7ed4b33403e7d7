import Mathlib
import Toolwire.Proofs.Outcome.Encoding
/-!
# Reading outcomes back

What is read from an object is written as that object without the members that say nothing, and
what is written is read as the same outcome unless its fields stand in each other's way:
`read_toJson_roundTrip`.
-/
namespace Toolwire

open Json Json.Reader

theorem Members.Sorted.get?_filter {α : Type} {ms : List (String × α)} (h : Sorted ms)
    (p : String × α → Bool) (key : String) :
    get? (ms.filter p) key = (get? ms key).filter fun v => p (key, v) := by
  apply Option.ext
  intro value
  have hsorted : Sorted (ms.filter p) := List.Pairwise.filter _ h
  rw [hsorted.get?_eq_some, List.mem_filter, Option.filter_eq_some_iff, h.get?_eq_some]

theorem Status.text_ofText (s : String) : (Status.ofText s).text = s := by
  unfold ofText
  split
  · rename_i h
    exact h.symm
  · split
    · rename_i h
      exact h.symm
    · rfl

/-- A status is read from its text unless it is a label that spells another one. -/
theorem Status.ofText_text {status : Status} :
    Status.ofText status.text = status ↔
      ∀ label, status = .label label → label ≠ "success" ∧ label ≠ "error" := by
  cases status with
  | success => simp [text, ofText]
  | error => simp [text, ofText]
  | label t =>
    simp only [text, ofText, label.injEq, forall_eq']
    by_cases hs : t = "success"
    · simp [hs]
    by_cases he : t = "error" <;> simp [hs, he]

namespace Outcome

/-! ## Optional fields -/

/-- A member stands for a value that may be missing: it is the value, or null in its place. -/
def StandsFor (member value : Option Json) : Prop :=
  value ≠ some .null ∧ (member = value ∨ member = some .null ∧ value = none)

/-- An optional field is read as what its member stands for. -/
theorem field?_option_eq_ok {α : Type} {r : Reader α} {f : α → Json} {P : α → Prop}
    (hr : ∀ v a, v ≠ .null → (r v = .ok a ↔ v = f a ∧ P a)) {ms : Members} {key : String}
    {value : Option α} :
    (∃ found, field? ms key (option r) = .ok found ∧ found.join = value) ↔
      StandsFor (Members.get? ms key) (value.map f) ∧ ∀ a, value = some a → P a := by
  unfold field? StandsFor
  cases Members.get? ms key with
  | none => cases value <;> simp
  | some v =>
    simp only
    by_cases hv : v = .null
    · subst hv
      cases value with
      | none => simp [option, Except.map]
      | some a =>
        simp only [option, Except.map, Option.map_some]
        constructor
        · rintro ⟨found, hf, hj⟩
          cases hf
          cases hj
        · rintro ⟨⟨hnull, h | ⟨-, h⟩⟩, -⟩
          · exact absurd h.symm hnull
          · cases h
    · have hopt : option r v = (r v).map some := by
        unfold option
        split
        · contradiction
        · rfl
      rw [hopt]
      constructor
      · rintro ⟨found, hf, rfl⟩
        obtain ⟨x, hx, rfl⟩ := map_eq_ok.1 hf
        obtain ⟨a, ha, rfl⟩ := map_eq_ok.1 hx
        obtain ⟨rfl, hp⟩ := (hr v a hv).1 ha
        refine ⟨⟨?_, .inl rfl⟩, ?_⟩
        · exact fun h => hv (Option.some.inj h)
        · intro b hb
          cases hb
          exact hp
      · rintro ⟨⟨-, h | ⟨h, -⟩⟩, hp⟩
        · obtain ⟨a, rfl, ha⟩ := Option.map_eq_some_iff.1 h.symm
          refine ⟨some (some a), ?_, rfl⟩
          rw [(hr v a hv).2 ⟨ha.symm, hp a rfl⟩]
          rfl
        · exact absurd (Option.some.inj h) hv

/-! ## What is read -/

/-- An outcome is read from members. -/
structure ReadFrom (ms : Members) (o : Outcome) : Prop where
  status : ∃ text, Members.get? ms "status" = some (.str text) ∧ o.status = .ofText text
  data : StandsFor (Members.get? ms "data") o.data
  error : StandsFor (Members.get? ms "error") (o.error.map .str)
  code : StandsFor (Members.get? ms "status_code") (o.statusCode.map .ofNat)
  /-- Status codes have 16 bits. -/
  width : ∀ code, o.statusCode = some code → code < 2 ^ 16
  shadow : Members.get? ms "_shadow" = some (.bool o.shadow)
    ∨ Members.get? ms "_shadow" = none ∧ o.shadow = false
  extras : o.extras = ms.filter fun m => !fixedNames.contains m.1

theorem field?_data {ms : Members} {value : Option Json} :
    (∃ found, field? ms "data" (option Reader.any) = .ok found ∧ found.join = value) ↔
      StandsFor (Members.get? ms "data") value := by
  have h : _ ↔ StandsFor (Members.get? ms "data") (value.map id) ∧ _ :=
    field?_option_eq_ok (r := Reader.any) (f := id) (P := fun _ => True)
      fun v a _ => by simp [Reader.any]
  simpa using h

theorem field?_error {ms : Members} {value : Option String} :
    (∃ found, field? ms "error" (option Reader.string) = .ok found ∧ found.join = value) ↔
      StandsFor (Members.get? ms "error") (value.map .str) := by
  have h : _ ↔ StandsFor (Members.get? ms "error") (value.map .str) ∧ _ :=
    field?_option_eq_ok (r := Reader.string) (f := .str) (P := fun _ => True)
      fun v a _ => by simp [string_eq_ok]
  simpa using h

theorem field?_code {ms : Members} {value : Option Nat} :
    (∃ found, field? ms "status_code" (option (unsigned 16 "u16")) = .ok found
        ∧ found.join = value) ↔
      StandsFor (Members.get? ms "status_code") (value.map .ofNat)
        ∧ ∀ code, value = some code → code < 2 ^ 16 :=
  field?_option_eq_ok fun _ _ _ => unsigned_eq_ok

theorem read_eq_ok {ms : Members} {o : Outcome} : read (.obj ms) = .ok o ↔ ReadFrom ms o := by
  constructor
  · intro h
    obtain ⟨shadow, hshadow, h⟩ := bind_eq_ok.1 h
    obtain ⟨data, hdata, h⟩ := bind_eq_ok.1 h
    obtain ⟨error, herror, h⟩ := bind_eq_ok.1 h
    obtain ⟨status, hstatus, h⟩ := bind_eq_ok.1 h
    obtain ⟨code, hcode, h⟩ := bind_eq_ok.1 h
    cases status with
    | none => cases h
    | some text =>
      cases h
      have hcode := field?_code.1 ⟨code, hcode, rfl⟩
      refine ⟨⟨text, ?_, rfl⟩, field?_data.1 ⟨data, hdata, rfl⟩,
        field?_error.1 ⟨error, herror, rfl⟩, hcode.1, hcode.2, ?_, rfl⟩
      · rcases field?_eq_ok.1 hstatus with ⟨-, h⟩ | ⟨v, s, hv, hs, h⟩
        · cases h
        · cases h
          rw [hv, string_eq_ok.1 hs]
      · rcases field?_eq_ok.1 hshadow with ⟨hnone, rfl⟩ | ⟨v, b, hv, hb, rfl⟩
        · exact .inr ⟨hnone, rfl⟩
        · rw [hv, bool_eq_ok.1 hb]
          exact .inl rfl
  · rintro ⟨⟨text, htext, hstatus⟩, hdata, herror, hcode, hwidth, hshadow, hextras⟩
    obtain ⟨status, data, error, code, shadow, extras⟩ := o
    obtain ⟨_, hd, rfl⟩ := field?_data.2 hdata
    obtain ⟨_, he, rfl⟩ := field?_error.2 herror
    obtain ⟨_, hc, rfl⟩ := field?_code.2 ⟨hcode, hwidth⟩
    obtain ⟨_, hm, rfl⟩ : ∃ marked, field? ms "_shadow" Reader.bool = .ok marked
        ∧ marked.getD false = shadow := by
      rcases hshadow with h | ⟨h, rfl⟩
      · exact ⟨some shadow, field?_of_some h rfl, rfl⟩
      · exact ⟨none, field?_of_none h, rfl⟩
    have ht : field? ms "status" Reader.string = .ok (some text) := field?_of_some htext rfl
    subst hstatus hextras
    simp only [read, hm, hd, he, ht, hc, bind, Except.bind]
    rfl

/-! ## Written after reading -/

/-- A member that says nothing: an optional field that is null, or a mark that is not set. -/
def saysNothing (m : String × Json) : Bool :=
  (["data", "error", "status_code"].contains m.1 && m.2.isNull)
    || (m.1 == "_shadow" && m.2.asBool? == some false)

theorem mem_fixedNames {key : String} :
    key ∈ fixedNames ↔ key = "_shadow" ∨ key = "data" ∨ key = "error" ∨ key = "status"
      ∨ key = "status_code" := by
  simp [fixedNames]

theorem fixed?_of_not_mem (o : Outcome) {key : String} (h : key ∉ fixedNames) :
    o.fixed? key = none := by
  simp only [mem_fixedNames, not_or] at h
  simp [fixed?, h]

theorem saysNothing_of_not_mem {key : String} (h : key ∉ fixedNames) (v : Json) :
    saysNothing (key, v) = false := by
  simp only [mem_fixedNames, not_or] at h
  simp [saysNothing, h]

/-- An optional field is written as its member unless that is null. -/
theorem StandsFor.filter_eq {member value : Option Json} (h : StandsFor member value)
    {key : String} (hkey : ["data", "error", "status_code"].contains key = true)
    (hne : (key == "_shadow") = false) :
    (member.filter fun v => !saysNothing (key, v)) = value := by
  obtain ⟨hnull, rfl | ⟨rfl, rfl⟩⟩ := h
  · cases member with
    | none => rfl
    | some v => cases v <;> simp_all [saysNothing, Json.isNull]
  · have hn : saysNothing (key, .null) = true := by
      rw [saysNothing, hkey]
      rfl
    simp [Option.filter, hn]

theorem filter_fixedNames (member : Option Json) (key : String) :
    (member.filter fun _ => !fixedNames.contains key) =
      if key ∈ fixedNames then none else member := by
  by_cases hkey : key ∈ fixedNames <;> cases member <;> simp [Option.filter, hkey]

theorem get?_extras_of_readFrom {ms : Members} (hs : Members.Sorted ms) {o : Outcome}
    (h : ReadFrom ms o) (key : String) :
    Members.get? o.extras key = if key ∈ fixedNames then none else Members.get? ms key := by
  rw [h.extras, hs.get?_filter, filter_fixedNames]

theorem toJson_of_readFrom {ms : Members} (hs : Members.Sorted ms) {o : Outcome}
    (h : ReadFrom ms o) : o.toJson = .obj (ms.filter fun m => !saysNothing m) := by
  have hextras : Members.Sorted o.extras := h.extras ▸ List.Pairwise.filter _ hs
  refine congrArg Json.obj ((Members.sorted_ofList _).ext (List.Pairwise.filter _ hs) fun key => ?_)
  have hflat : _ = (o.fixed? key).or (Members.get? o.extras key) := o.get?_toJson hextras key
  refine hflat.trans ?_
  rw [get?_extras_of_readFrom hs h, hs.get?_filter]
  split
  · rename_i hkey
    rw [Option.or_none]
    rcases mem_fixedNames.1 hkey with rfl | rfl | rfl | rfl | rfl
    · rcases h.shadow with hm | ⟨hm, hoff⟩
      · rw [hm]
        cases hb : o.shadow <;> simp [Option.filter, fixed?, saysNothing, hb, Json.asBool?]
      · simp [hm, fixed?, hoff]
    · exact (h.data.filter_eq rfl rfl).symm
    · exact (h.error.filter_eq rfl rfl).symm
    · obtain ⟨text, hm, hstatus⟩ := h.status
      simp [Option.filter, hm, fixed?, saysNothing, hstatus, Status.text_ofText]
    · exact (h.code.filter_eq rfl rfl).symm
  · rename_i hkey
    rw [fixed?_of_not_mem o hkey, Option.none_or]
    cases Members.get? ms key <;> simp [Option.filter, saysNothing_of_not_mem hkey]

/-! ## Read after writing -/

/-- What the types of an outcome promise: a code of 16 bits and further fields in order. -/
structure Typed (o : Outcome) : Prop where
  width : ∀ code, o.statusCode = some code → code < 2 ^ 16
  sorted : Members.Sorted o.extras

/-- No two fields of an outcome stand in each other's way. -/
structure Separate (o : Outcome) : Prop where
  /-- No further field has the name of a fixed one. -/
  extras : ∀ key ∈ fixedNames, Members.get? o.extras key = none
  /-- No label spells another status. -/
  label : ∀ label, o.status = .label label → label ≠ "success" ∧ label ≠ "error"
  /-- Data that is there is not null. -/
  data : o.data ≠ some .null

theorem standsFor_self {value : Option Json} (h : value ≠ some .null) : StandsFor value value :=
  ⟨h, .inl rfl⟩

theorem read_toJson_iff {o : Outcome} (ht : o.Typed) : read o.toJson = .ok o ↔ o.Separate := by
  have hsorted := Members.sorted_ofList (o.extras ++ o.fixedFields)
  have hget : ∀ key, Members.get? (Members.ofList (o.extras ++ o.fixedFields)) key =
      (o.fixed? key).or (Members.get? o.extras key) := o.get?_toJson ht.sorted
  rw [toJson, Json.ofPairs, read_eq_ok]
  constructor
  · intro h
    refine ⟨fun key hkey => ?_, ?_, h.data.1⟩
    · rw [get?_extras_of_readFrom hsorted h, if_pos hkey]
    · obtain ⟨text, htext, hstatus⟩ := h.status
      rw [hget] at htext
      obtain rfl : o.status.text = text := by simpa [fixed?] using htext
      exact Status.ofText_text.1 hstatus.symm
  · intro h
    have hfixed : ∀ key ∈ fixedNames,
        Members.get? (Members.ofList (o.extras ++ o.fixedFields)) key = o.fixed? key := by
      intro key hkey
      rw [hget, h.extras key hkey, Option.or_none]
    constructor
    case status =>
      exact ⟨o.status.text, by rw [hfixed _ (by decide)]; rfl, (Status.ofText_text.2 h.label).symm⟩
    case data =>
      rw [hfixed _ (by decide)]
      exact standsFor_self h.data
    case error =>
      rw [hfixed _ (by decide)]
      exact standsFor_self (by simp [fixed?])
    case code =>
      rw [hfixed _ (by decide)]
      exact standsFor_self (by simp [fixed?, Json.ofNat])
    case width => exact ht.width
    case shadow =>
      rw [hfixed _ (by decide)]
      cases hb : o.shadow <;> simp [fixed?, hb]
    case extras =>
      refine ht.sorted.ext (List.Pairwise.filter _ hsorted) fun key => ?_
      rw [hsorted.get?_filter, filter_fixedNames, hget]
      split
      · rename_i hkey
        exact h.extras key hkey
      · rename_i hkey
        rw [fixed?_of_not_mem o hkey, Option.none_or]

/-- Outcomes make the round trip. An object that is read as an outcome is written again as it was,
without the members that say nothing; and an outcome that is written is read as the same one exactly
when its fields do not stand in each other's way. -/
theorem read_toJson_roundTrip :
    (∀ ms o, Members.Sorted ms → read (.obj ms) = .ok o →
      o.toJson = .obj (ms.filter fun m => !saysNothing m))
    ∧ ∀ o : Outcome, o.Typed → (read o.toJson = .ok o ↔ o.Separate) :=
  ⟨fun _ _ hs h => toJson_of_readFrom hs (read_eq_ok.1 h), fun _ ht => read_toJson_iff ht⟩

/-- A label, a null, a mark that is not set and a further field. -/
theorem read_toJson_roundTrip_label :
    let ms : Members := [("_shadow", .bool false), ("data", .null), ("row_count", .int 0),
      ("status", .str "not_found"), ("status_code", .int 404)]
    let o : Outcome :=
      { status := .label "not_found", statusCode := some 404, extras := [("row_count", .int 0)] }
    Members.Sorted ms ∧ read (.obj ms) = .ok o
    ∧ o.toJson = .obj [("row_count", .int 0), ("status", .str "not_found"),
      ("status_code", .int 404)]
    ∧ o.Typed ∧ o.Separate ∧ read o.toJson = .ok o := by
  intro ms o
  have hs : Members.Sorted ms := by
    unfold Members.Sorted
    decide
  have hr : read (.obj ms) = .ok o := rfl
  have ht : o.Typed := ⟨fun code h => by cases h; decide, List.pairwise_singleton _ _⟩
  have hsep : o.Separate := by
    refine ⟨by decide, fun label h => ?_, nofun⟩
    cases h
    decide
  exact ⟨hs, hr, (read_toJson_roundTrip.1 ms o hs hr).trans rfl, ht, hsep,
    (read_toJson_roundTrip.2 o ht).2 hsep⟩

end Outcome
end Toolwire
