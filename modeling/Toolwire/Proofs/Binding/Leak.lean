import Mathlib
import Toolwire.Binding.Check
import Toolwire.Proofs.Json.Reading
/-!
# Declarations without secrets

Whether something is found in a value depends on the value and on whether its keys count,
never on its path. So a declaration is clean when each of its members is, and what reading
and writing make of a clean declaration is clean: `clean_toJson`.
-/
namespace Toolwire.Leak

open Secret Json Json.Reader

/-- The findings in a member of an object at a path. -/
def memberFindings (at_ : String) (keyed : Bool) (key : String) (v : Json) : List String :=
  match v with
  | .str s =>
    describe (memberPath at_ key)
      (if keyed && !unkeyedSections.contains key then detectField key s else detect s)
  | v => walk (memberPath at_ key) (keyed && !unkeyedSections.contains key) v

theorem walkMembers_cons (at_ : String) (keyed : Bool) (key : String) (v : Json) (rest : Members) :
    walkMembers at_ keyed ((key, v) :: rest) =
      memberFindings at_ keyed key v ++ walkMembers at_ keyed rest := by
  cases v <;> rfl

theorem walkMembers_eq_flatMap (at_ : String) (keyed : Bool) (ms : Members) :
    walkMembers at_ keyed ms = ms.flatMap fun m => memberFindings at_ keyed m.1 m.2 := by
  induction ms with
  | nil => rfl
  | cons m rest ih => rw [walkMembers_cons, ih, List.flatMap_cons]

theorem describe_eq_nil {at_ : String} {f : Option Finding} : describe at_ f = [] ↔ f = none := by
  cases f <;> simp [describe]

/-! ## Paths do not matter -/

mutual

theorem walk_nil (a b : String) (keyed : Bool) :
    (v : Json) → walk a keyed v = [] → walk b keyed v = []
  | .obj ms, h => by
    simp only [walk] at h ⊢
    exact walkMembers_nil a b keyed ms h
  | .arr items, h => by
    simp only [walk] at h ⊢
    exact walkItems_nil a b keyed 0 0 items h
  | .str s, h => by
    simp only [walk, describe_eq_nil] at h ⊢
    exact h
  | .null, _ | .bool _, _ | .int _, _ | .float _, _ => by simp [walk]

theorem walkMembers_nil (a b : String) (keyed : Bool) :
    (ms : List (String × Json)) → walkMembers a keyed ms = [] → walkMembers b keyed ms = []
  | [], _ => by simp [walkMembers]
  | (key, child) :: rest, h => by
    rw [walkMembers_cons, List.append_eq_nil_iff] at h ⊢
    refine ⟨?_, walkMembers_nil a b keyed rest h.2⟩
    have hc := h.1
    cases child with
    | str s => simpa only [memberFindings, describe_eq_nil] using hc
    | _ => exact walk_nil (memberPath a key) _ _ _ hc

theorem walkItems_nil (a b : String) (keyed : Bool) (i j : Nat) :
    (items : List Json) → walkItems a keyed i items = [] → walkItems b keyed j items = []
  | [], _ => by simp [walkItems]
  | item :: rest, h => by
    simp only [walkItems, List.append_eq_nil_iff] at h ⊢
    exact ⟨walk_nil _ _ keyed item h.1, walkItems_nil a b keyed (i + 1) (j + 1) rest h.2⟩

end

/-- Nothing is found in a value. -/
def Clean (keyed : Bool) (v : Json) : Prop := walk "" keyed v = []

/-- Nothing is found in a member of an object. -/
def CleanMember (keyed : Bool) (key : String) (v : Json) : Prop :=
  memberFindings "" keyed key v = []

theorem findings_eq_nil {raw : Json} : findings raw = [] ↔ Clean true raw := Iff.rfl

theorem clean_iff {at_ : String} {keyed : Bool} {v : Json} :
    walk at_ keyed v = [] ↔ Clean keyed v :=
  ⟨walk_nil _ _ _ v, walk_nil _ _ _ v⟩

theorem clean_obj {keyed : Bool} {ms : Members} :
    Clean keyed (.obj ms) ↔ ∀ m ∈ ms, CleanMember keyed m.1 m.2 := by
  simp [Clean, CleanMember, walk, walkMembers_eq_flatMap]

theorem clean_arr {keyed : Bool} {items : List Json} :
    Clean keyed (.arr items) ↔ ∀ v ∈ items, Clean keyed v := by
  have main : ∀ i, walkItems "" keyed i items = [] ↔ ∀ v ∈ items, Clean keyed v := by
    induction items with
    | nil => simp [walkItems]
    | cons v rest ih => simp [walkItems, ih, clean_iff]
  simpa [Clean, walk] using main 0

@[simp] theorem clean_str {keyed : Bool} {s : String} : Clean keyed (.str s) ↔ detect s = none := by
  simp [Clean, walk, describe_eq_nil]

@[simp] theorem cleanMember_str {keyed : Bool} {key s : String} :
    CleanMember keyed key (.str s) ↔
      (if keyed && !unkeyedSections.contains key then detectField key s else detect s) = none := by
  simp [CleanMember, memberFindings, describe_eq_nil]

@[simp] theorem cleanMember_obj {keyed : Bool} {key : String} {ms : Members} :
    CleanMember keyed key (.obj ms) ↔
      Clean (keyed && !unkeyedSections.contains key) (.obj ms) := by
  simp [CleanMember, memberFindings, clean_iff]

@[simp] theorem cleanMember_bool {keyed : Bool} {key : String} {b : Bool} :
    CleanMember keyed key (.bool b) := by
  simp [CleanMember, memberFindings, walk]

@[simp] theorem cleanMember_ofNat {keyed : Bool} {key : String} {n : Nat} :
    CleanMember keyed key (.ofNat n) := by
  simp [CleanMember, memberFindings, walk, ofNat]

/-- Where keys do not count, a member is clean when its value is. -/
theorem cleanMember_unkeyed {key : String} {v : Json} :
    CleanMember false key v ↔ Clean false v := by
  cases v with
  | str s => simp
  | _ => simp [CleanMember, memberFindings, clean_iff]

theorem Clean.member {keyed : Bool} {ms : Members} {key : String} {v : Json}
    (h : Clean keyed (.obj ms)) (hg : Members.get? ms key = some v) : CleanMember keyed key v :=
  clean_obj.1 h _ (Members.get?_mem hg)

theorem Clean.item {keyed : Bool} {items : List Json} {i : Nat} {v : Json}
    (h : Clean keyed (.arr items)) (hg : items[i]? = some v) : Clean keyed v :=
  clean_arr.1 h _ (List.mem_of_getElem? hg)

theorem clean_ofPairs {keyed : Bool} {pairs : Members}
    (h : ∀ m ∈ pairs, CleanMember keyed m.1 m.2) : Clean keyed (.ofPairs pairs) :=
  clean_obj.2 fun m hm => h m (Members.mem_ofList hm)

/-! ## Reading and writing keep a declaration clean -/

theorem detectField_empty (key : String) : detectField key "" = none := by
  have hd : detectChars [] = none := by decide +kernel
  have hr : (literalRest []).isEmpty = true := by decide +kernel
  simp [detectField, detectFieldChars, hd, hr]

theorem clean_typeName (p : Protocol) : CleanMember true "type" (.str p.typeName) := by
  unfold CleanMember
  cases p <;> (simp only [Protocol.typeName]; decide +kernel)

theorem clean_mode (m : Mode) : CleanMember true "mode" (.str m.name) := by
  unfold CleanMember
  cases m <;> decide +kernel

theorem clean_method (m : Method) : CleanMember true "method" (.str m.name) := by
  unfold CleanMember
  cases m <;> decide +kernel

theorem clean_provider (p : Provider) : CleanMember true "provider" (.str p.name) := by
  unfold CleanMember
  cases p <;> decide +kernel

theorem clean_format (f : MessageFormat) : CleanMember true "format" (.str f.name) := by
  unfold CleanMember
  cases f <;> decide +kernel

theorem clean_retry (p : RetryPolicy) : CleanMember true "retry" p.toJson := by
  rw [RetryPolicy.toJson, cleanMember_obj, clean_obj]
  intro m hm
  simp only [List.mem_cons, List.not_mem_nil, or_false] at hm
  rcases hm with rfl | rfl | rfl
  · simp
  · simp only [RetryPolicy.numberJson]
    split <;> simp [CleanMember, memberFindings, walk]
  · simp

theorem clean_string {ms : Members} {key : String} {o : Option String}
    (hc : Clean true (.obj ms)) (h : field? ms key Reader.string = .ok o) :
    CleanMember true key (.str (o.getD "")) := by
  rcases field?_eq_ok.1 h with ⟨-, rfl⟩ | ⟨v, s, hg, hs, rfl⟩
  · have hd : detect "" = none := by decide +kernel
    simp [detectField_empty, hd]
  · exact string_eq_ok.1 hs ▸ hc.member hg

theorem clean_strings {ms : Members} {key : String} {o : Option (List (String × String))}
    (hc : Clean true (.obj ms)) (h : field? ms key readStrings = .ok o) :
    CleanMember true key (stringsJson (o.getD [])) := by
  rcases field?_eq_ok.1 h with ⟨-, rfl⟩ | ⟨v, s, hg, hs, rfl⟩
  · simp [stringsJson, clean_obj]
  · exact readStrings_eq_ok.1 hs ▸ hc.member hg

/-- The parts of a mapping that are written come from clean values. -/
theorem clean_mapping_parts {path errorPath : Option String} {codes : List (String × String)}
    (hp : ∀ p, path = some p → Clean false (.str p))
    (he : ∀ p, errorPath = some p → Clean false (.str p))
    (hs : Clean false (stringsJson codes)) :
    Clean false (ResponseMapping.toJson ⟨path, errorPath, codes⟩) := by
  refine clean_ofPairs fun m hm => cleanMember_unkeyed.2 ?_
  simp only [List.mem_append, Option.mem_toList, Option.map_eq_some_iff] at hm
  rcases hm with (⟨p, h, rfl⟩ | ⟨p, h, rfl⟩) | hm
  · exact hp p h
  · exact he p h
  · obtain ⟨-, rfl⟩ := mem_unless hm
    exact hs

theorem clean_mapping {place : Section} {v : Json} {m : ResponseMapping}
    (h : ResponseMapping.readIn place v = .ok m) (hc : Clean false v) : Clean false m.toJson := by
  -- What an optional string is read from, wherever it stands, is null or that string.
  have text : ∀ (w : Json) (o : Option String), Clean false w →
      Reader.option Reader.string w = .ok o → ∀ p, o = some p → Clean false (.str p) := by
    rintro w o hw ho p rfl
    rcases option_string_eq_ok.1 ho with ⟨-, h⟩ | ⟨s, rfl, h⟩
    · cases h
    · cases h; exact hw
  cases v with
  | obj ms =>
    have member : ∀ key w, Members.get? ms key = some w → Clean false w :=
      fun key w hg => cleanMember_unkeyed.1 (hc.member hg)
    simp only [ResponseMapping.readIn, bind_eq_ok, pure, Except.pure, Except.ok.injEq] at h
    obtain ⟨first, h1, error, h2, path, h3, codes, h4, rfl⟩ := h
    refine clean_mapping_parts ?_ ?_ ?_
    · intro p hp
      rcases alias?_eq_ok.1 h3 with ⟨-, rfl⟩ | ⟨w, o, hg, -, ho, rfl⟩
      · rcases field?_eq_ok.1 h1 with ⟨-, rfl⟩ | ⟨w, o, hg, ho, rfl⟩
        · cases hp
        · exact text w o (member _ _ hg) ho p hp
      · exact text w o (member _ _ hg) ho p hp
    · intro p hp
      rcases field?_eq_ok.1 h2 with ⟨-, rfl⟩ | ⟨w, o, hg, ho, rfl⟩
      · cases hp
      · exact text w o (member _ _ hg) ho p hp
    · rcases field?_eq_ok.1 h4 with ⟨-, rfl⟩ | ⟨w, o, hg, ho, rfl⟩
      · simp [stringsJson, clean_obj]
      · exact readStrings_eq_ok.1 ho ▸ member _ _ hg
  | arr items =>
    simp only [ResponseMapping.readIn, bind_eq_ok, pure, Except.pure, Except.ok.injEq] at h
    obtain ⟨path, h1, error, h2, codes, h3, -, -, rfl⟩ := h
    refine clean_mapping_parts ?_ ?_ ?_
    · intro p hp
      rcases item?_eq_ok.1 h1 with ⟨-, rfl⟩ | ⟨w, o, hg, ho, rfl⟩
      · cases hp
      · exact text w o (hc.item hg) ho p hp
    · intro p hp
      rcases item?_eq_ok.1 h2 with ⟨-, rfl⟩ | ⟨w, o, hg, ho, rfl⟩
      · cases hp
      · exact text w o (hc.item hg) ho p hp
    · rcases item?_eq_ok.1 h3 with ⟨-, rfl⟩ | ⟨w, o, hg, ho, rfl⟩
      · simp [stringsJson, clean_obj]
      · exact readStrings_eq_ok.1 ho ▸ hc.item hg
  | _ => simp [ResponseMapping.readIn, unexpected] at h

theorem clean_http {ms : Members} {b : HttpBinding} (hc : Clean true (.obj ms))
    (h : HttpBinding.readFields ms = .ok b) : ∀ m ∈ b.fields, CleanMember true m.1 m.2 := by
  simp only [HttpBinding.readFields, bind_eq_ok, pure, Except.pure, Except.ok.injEq] at h
  obtain ⟨body, hb, headers, hh, method, -, mapping, hm, url, hu, rfl⟩ := h
  intro m hmem
  simp only [HttpBinding.fields, List.mem_append, List.mem_cons, List.not_mem_nil, or_false,
    Option.mem_toList, Option.map_eq_some_iff] at hmem
  rcases hmem with (((rfl | rfl) | hmem) | ⟨t, ht, rfl⟩) | hmem
  · exact clean_method _
  · exact clean_string hc hu
  · obtain ⟨-, rfl⟩ := mem_unless hmem
    exact clean_strings hc hh
  · rcases field?_eq_ok.1 hb with ⟨-, rfl⟩ | ⟨v, o, hg, ho, rfl⟩
    · cases ht
    · rcases option_any_eq_ok.1 ho with ⟨-, rfl⟩ | ⟨-, rfl⟩
      · cases ht
      · cases ht
        exact hc.member hg
  · obtain ⟨hw, rfl⟩ := mem_unless hmem
    rcases field?_eq_ok.1 hm with ⟨-, rfl⟩ | ⟨v, o, hg, ho, rfl⟩
    · cases hw
    · -- The keys of this section do not count, neither as read nor as written.
      have hv : Clean false v := by
        have := hc.member hg
        cases v with
        | obj ms => simpa [unkeyedSections] using this
        | arr items => simpa [CleanMember, memberFindings, unkeyedSections, clean_iff] using this
        | _ => simp [ResponseMapping.readIn, unexpected] at ho
      simpa [ResponseMapping.toJson, Json.ofPairs, unkeyedSections] using clean_mapping ho hv

theorem clean_queue {ms : Members} {b : QueueBinding} (hc : Clean true (.obj ms))
    (h : QueueBinding.readFields ms = .ok b) : ∀ m ∈ b.fields, CleanMember true m.1 m.2 := by
  simp only [QueueBinding.readFields, bind_eq_ok] at h
  obtain ⟨connection, hco, format, -, headers, hh, provider, -, topic, ht, h⟩ := h
  cases provider with
  | none => cases h
  | some provider =>
    cases h
    intro m hmem
    simp only [QueueBinding.fields, List.mem_append, List.mem_cons, List.not_mem_nil,
      or_false] at hmem
    rcases hmem with (rfl | rfl | rfl | rfl) | hmem
    · exact clean_provider _
    · exact clean_string hc hco
    · exact clean_string hc ht
    · exact clean_format _
    · obtain ⟨-, rfl⟩ := mem_unless hmem
      exact clean_strings hc hh

theorem clean_sql {ms : Members} {b : SqlBinding} (hc : Clean true (.obj ms))
    (h : SqlBinding.readFields ms = .ok b) : ∀ m ∈ b.fields, CleanMember true m.1 m.2 := by
  simp only [SqlBinding.readFields, bind_eq_ok, pure, Except.pure, Except.ok.injEq] at h
  obtain ⟨connection, hco, rows, -, parameters, hp, query, hq, readOnly, -, rfl⟩ := h
  intro m hmem
  simp only [SqlBinding.fields, List.mem_append, List.mem_cons, List.not_mem_nil,
    or_false] at hmem
  rcases hmem with (rfl | rfl | rfl | rfl) | hmem
  · exact clean_string hc hco
  · exact clean_string hc hq
  · exact cleanMember_bool
  · exact cleanMember_ofNat
  · obtain ⟨-, rfl⟩ := mem_unless hmem
    exact clean_strings hc hp

theorem clean_grpc {ms : Members} {b : GrpcBinding} (hc : Clean true (.obj ms))
    (h : GrpcBinding.readFields ms = .ok b) : ∀ m ∈ b.fields, CleanMember true m.1 m.2 := by
  simp only [GrpcBinding.readFields, bind_eq_ok, pure, Except.pure, Except.ok.injEq] at h
  obtain ⟨endpoint, he, method, hm, service, hs, rfl⟩ := h
  intro m hmem
  simp only [GrpcBinding.fields, List.mem_cons, List.not_mem_nil, or_false] at hmem
  rcases hmem with rfl | rfl | rfl
  · exact clean_string hc he
  · exact clean_string hc hs
  · exact clean_string hc hm

theorem clean_fields {ms : Members} {p : Protocol} (hc : Clean true (.obj ms))
    (h : Protocol.readFields ms = .ok p) : ∀ m ∈ p.fields, CleanMember true m.1 m.2 := by
  have hp := Protocol.readFrom_of_readFields h
  cases p with
  | http b => exact clean_http hc hp
  | queue b => exact clean_queue hc hp
  | sql b => exact clean_sql hc hp
  | grpc b => exact clean_grpc hc hp

/-- Written back in either mode, what was read from a clean declaration is clean. -/
theorem clean_toJson {v : Json} {b : Binding} (h : Binding.read v = .ok b) (hc : Clean true v)
    (mode : Mode) : Clean true ({ b with mode := mode } : Binding).toJson := by
  cases v with
  | obj ms =>
    simp only [Binding.read, bind_eq_ok, pure, Except.pure, Except.ok.injEq] at h
    obtain ⟨m, -, retry, -, timeout, -, protocol, hp, rfl⟩ := h
    refine clean_ofPairs fun m hm => ?_
    simp only [List.cons_append, List.nil_append, List.mem_cons] at hm
    rcases hm with rfl | rfl | rfl | rfl | hm
    · exact clean_typeName _
    · exact clean_mode _
    · exact cleanMember_ofNat
    · exact clean_retry _
    · exact clean_fields hc hp m hm
  | _ => simp [Binding.read, unexpected] at h

end Toolwire.Leak
