import Mathlib
import Toolwire.Proofs.Json.Leaf
import Toolwire.Proofs.Manifest.Agreement
/-!
# Nothing declared is dropped

What a reader takes from a value, what is written has again: each field of an accepted declaration
has its leaves in the binding that is written, at the same place but for second names. The lists of
known fields and what is written name the same fields, so a field with another name is refused:
`parse_keeps`.
-/
namespace Toolwire

open Json Json.Reader

/-! ## Leaves -/

namespace Json

/-- A value that holds no others and is not null. -/
def IsLeaf : Json → Prop
  | .bool _ | .int _ | .float _ | .str _ => True
  | .null | .arr _ | .obj _ => False

theorem at?_of_isLeaf {v w : Json} {path : List Step} (hv : v.IsLeaf) (h : v.at? path = some w) :
    path = [] ∧ w = v := by
  cases path with
  | nil => exact ⟨rfl, (Option.some.inj h).symm⟩
  | cons step path => cases v <;> first | exact hv.elim | cases h

/-- A leaf under an object is one of a member of it. -/
theorem exists_member_of_at? {ms : Members} {leaf : Json} {path : List Step} (hl : leaf.IsLeaf)
    (h : (Json.obj ms).at? path = some leaf) :
    ∃ key v rest, path = .field key :: rest ∧ Members.get? ms key = some v
      ∧ v.at? rest = some leaf := by
  cases path with
  | nil =>
    cases h
    exact hl.elim
  | cons step rest =>
    obtain ⟨v, hv, hleaf⟩ := Option.bind_eq_some_iff.1 h
    cases step with
    | index n => cases hv
    | field key => exact ⟨key, v, rest, rfl, hv, hleaf⟩

/-- Each leaf of a value has its place in what is written for it, if anything is. -/
def KeptAs (v : Json) (o : Option Json) : Prop :=
  ∀ path leaf, leaf.IsLeaf → v.at? path = some leaf → (o.bind fun w => w.at? path) = some leaf

theorem kept_self (v : Json) : v.KeptAs (some v) := fun _ _ _ h => h

theorem kept_null (o : Option Json) : Json.null.KeptAs o := by
  intro path leaf hl h
  cases path with
  | nil =>
    cases h
    exact hl.elim
  | cons step path => cases h

theorem kept_empty (o : Option Json) : (Json.obj []).KeptAs o := by
  intro path leaf hl h
  obtain ⟨_, _, _, -, hv, -⟩ := exists_member_of_at? hl h
  cases hv

/-- An empty map is not written, and has no leaves. -/
theorem kept_strings (ms : List (String × String)) :
    (stringsJson ms).KeptAs (if ms.isEmpty then none else some (stringsJson ms)) := by
  cases ms with
  | nil => exact kept_empty _
  | cons m rest => exact kept_self _

/-- A variant is written by its name. One that is read from an object has no leaf there. -/
theorem kept_variant {α : Type} {place : Section} {variants : List (String × α)} {name : α → String}
    (hn : ∀ p ∈ variants, p.1 = name p.2) {v : Json} {a : α}
    (h : variant place variants v = .ok a) : v.KeptAs (some (.str (name a))) := by
  have pick : ∀ s, variants.lookup s = some a → s = name a := fun s hs =>
    hn _ (mem_of_lookup hs)
  simp only [variant] at h
  split at h
  · split at h
    · rename_i hs
      cases h
      rw [pick _ hs]
      exact kept_self _
    · cases h
  · rename_i key value
    -- What the variant carries is null or empty.
    have carried : value.KeptAs none := by
      split at h
      · cases h
      · obtain ⟨u, hu, -⟩ := map_eq_ok.1 h
        unfold unit at hu
        split at hu
        · exact kept_null _
        · exact kept_empty _
        · cases hu
    intro path leaf hl hat
    obtain ⟨k, w, rest, rfl, hw, hleaf⟩ := exists_member_of_at? hl hat
    obtain rfl : w = value := by
      simp only [Members.get?, lookup_cons_ite, List.lookup_nil] at hw
      split at hw <;> simp_all
    cases carried rest leaf hl hleaf
  · cases h
  · cases h

end Json

/-! ## Sections -/

/-- A text in capitals. -/
def capitals : Json → Json
  | .str s => .str (String.ofList (s.toList.map Char.toUpper))
  | v => v

/-- A number as a policy reads it, which is as a float. -/
def asFloat : Json → Json
  | .int n => .float (.ofInt n)
  | v => v

/-- The name under which a field of a section is written; two fields have a second name. -/
def writtenKey (name key : String) : String :=
  if name = "retry" ∧ key = "multiplier" then "backoff_multiplier"
  else if name = "response_mapping" ∧ key = "data_path" then "path"
  else key

theorem binary64_eq_ok {v : Json} {x : Number.Binary64} (h : binary64 v = .ok x) :
    v.IsLeaf ∧ asFloat v = .float x := by
  cases v <;> cases h <;> exact ⟨trivial, rfl⟩

theorem unsigned_kept {bits : Nat} {name : String} {v : Json} {n : Nat}
    (h : unsigned bits name v = .ok n) : v.KeptAs (some (.ofNat n)) :=
  (unsigned_eq_ok.1 h).1 ▸ kept_self _

theorem string_kept {v : Json} {s : String} (h : Reader.string v = .ok s) :
    v.KeptAs (some (.str s)) :=
  string_eq_ok.1 h ▸ kept_self _

theorem option_string_kept {v : Json} {o : Option String}
    (h : option Reader.string v = .ok o) : v.KeptAs (o.map .str) := by
  rcases option_string_eq_ok.1 h with ⟨rfl, rfl⟩ | ⟨s, rfl, rfl⟩
  · exact kept_null _
  · exact kept_self _

theorem readStrings_kept {v : Json} {ms : List (String × String)} (h : readStrings v = .ok ms) :
    v.KeptAs (if ms.isEmpty then none else some (stringsJson ms)) :=
  readStrings_eq_ok.1 h ▸ kept_strings ms

section
variable {ms : Members} {key : String} {v : Json}

theorem RetryPolicy.kept {p : RetryPolicy} (h : read (.obj ms) = .ok p)
    (hv : Members.get? ms key = some v) (hk : key ∈ ["backoff_ms", "max_attempts"]) :
    v.KeptAs (p.toJson.get? key) := by
  simp only [read, bind_eq_ok, pure, Except.pure, Except.ok.injEq] at h
  obtain ⟨backoff, hb, first, -, attempts, ha, growth, -, rfl⟩ := h
  simp only [List.mem_cons, List.not_mem_nil, or_false] at hk
  rcases hk with rfl | rfl
  · obtain ⟨n, hn, rfl⟩ := read_of_field? hb hv
    exact unsigned_kept hn
  · obtain ⟨n, hn, rfl⟩ := read_of_field? ha hv
    exact unsigned_kept hn

/-- Under either name the multiplier is written as the number that it is read as. -/
theorem RetryPolicy.kept_multiplier {p : RetryPolicy} (h : read (.obj ms) = .ok p)
    (hf : p.multiplier.isFinite = true) (hv : Members.get? ms key = some v)
    (hk : key ∈ ["backoff_multiplier", "multiplier"]) :
    v.IsLeaf ∧ p.toJson.get? "backoff_multiplier" = some (asFloat v) := by
  simp only [read, bind_eq_ok, pure, Except.pure, Except.ok.injEq] at h
  obtain ⟨backoff, -, first, h1, attempts, -, growth, h2, rfl⟩ := h
  have read : ∃ x, binary64 v = .ok x ∧ growth = some x := by
    simp only [List.mem_cons, List.not_mem_nil, or_false] at hk
    rcases hk with rfl | rfl
    · obtain ⟨x, hx, rfl⟩ := read_of_field? h1 hv
      rcases alias?_eq_ok.1 h2 with ⟨-, rfl⟩ | ⟨_, _, -, hn, -, -⟩
      · exact ⟨x, hx, rfl⟩
      · cases hn
    · rcases alias?_eq_ok.1 h2 with ⟨hn, -⟩ | ⟨w, x, hw, -, hx, rfl⟩
      · rw [hv] at hn
        cases hn
      · obtain rfl : v = w := Option.some.inj (hv.symm.trans hw)
        exact ⟨x, hx, rfl⟩
  obtain ⟨x, hx, rfl⟩ := read
  obtain ⟨leaf, float⟩ := binary64_eq_ok hx
  have finite : numberJson x = .float x := numberJson_of_isFinite hf
  exact ⟨leaf, by rw [float, ← finite]; rfl⟩

theorem ResponseMapping.get?_toJson (m : ResponseMapping) :
    m.toJson.get? "path" = m.path.map .str
      ∧ m.toJson.get? "error_path" = m.errorPath.map .str
      ∧ m.toJson.get? "status_codes" =
        if m.statusCodes.isEmpty then none else some (stringsJson m.statusCodes) := by
  simp only [toJson, ofPairs, Json.get?, Members.get?_ofList, List.reverse_append,
    List.lookup_append, lookup_unless, lookup_option, String.reduceEq, if_false, if_true,
    Option.none_or, Option.or_none, and_self]

theorem ResponseMapping.kept {place : Section} {m : ResponseMapping}
    (h : readIn place (.obj ms) = .ok m) (hv : Members.get? ms key = some v)
    (hk : key ∈ ["path", "data_path", "error_path", "status_codes"]) :
    v.KeptAs (m.toJson.get? (writtenKey "response_mapping" key)) := by
  simp only [readIn, bind_eq_ok, pure, Except.pure, Except.ok.injEq] at h
  obtain ⟨first, h1, error, h2, path, h3, codes, h4, rfl⟩ := h
  obtain ⟨hpath, herror, hcodes⟩ := get?_toJson ⟨path.join, error.join, codes.getD []⟩
  simp only [List.mem_cons, List.not_mem_nil, or_false] at hk
  rcases hk with rfl | rfl | rfl | rfl
  · change v.KeptAs (Json.get? _ "path")
    rw [hpath]
    rcases alias?_eq_ok.1 h3 with ⟨hn, -⟩ | ⟨w, o, hw, -, ho, rfl⟩
    · rw [hv] at hn
      cases hn
    · obtain rfl : v = w := Option.some.inj (hv.symm.trans hw)
      exact option_string_kept ho
  · change v.KeptAs (Json.get? _ "path")
    rw [hpath]
    obtain ⟨o, ho, rfl⟩ := read_of_field? h1 hv
    rcases alias?_eq_ok.1 h3 with ⟨-, rfl⟩ | ⟨_, _, -, hn, -, -⟩
    · exact option_string_kept ho
    · cases hn
  · change v.KeptAs (Json.get? _ "error_path")
    rw [herror]
    obtain ⟨o, ho, rfl⟩ := read_of_field? h2 hv
    exact option_string_kept ho
  · change v.KeptAs (Json.get? _ "status_codes")
    rw [hcodes]
    obtain ⟨cs, hcs, rfl⟩ := read_of_field? h4 hv
    exact readStrings_kept hcs

/-! ## Protocols -/

theorem HttpBinding.lookup_fields (b : HttpBinding) :
    b.fields.reverse.lookup "method" = some (.str b.method.name)
      ∧ b.fields.reverse.lookup "url" = some (.str b.url)
      ∧ b.fields.reverse.lookup "headers" =
        (if b.headers.isEmpty then none else some (stringsJson b.headers))
      ∧ b.fields.reverse.lookup "body_template" = b.body
      ∧ b.fields.reverse.lookup "response_mapping" =
        if b.mapping.isEmpty then none else some b.mapping.toJson := by
  simp only [fields, List.reverse_append, List.lookup_append, lookup_unless,
    lookup_option _ _ b.body fun t => t, List.reverse_cons, List.reverse_nil, List.nil_append,
    List.singleton_append, lookup_cons_ite, List.lookup_nil]
  simp

theorem HttpBinding.kept {b : HttpBinding} (h : readFields ms = .ok b)
    (hv : Members.get? ms key = some v) (hk : key ∈ ["url", "headers", "body_template"]) :
    v.KeptAs (b.fields.reverse.lookup key) := by
  obtain ⟨-, url, headers, body, -⟩ := b.lookup_fields
  simp only [readFields, bind_eq_ok, pure, Except.pure, Except.ok.injEq] at h
  obtain ⟨_, hb, _, hh, _, -, _, -, _, hu, rfl⟩ := h
  simp only [List.mem_cons, List.not_mem_nil, or_false] at hk
  rcases hk with rfl | rfl | rfl
  · obtain ⟨s, hs, rfl⟩ := read_of_field? hu hv
    rw [url]
    exact string_kept hs
  · obtain ⟨hs, hhs, rfl⟩ := read_of_field? hh hv
    rw [headers]
    exact readStrings_kept hhs
  · obtain ⟨o, ho, rfl⟩ := read_of_field? hb hv
    rw [body]
    rcases option_any_eq_ok.1 ho with ⟨rfl, rfl⟩ | ⟨-, rfl⟩
    · exact kept_null _
    · exact kept_self _

/-- A method is written in capitals. -/
theorem HttpBinding.kept_method {b : HttpBinding} (h : readFields ms = .ok b)
    (hv : Members.get? ms "method" = some v) :
    ∃ s, v = .str s
      ∧ b.fields.reverse.lookup "method" = some (capitals (.str s)) := by
  rw [b.lookup_fields.1]
  simp only [readFields, bind_eq_ok, pure, Except.pure, Except.ok.injEq] at h
  obtain ⟨_, -, _, -, method, hm, _, -, _, -, rfl⟩ := h
  obtain ⟨m, hread, rfl⟩ := read_of_field? hm hv
  unfold Method.read at hread
  split at hread
  · cases hread
  · rename_i s hs
    split at hread
    · rename_i m' hname
      cases hread
      have same := List.find?_some hname
      exact ⟨s, string_eq_ok.1 hs, by rw [capitals, ← eq_of_beq same]; rfl⟩
    · cases hread

/-- What is under a mapping is found where the mapping is written, if it is. -/
theorem HttpBinding.kept_mapping {b : HttpBinding} (h : readFields ms = .ok b) {inner : Members}
    (hms : Members.get? ms "response_mapping" = some (.obj inner))
    (hv : Members.get? inner key = some v)
    (hk : key ∈ ["path", "data_path", "error_path", "status_codes"]) :
    v.KeptAs ((b.fields.reverse.lookup "response_mapping").bind fun m =>
      m.get? (writtenKey "response_mapping" key)) := by
  rw [b.lookup_fields.2.2.2.2]
  simp only [readFields, bind_eq_ok, pure, Except.pure, Except.ok.injEq] at h
  obtain ⟨_, -, _, -, _, -, mapping, hm, _, -, rfl⟩ := h
  obtain ⟨m, hread, rfl⟩ := read_of_field? hm hms
  have kept := ResponseMapping.kept hread hv hk
  change v.KeptAs ((if m.isEmpty then none else some m.toJson).bind _)
  cases hempty : m.isEmpty with
  | true =>
    obtain rfl : {} = m := by simpa [hempty] using ResponseMapping.getD_unless m
    exact kept
  | false => exact kept

theorem QueueBinding.kept {b : QueueBinding} (h : readFields ms = .ok b)
    (hv : Members.get? ms key = some v)
    (hk : key ∈ ["provider", "connection", "topic", "format", "headers"]) :
    v.KeptAs (b.fields.reverse.lookup key) := by
  simp only [readFields, bind_eq_ok] at h
  obtain ⟨connection, hc, format, hf, headers, hh, provider, hp, topic, ht, h⟩ := h
  cases provider with
  | none => cases h
  | some provider =>
    cases h
    simp only [fields, List.lookup_append, lookup_unless, List.reverse_cons, List.nil_append,
      List.cons_append, lookup_cons_ite, List.lookup_nil]
    simp only [List.mem_cons, List.not_mem_nil, or_false] at hk
    rcases hk with rfl | rfl | rfl | rfl | rfl
    · obtain ⟨p, hread, hsome⟩ := read_of_field? hp hv
      cases hsome
      exact kept_variant (by decide) hread
    · obtain ⟨s, hs, rfl⟩ := read_of_field? hc hv
      exact string_kept hs
    · obtain ⟨s, hs, rfl⟩ := read_of_field? ht hv
      exact string_kept hs
    · obtain ⟨f, hread, rfl⟩ := read_of_field? hf hv
      exact kept_variant (by decide) hread
    · obtain ⟨hs, hhs, rfl⟩ := read_of_field? hh hv
      simpa using readStrings_kept hhs

theorem SqlBinding.kept {b : SqlBinding} (h : readFields ms = .ok b)
    (hv : Members.get? ms key = some v)
    (hk : key ∈ ["connection", "query", "read_only", "parameter_mapping", "max_rows"]) :
    v.KeptAs (b.fields.reverse.lookup key) := by
  simp only [readFields, bind_eq_ok, pure, Except.pure, Except.ok.injEq] at h
  obtain ⟨connection, hc, rows, hr, parameters, hp, query, hq, readOnly, ho, rfl⟩ := h
  simp only [fields, List.lookup_append, lookup_unless, List.reverse_cons, List.nil_append,
    List.cons_append, lookup_cons_ite, List.lookup_nil]
  simp only [List.mem_cons, List.not_mem_nil, or_false] at hk
  rcases hk with rfl | rfl | rfl | rfl | rfl
  · obtain ⟨s, hs, rfl⟩ := read_of_field? hc hv
    exact string_kept hs
  · obtain ⟨s, hs, rfl⟩ := read_of_field? hq hv
    exact string_kept hs
  · obtain ⟨x, hx, rfl⟩ := read_of_field? ho hv
    exact bool_eq_ok.1 hx ▸ kept_self _
  · obtain ⟨ps, hps, rfl⟩ := read_of_field? hp hv
    simpa using readStrings_kept hps
  · obtain ⟨n, hn, rfl⟩ := read_of_field? hr hv
    exact unsigned_kept hn

theorem GrpcBinding.kept {b : GrpcBinding} (h : readFields ms = .ok b)
    (hv : Members.get? ms key = some v) (hk : key ∈ ["endpoint", "service", "method"]) :
    v.KeptAs (b.fields.reverse.lookup key) := by
  simp only [readFields, bind_eq_ok, pure, Except.pure, Except.ok.injEq] at h
  obtain ⟨endpoint, he, method, hm, service, hs, rfl⟩ := h
  simp only [fields, List.reverse_cons, List.reverse_nil, List.nil_append, List.cons_append,
    lookup_cons_ite, List.lookup_nil]
  simp only [List.mem_cons, List.not_mem_nil, or_false] at hk
  rcases hk with rfl | rfl | rfl
  · obtain ⟨s, hs, rfl⟩ := read_of_field? he hv
    exact string_kept hs
  · obtain ⟨s, hread, rfl⟩ := read_of_field? hs hv
    exact string_kept hread
  · obtain ⟨s, hs, rfl⟩ := read_of_field? hm hv
    exact string_kept hs

/-- A field of a protocol that is written under its own name and as it stands. -/
structure Protocol.Plain (type key : String) : Prop where
  known : key ∈ Binding.protocolFields type
  method : ¬ (type = "http" ∧ key = "method")
  mapping : key ≠ "response_mapping"

theorem Protocol.kept {p : Protocol} (h : p.ReadFrom ms) (hv : Members.get? ms key = some v)
    (hk : Plain p.typeName key) : v.KeptAs (p.fields.reverse.lookup key) := by
  obtain ⟨known, method, mapping⟩ := hk
  cases p with
  | http b =>
    refine HttpBinding.kept h hv ?_
    simp only [Binding.protocolFields, typeName, if_true, List.mem_cons, List.not_mem_nil] at known
    simp_all [typeName]
  | queue b => exact QueueBinding.kept h hv known
  | sql b => exact SqlBinding.kept h hv known
  | grpc b => exact GrpcBinding.kept h hv known

end

/-! ## Declarations -/

namespace Binding

/-- Where a binding is written with what a declaration has at a place. -/
def writtenPath : List Step → List Step
  | .field name :: .field key :: rest => .field name :: .field (writtenKey name key) :: rest
  | path => path

/-- What a leaf at a place of a declaration is written as: the method of a web service in capitals,
a multiplier as a float and all else as it stands. -/
def writtenLeaf (type : String) (path : List Step) (leaf : Json) : Json :=
  if type = "http" ∧ path = [.field "method"] then capitals leaf
  else if writtenPath path = [.field "retry", .field "backoff_multiplier"] then asFloat leaf
  else leaf

section
variable {ms : Members} {b : Binding} {key : String} {v leaf : Json} {rest : List Step}

/-- All fields of a declaration of a type and of its sections are in the lists of known fields. -/
structure Known (type : String) (ms : Members) : Prop where
  top : ∀ {key v}, Members.get? ms key = some v → key ∈ commonFields ∨ key ∈ protocolFields type
  retry : ∀ {inner key v}, Members.get? ms "retry" = some (.obj inner) →
    Members.get? inner key = some v →
    key ∈ ["max_attempts", "backoff_ms", "backoff_multiplier", "multiplier"]
  mapping : ∀ {inner key v}, Members.get? ms "response_mapping" = some (.obj inner) →
    Members.get? inner key = some v → key ∈ ["path", "data_path", "error_path", "status_codes"]

theorem known_of_unknownFields {type : String} (h : unknownFields type ms = []) :
    Known type ms := by
  have mem_keys {inner : Members} {key : String} {v : Json} (hv : Members.get? inner key = some v) :
      key ∈ Members.keys inner := List.mem_map_of_mem (Members.get?_mem hv)
  simp only [unknownFields, sectionFields, List.append_eq_nil_iff, List.map_eq_nil_iff,
    List.filter_eq_nil_iff, List.flatMap_cons, List.flatMap_nil] at h
  obtain ⟨top, retry, mapping, -⟩ := h
  have inSection {name key : String} {allowed : List String} {inner : Members} {v : Json}
      (none : unknownInSection ms name allowed = []) (hi : Members.get? ms name = some (.obj inner))
      (hv : Members.get? inner key = some v) : key ∈ allowed := by
    simp only [unknownInSection, hi, List.map_eq_nil_iff, List.filter_eq_nil_iff] at none
    simpa using none key (mem_keys hv)
  refine ⟨fun hv => ?_, inSection retry, inSection mapping⟩
  rw [or_iff_not_imp_left]
  simpa using top _ (mem_keys hv)

/-- What is read of the fields that every declaration may have. -/
structure CommonRead (ms : Members) (b : Binding) : Prop where
  mode : ∀ v, Members.get? ms "mode" = some v → v.KeptAs (some (.str b.mode.name))
  timeout : ∀ v, Members.get? ms "timeout_ms" = some v → v.KeptAs (some (.ofNat b.timeoutMs))
  retry : ∀ v, Members.get? ms "retry" = some v → RetryPolicy.read v = .ok b.retry
  protocol : b.protocol.ReadFrom ms

theorem commonRead_of_read (h : read (.obj ms) = .ok b) : CommonRead ms b := by
  simp only [read, bind_eq_ok, pure, Except.pure, Except.ok.injEq] at h
  obtain ⟨mode, hmode, retry, hretry, timeout, htimeout, protocol, hp, rfl⟩ := h
  constructor
  · intro v hv
    obtain ⟨m, hm, rfl⟩ := read_of_field? hmode hv
    exact kept_variant (by decide) hm
  · intro v hv
    obtain ⟨n, hn, rfl⟩ := read_of_field? htimeout hv
    exact unsigned_kept hn
  · intro v hv
    obtain ⟨p, hread, rfl⟩ := read_of_field? hretry hv
    exact hread
  · exact Protocol.readFrom_of_readFields hp

/-- The common fields of a binding as they are written. -/
theorem get?_members (b : Binding) :
    Members.get? b.members "type" = some (.str b.typeName)
      ∧ Members.get? b.members "mode" = some (.str b.mode.name)
      ∧ Members.get? b.members "timeout_ms" = some (.ofNat b.timeoutMs)
      ∧ Members.get? b.members "retry" = some b.retry.toJson := by
  have get (key : String) (hk : key ∈ commonFields) := get?_members_common (b := b) hk
  simp only [commonMembers, List.reverse_cons, List.reverse_nil, List.nil_append, List.cons_append,
    lookup_cons_ite, List.lookup_nil] at get
  exact ⟨by simp [get "type" (by decide)], by simp [get "mode" (by decide)],
    by simp [get "timeout_ms" (by decide)], by simp [get "retry" (by decide)]⟩

/-- A field that is no section has its place under its name. -/
theorem at?_field (hr : key ≠ "retry") (hm : key ≠ "response_mapping")
    (hmethod : ¬ (b.typeName = "http" ∧ key = "method"))
    (hk : v.KeptAs (Members.get? b.members key)) (hl : leaf.IsLeaf) (hat : v.at? rest = some leaf) :
    b.toJson.at? (writtenPath (.field key :: rest)) =
      some (writtenLeaf b.typeName (.field key :: rest) leaf) := by
  have path : writtenPath (.field key :: rest) = .field key :: rest := by
    cases rest with
    | nil => rfl
    | cons step rest => cases step <;> simp [writtenPath, writtenKey, hr, hm]
  have same : writtenLeaf b.typeName (.field key :: rest) leaf = leaf := by
    rw [writtenLeaf, path, if_neg (by simp_all), if_neg (by simp [hr])]
  rw [path, same]
  exact hk rest leaf hl hat

theorem at?_retry (h : CommonRead ms b) (hf : b.retry.multiplier.isFinite = true) {inner : Members}
    (hi : Members.get? ms "retry" = some (.obj inner)) (hv : Members.get? inner key = some v)
    (hk : key ∈ ["max_attempts", "backoff_ms", "backoff_multiplier", "multiplier"])
    (hl : leaf.IsLeaf) (hat : v.at? rest = some leaf) :
    b.toJson.at? (writtenPath (.field "retry" :: .field key :: rest)) =
      some (writtenLeaf b.typeName (.field "retry" :: .field key :: rest) leaf) := by
  have policy := h.retry _ hi
  have under : b.toJson.at? (writtenPath (.field "retry" :: .field key :: rest)) =
      (b.retry.toJson.get? (writtenKey "retry" key)).bind fun w => w.at? rest := by
    change (Members.get? b.members "retry").bind
      (fun w => w.at? (.field (writtenKey "retry" key) :: rest)) = _
    rw [(get?_members b).2.2.2]
    rfl
  rw [under, writtenLeaf, if_neg (by simp)]
  by_cases hm : key ∈ ["backoff_multiplier", "multiplier"]
  · obtain ⟨leafy, written⟩ := RetryPolicy.kept_multiplier policy hf hv hm
    obtain ⟨rfl, rfl⟩ := at?_of_isLeaf leafy hat
    have name : writtenKey "retry" key = "backoff_multiplier" := by
      simp only [List.mem_cons, List.not_mem_nil, or_false] at hm
      rcases hm with rfl | rfl <;> decide
    rw [if_pos (by rw [writtenPath, name]), name, written]
    rfl
  · simp only [List.mem_cons, List.not_mem_nil, or_false, not_or] at hm
    have name : writtenKey "retry" key = key := by simp [writtenKey, hm]
    rw [if_neg (by simp [writtenPath, name, hm]), name]
    refine RetryPolicy.kept policy hv ?_ rest leaf hl hat
    simp only [List.mem_cons, List.not_mem_nil, or_false] at hk ⊢
    tauto

theorem at?_mapping {http : HttpBinding} (hb : b.protocol = .http http) (h : CommonRead ms b)
    {inner : Members} (hi : Members.get? ms "response_mapping" = some (.obj inner))
    (hv : Members.get? inner key = some v)
    (hk : key ∈ ["path", "data_path", "error_path", "status_codes"])
    (hl : leaf.IsLeaf) (hat : v.at? rest = some leaf) :
    b.toJson.at? (writtenPath (.field "response_mapping" :: .field key :: rest)) =
      some (writtenLeaf b.typeName (.field "response_mapping" :: .field key :: rest) leaf) := by
  have fields : (Protocol.http http).ReadFrom ms := hb ▸ h.protocol
  have kept := HttpBinding.kept_mapping fields hi hv hk rest leaf hl hat
  rw [writtenLeaf, if_neg (by simp), if_neg (by simp [writtenPath]), ← kept]
  change (Members.get? b.members "response_mapping").bind
    (fun w => w.at? (.field (writtenKey "response_mapping" key) :: rest)) = _
  rw [get?_members_protocol (by decide), hb]
  change (http.fields.reverse.lookup "response_mapping").bind _ = _
  rw [http.lookup_fields.2.2.2.2]
  cases http.mapping.isEmpty <;> rfl

theorem at?_method {http : HttpBinding} (hb : b.protocol = .http http) (h : CommonRead ms b)
    (hv : Members.get? ms "method" = some v) (hl : leaf.IsLeaf) (hat : v.at? rest = some leaf) :
    b.toJson.at? (writtenPath (.field "method" :: rest)) =
      some (writtenLeaf b.typeName (.field "method" :: rest) leaf) := by
  have fields : (Protocol.http http).ReadFrom ms := hb ▸ h.protocol
  obtain ⟨s, rfl, written⟩ := HttpBinding.kept_method fields hv
  have string : (Json.str s).IsLeaf := trivial
  obtain ⟨rfl, rfl⟩ := at?_of_isLeaf string hat
  have type : b.typeName = "http" := by rw [typeName, hb]; rfl
  rw [writtenLeaf, if_pos ⟨type, rfl⟩, ← written]
  change (Members.get? b.members "method").bind some = _
  rw [get?_members_protocol (by decide), hb]
  exact Option.bind_fun_some _

theorem kept_common (h : CommonRead ms b) (ht : Members.get? ms "type" = some (.str b.typeName))
    (hv : Members.get? ms key = some v) (hk : key ∈ commonFields) (hr : key ≠ "retry") :
    v.KeptAs (Members.get? b.members key) := by
  obtain ⟨type, mode, timeout, -⟩ := get?_members b
  simp only [commonFields, List.mem_cons, List.not_mem_nil, or_false] at hk
  rcases hk with rfl | rfl | rfl | rfl
  · obtain rfl : v = .str b.typeName := Option.some.inj (hv.symm.trans ht)
    exact type ▸ kept_self _
  · exact mode ▸ h.mode v hv
  · exact timeout ▸ h.timeout v hv
  · exact absurd rfl hr

theorem http_of_typeName (h : b.typeName = "http") : ∃ http, b.protocol = .http http := by
  unfold typeName at h
  cases hb : b.protocol with
  | http http => exact ⟨http, rfl⟩
  | _ =>
    rw [hb] at h
    simp [Protocol.typeName] at h

/-- Only a web service has a response mapping. -/
theorem type_of_mapping {type : String} (h : "response_mapping" ∈ protocolFields type) :
    type = "http" := by
  by_contra hne
  simp only [protocolFields, if_neg hne] at h
  split at h
  · simp at h
  · split at h <;> simp at h

/-- The leaves of an accepted declaration have their places in the binding that is written. -/
theorem at?_of_parse {mode : Validation} {warnings : List String} {path : List Step}
    (h : parse (.obj ms) mode = .ok (b, warnings))
    (sections : ∀ name ∈ ["retry", "response_mapping"], ∀ v, Members.get? ms name = some v →
      v.isObj = true)
    (hl : leaf.IsLeaf) (hat : (Json.obj ms).at? path = some leaf) :
    b.toJson.at? (writtenPath path) = some (writtenLeaf b.typeName path leaf) := by
  obtain ⟨hread, hs, -⟩ := parse_ok h
  have common := commonRead_of_read hread
  obtain ⟨hd, hu⟩ := known_of_parse h
  have known := known_of_unknownFields hu
  obtain ⟨key, v, rest, rfl, hv, hrest⟩ := exists_member_of_at? hl hat
  have object (hk : key ∈ ["retry", "response_mapping"]) : ∃ inner, v = .obj inner := by
    have isObj := sections key hk v hv
    cases v with
    | obj inner => exact ⟨inner, rfl⟩
    | _ => cases isObj
  by_cases hr : key = "retry"
  · subst hr
    obtain ⟨inner, rfl⟩ := object (by simp)
    obtain ⟨key, w, below, rfl, hw, hbelow⟩ := exists_member_of_at? hl hrest
    exact at?_retry common (isFinite_of_structuralErrors hs) hv hw (known.retry hv hw) hl hbelow
  by_cases hm : key = "response_mapping"
  · subst hm
    obtain ⟨inner, rfl⟩ := object (by simp)
    obtain ⟨http, hb⟩ :=
      http_of_typeName (type_of_mapping ((known.top hv).resolve_left (by decide)))
    obtain ⟨key, w, below, rfl, hw, hbelow⟩ := exists_member_of_at? hl hrest
    exact at?_mapping hb common hv hw (known.mapping hv hw) hl hbelow
  by_cases hmethod : b.typeName = "http" ∧ key = "method"
  · obtain ⟨type, rfl⟩ := hmethod
    obtain ⟨http, hb⟩ := http_of_typeName type
    exact at?_method hb common hv hl hrest
  refine at?_field hr hm hmethod ?_ hl hrest
  by_cases hc : key ∈ commonFields
  · exact kept_common common (declaredType_eq_ok hd) hv hc hr
  · rw [get?_members_protocol hc]
    exact Protocol.kept common.protocol hv ⟨(known.top hv).resolve_left hc, hmethod, hm⟩

end

/-! ## Fields that nobody writes -/

/-- A place right under a declaration or under a section of it. -/
inductive FieldPath : List Step → Prop
  | top (key : String) : FieldPath [.field key]
  | retry (key : String) : FieldPath [.field "retry", .field key]
  | mapping (key : String) : FieldPath [.field "response_mapping", .field key]

/-- A declaration has a field that no sound binding of its type is written with, under any name. -/
structure Foreign (raw : Json) (path : List Step) : Prop where
  field : FieldPath path
  present : (raw.at? path).isSome = true
  unwritten : ∀ b : Binding, raw.get? "type" = some (.str b.typeName) →
    (b.report .strict).errors = [] → b.toJson.at? (writtenPath path) = none

/-- A sound binding of each type that is written with all its fields. -/
def full (type : String) : Binding :=
  if type = "http" then
    { protocol := .http
        { method := .post, url := "https://x.example", headers := [("accept", "*/*")],
          body := some (.bool true),
          mapping := { path := some "data", errorPath := some "error",
                       statusCodes := [("404", "missing")] } } }
  else if type = "queue" then
    { protocol := .queue
        { provider := .kafka, connection := "$\x7bBROKER\x7d", topic := "orders",
          headers := [("trace", "on")] } }
  else if type = "sql" then
    { protocol := .sql
        { connection := "$\x7bDB\x7d", query := "SELECT * FROM orders WHERE id = :id",
          parameters := [("id", "order")] } }
  else { protocol := .grpc { endpoint := "x.example:443", service := "Orders", method := "Get" } }

theorem full_sound {type : String} (h : type ∈ supportedTypes) :
    (full type).typeName = type ∧ ((full type).report .strict).errors = [] := by
  revert type
  decide +kernel

/-- The lists of known fields have no field that is not written. -/
theorem full_written {type : String} (h : type ∈ supportedTypes) :
    (∀ key ∈ commonFields ++ protocolFields type,
      ((full type).toJson.at? (writtenPath [.field key])).isSome = true)
    ∧ (∀ key ∈ ["max_attempts", "backoff_ms", "backoff_multiplier", "multiplier"],
      ((full type).toJson.at? (writtenPath [.field "retry", .field key])).isSome = true)
    ∧ (type = "http" → ∀ key ∈ ["path", "data_path", "error_path", "status_codes"],
      ((full type).toJson.at? (writtenPath [.field "response_mapping", .field key])).isSome =
        true) := by
  revert type
  decide +kernel

theorem member_of_present {ms : Members} {name key : String}
    (h : ((Json.obj ms).at? [.field name, .field key]).isSome = true) :
    ∃ inner v, Members.get? ms name = some (.obj inner) ∧ Members.get? inner key = some v := by
  obtain ⟨v, hv⟩ := Option.isSome_iff_exists.1 h
  obtain ⟨w, hw, hv⟩ := Option.bind_eq_some_iff.1 hv
  obtain ⟨x, hx, -⟩ := Option.bind_eq_some_iff.1 hv
  cases w with
  | obj inner => exact ⟨inner, x, hw, hx⟩
  | _ => cases hx

theorem typeName_mem (b : Binding) : b.typeName ∈ supportedTypes := by
  cases hb : b.protocol <;> simp [typeName, hb, Protocol.typeName, supportedTypes]

/-- A declaration with a foreign field is refused. -/
theorem not_parse_of_foreign {raw : Json} {path : List Step} (hf : Foreign raw path)
    {mode : Validation} {b : Binding} {warnings : List String} :
    parse raw mode ≠ .ok (b, warnings) := by
  intro h
  cases raw with
  | obj ms =>
    obtain ⟨-, hu⟩ := known_of_parse h
    have known := known_of_unknownFields hu
    obtain ⟨type, sound⟩ := full_sound b.typeName_mem
    obtain ⟨top, retry, mapping⟩ := full_written b.typeName_mem
    have unwritten := hf.unwritten _ (by rw [type]; exact declared_of_parse h) sound
    have present := hf.present
    -- The list that has the field names it, so the full binding is written with it.
    have written : ((full b.typeName).toJson.at? (writtenPath path)).isSome = true := by
      cases hf.field with
      | top key =>
        obtain ⟨v, hv⟩ := Option.isSome_iff_exists.1 present
        obtain ⟨w, hw, -⟩ := Option.bind_eq_some_iff.1 hv
        exact top key (List.mem_append.2 (known.top hw))
      | retry key =>
        obtain ⟨inner, v, hi, hv⟩ := member_of_present present
        exact retry key (known.retry hi hv)
      | mapping key =>
        obtain ⟨inner, v, hi, hv⟩ := member_of_present present
        exact mapping (type_of_mapping ((known.top hi).resolve_left (by decide))) key
          (known.mapping hi hv)
    rw [unwritten] at written
    cases written
  | _ => cases declared_of_parse h

/-- Of an accepted declaration with objects for its sections, every leaf but null is written at its
place; and a field at the top of a declaration or in a section of it that no binding of its type is
written with makes it be refused in both modes. -/
theorem parse_keeps (raw : Json) :
    (∀ mode b warnings, parse raw mode = .ok (b, warnings) →
      (∀ name ∈ ["retry", "response_mapping"], ∀ v, raw.get? name = some v → v.isObj = true) →
      ∀ path leaf, leaf.IsLeaf → raw.at? path = some leaf →
        b.toJson.at? (writtenPath path) = some (writtenLeaf b.typeName path leaf))
    ∧ ∀ path, Foreign raw path → ∀ mode, ∃ e, parse raw mode = .error e := by
  constructor
  · intro mode b warnings h sections path leaf hl hat
    cases raw with
    | obj ms => exact at?_of_parse h sections hl hat
    | _ => cases declared_of_parse h
  · intro path hf mode
    cases h : parse raw mode with
    | error e => exact ⟨e, rfl⟩
    | ok p => exact absurd h (not_parse_of_foreign hf)

set_option maxRecDepth 10000 in
/-- Two second names and a method in small letters, and a misspelled field. -/
theorem parse_keeps_renamed :
    let raw : Json := .ofPairs [("type", .str "http"), ("method", .str "post"),
      ("url", .str "https://x.example"), ("retry", .obj [("multiplier", .int 2)]),
      ("response_mapping", .obj [("data_path", .str "total")])]
    let misspelled : Json := .ofPairs [("type", .str "http"), ("url", .str "https://x.example"),
      ("retry", .obj [("max_atempts", .int 1)])]
    (∃ b, parse raw .strict = .ok (b, [])
      ∧ b.toJson.at? [.field "method"] = some (.str "POST")
      ∧ b.toJson.at? [.field "retry", .field "backoff_multiplier"] = some (.float (.ofInt 2))
      ∧ b.toJson.at? [.field "response_mapping", .field "path"] = some (.str "total"))
    ∧ Foreign misspelled [.field "retry", .field "max_atempts"]
    ∧ ∃ e, parse misspelled .lenient = .error e := by
  intro raw misspelled
  let b : Binding :=
    { protocol := .http { method := .post, url := "https://x.example",
                          mapping := { path := some "total" } } }
  have accepted : parse raw .strict = .ok (b, []) := by rfl
  have sections : ∀ name ∈ ["retry", "response_mapping"], ∀ v, raw.get? name = some v →
      v.isObj = true := by
    simp only [List.mem_cons, List.not_mem_nil, or_false, forall_eq_or_imp, forall_eq]
    constructor <;> rintro v ⟨⟩ <;> rfl
  have keeps := (parse_keeps raw).1 _ _ _ accepted sections
  have foreign : Foreign misspelled [.field "retry", .field "max_atempts"] := by
    refine ⟨.retry _, by rfl, fun b _ _ => ?_⟩
    change (Members.get? b.members "retry").bind (fun w => w.at? [.field "max_atempts"]) = none
    rw [(get?_members b).2.2.2]
    rfl
  refine ⟨⟨b, accepted, ?_, ?_, ?_⟩, foreign, (parse_keeps misspelled).2 _ foreign _⟩
  · exact keeps [.field "method"] (.str "post") trivial (by rfl)
  · exact keeps [.field "retry", .field "multiplier"] (.int 2) trivial (by rfl)
  · exact keeps [.field "response_mapping", .field "data_path"] (.str "total") trivial (by rfl)

end Binding
end Toolwire
