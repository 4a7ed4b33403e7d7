import Mathlib
import Toolwire.Proofs.Binding.Leak
/-!
# Bindings read back

A binding that was read is of a shape that writing keeps: its numbers fit their widths and
its body is no null. Such a binding reads back as itself (`read_toJson`), with no unknown
field, so its check comes out as before.
-/
namespace Toolwire

open Json Json.Reader

/-- Findings of secrets are errors in strict validation only. -/
theorem Report.errors_addFindings (r : Report) (mode : Validation) (findings : List String) :
    (r.addFindings mode findings).errors =
      r.errors ++ (if mode = .strict then findings else []) := by
  cases mode with
  | strict => rfl
  | lenient => exact (List.append_nil _).symm

/-! ## What reading gives -/

/-- The numbers of a policy fit their widths. -/
structure RetryPolicy.Fits (p : RetryPolicy) : Prop where
  attempts : p.maxAttempts < 2 ^ 32
  backoff : p.backoffMs < 2 ^ 64

/-- A protocol that is written as it was read. -/
def Protocol.Fits : Protocol → Prop
  | .http b => b.body ≠ some .null
  | .sql b => b.maxRows < 2 ^ 64
  | .queue _ | .grpc _ => True

/-- A binding that is written as it was read. -/
structure Binding.Fits (b : Binding) : Prop where
  timeout : b.timeoutMs < 2 ^ 64
  retry : b.retry.Fits
  protocol : b.protocol.Fits

theorem unsigned_field_lt {ms : Members} {key name : String} {bits default : Nat} {o : Option Nat}
    (h : field? ms key (unsigned bits name) = .ok o) (hd : default < 2 ^ bits) :
    o.getD default < 2 ^ bits := by
  rcases field?_eq_ok.1 h with ⟨-, rfl⟩ | ⟨v, n, -, hn, rfl⟩
  · exact hd
  · exact (unsigned_eq_ok.1 hn).2

theorem unsigned_item_lt {items : List Json} {index : Nat} {name : String} {bits default : Nat}
    {o : Option Nat} (h : item? items index (unsigned bits name) = .ok o)
    (hd : default < 2 ^ bits) : o.getD default < 2 ^ bits := by
  rcases item?_eq_ok.1 h with ⟨-, rfl⟩ | ⟨v, n, -, hn, rfl⟩
  · exact hd
  · exact (unsigned_eq_ok.1 hn).2

theorem RetryPolicy.fits_of_read {v : Json} {p : RetryPolicy} (h : read v = .ok p) : p.Fits := by
  cases v with
  | obj ms =>
    simp only [read, bind_eq_ok, pure, Except.pure, Except.ok.injEq] at h
    obtain ⟨backoff, hb, first, -, attempts, ha, growth, -, rfl⟩ := h
    exact ⟨unsigned_field_lt ha (by norm_num), unsigned_field_lt hb (by norm_num)⟩
  | arr items =>
    simp only [read, bind_eq_ok, pure, Except.pure, Except.ok.injEq] at h
    obtain ⟨attempts, ha, backoff, hb, growth, -, -, -, rfl⟩ := h
    exact ⟨unsigned_item_lt ha (by norm_num), unsigned_item_lt hb (by norm_num)⟩
  | _ => simp [read, unexpected] at h

theorem HttpBinding.body_of_readFields {ms : Members} {b : HttpBinding}
    (h : readFields ms = .ok b) : b.body ≠ some .null := by
  simp only [readFields, bind_eq_ok, pure, Except.pure, Except.ok.injEq] at h
  obtain ⟨body, hb, headers, -, method, -, mapping, -, url, -, rfl⟩ := h
  rcases field?_eq_ok.1 hb with ⟨-, rfl⟩ | ⟨v, o, -, ho, rfl⟩
  · simp
  · rcases option_any_eq_ok.1 ho with ⟨-, rfl⟩ | ⟨hv, rfl⟩
    · simp
    · simpa using hv

theorem SqlBinding.maxRows_of_readFields {ms : Members} {b : SqlBinding}
    (h : readFields ms = .ok b) : b.maxRows < 2 ^ 64 := by
  simp only [readFields, bind_eq_ok, pure, Except.pure, Except.ok.injEq] at h
  obtain ⟨connection, -, rows, hr, parameters, -, query, -, readOnly, -, rfl⟩ := h
  exact unsigned_field_lt hr (by norm_num)

theorem Protocol.fits_of_readFields {ms : Members} {p : Protocol}
    (h : readFields ms = .ok p) : p.Fits := by
  have hp := readFrom_of_readFields h
  cases p with
  | http b => exact HttpBinding.body_of_readFields hp
  | sql b => exact SqlBinding.maxRows_of_readFields hp
  | queue _ | grpc _ => trivial

theorem Binding.fits_of_read {v : Json} {b : Binding} (h : read v = .ok b) : b.Fits := by
  cases v with
  | obj ms =>
    simp only [read, bind_eq_ok, pure, Except.pure, Except.ok.injEq] at h
    obtain ⟨mode, -, retry, hr, timeout, ht, protocol, hp, rfl⟩ := h
    refine ⟨unsigned_field_lt ht (by norm_num), ?_, Protocol.fits_of_readFields hp⟩
    rcases field?_eq_ok.1 hr with ⟨-, rfl⟩ | ⟨w, p, -, hp, rfl⟩
    · exact ⟨by norm_num, by norm_num⟩
    · exact RetryPolicy.fits_of_read hp
  | _ => simp [read, unexpected] at h

/-! ## What is written reads back -/

theorem getD_strings (as : List (String × String)) :
    (if as.isEmpty then none else some as).getD [] = as := by
  cases as <;> rfl

namespace ResponseMapping

theorem readIn_toJson (place : Section) (m : ResponseMapping) : readIn place m.toJson = .ok m := by
  have get := Members.get?_ofList ((m.path.map fun p => ("path", Json.str p)).toList
      ++ (m.errorPath.map fun p => ("error_path", Json.str p)).toList
      ++ (if m.statusCodes.isEmpty then [] else [("status_codes", stringsJson m.statusCodes)]))
  simp only [List.reverse_append, List.lookup_append, lookup_option, lookup_unless] at get
  rw [toJson, ofPairs, readIn]
  -- What is read of the members is what `get` says of their keys.
  generalize Members.ofList _ = ms at get ⊢
  have hd : field? ms "data_path" (option Reader.string) = .ok none :=
    field?_of_none (by simp [get])
  have he : field? ms "error_path" (option Reader.string) = .ok (m.errorPath.map some) :=
    field?_option_string (by simp [get])
  have hs : field? ms "status_codes" readStrings =
      .ok (if m.statusCodes.isEmpty then none else some m.statusCodes) :=
    field?_unless (by simp [get]) (readStrings_eq_ok.2 rfl)
  have hp : alias? ms "path" "path" (option Reader.string) none = .ok (m.path.map some) := by
    rw [alias?_eq_ok]
    cases hm : m.path <;> simp [get, hm, Reader.option, Reader.string, Except.map]
  simp only [hd, he, hs, hp, bind, Except.bind, pure, Except.pure, getD_strings]
  cases m with
  | mk path error codes => cases path <;> cases error <;> rfl

theorem getD_unless (m : ResponseMapping) : (if m.isEmpty then none else some m).getD {} = m := by
  by_cases h : m.isEmpty
  · simp only [h, if_true, Option.getD_none]
    simp only [isEmpty, Bool.and_eq_true, Option.isNone_iff_eq_none, List.isEmpty_iff] at h
    cases m
    simp_all
  · simp [h]

end ResponseMapping

theorem Method.read_name (m : Method) : Method.read (.str m.name) = .ok m := by
  cases m <;> decide +kernel

theorem RetryPolicy.numberJson_of_isFinite {x : Number.Binary64} (h : x.isFinite = true) :
    numberJson x = .float x := by
  simp [numberJson, h]

theorem RetryPolicy.read_toJson {p : RetryPolicy} (h : p.Fits) (hm : p.multiplier.isFinite = true) :
    read p.toJson = .ok p := by
  have hb : unsigned 64 "u64" (.ofNat p.backoffMs) = .ok p.backoffMs :=
    unsigned_eq_ok.2 ⟨rfl, h.backoff⟩
  have ha : unsigned 32 "u32" (.ofNat p.maxAttempts) = .ok p.maxAttempts :=
    unsigned_eq_ok.2 ⟨rfl, h.attempts⟩
  rw [toJson, read, numberJson_of_isFinite hm]
  simp only [field?, alias?, Members.get?, lookup_cons_ite, List.lookup_nil, reduceIte,
    String.reduceEq, hb, ha]
  rfl

theorem HttpBinding.readFields_fields {b : HttpBinding} {ms : Members} (hb : b.body ≠ some .null)
    (get : ∀ key, key ∉ Binding.commonFields → Members.get? ms key = b.fields.reverse.lookup key) :
    readFields ms = .ok b := by
  simp only [fields, List.reverse_append, List.lookup_append, lookup_unless,
    lookup_option _ _ b.body fun t => t, List.reverse_cons, List.reverse_nil, List.nil_append,
    List.singleton_append, lookup_cons_ite, List.lookup_nil] at get
  have hbody : field? ms "body_template" (option any) = .ok (b.body.map some) := by
    have hg := get "body_template" (by decide)
    rw [field?_eq_ok]
    cases ht : b.body with
    | none => simp [hg, ht]
    | some t =>
      -- A null would be read as no body, but none is written.
      have hn : t ≠ .null := by rintro rfl; exact hb ht
      exact .inr ⟨t, some t, by simp [hg, ht], option_any_eq_ok.2 (.inr ⟨hn, rfl⟩), rfl⟩
  have hh : field? ms "headers" readStrings =
      .ok (if b.headers.isEmpty then none else some b.headers) :=
    field?_unless (by simp [get "headers" (by decide)]) (readStrings_eq_ok.2 rfl)
  have hm : field? ms "method" Method.read = .ok (some b.method) :=
    field?_of_some (by simp [get "method" (by decide)]) (Method.read_name _)
  have hr : field? ms "response_mapping" (ResponseMapping.readIn .tagged) =
      .ok (if b.mapping.isEmpty then none else some b.mapping) :=
    field?_unless (by simp [get "response_mapping" (by decide)]) (ResponseMapping.readIn_toJson _ _)
  have hu : field? ms "url" Reader.string = .ok (some b.url) :=
    field?_of_some (by simp [get "url" (by decide)]) (string_eq_ok.2 rfl)
  simp only [readFields, hbody, hh, hm, hr, hu, bind, Except.bind, pure, Except.pure, getD_strings]
  cases b with
  | mk method url headers body mapping =>
    simp only [Except.ok.injEq, HttpBinding.mk.injEq, Option.getD_some, true_and]
    exact ⟨by cases body <;> rfl, ResponseMapping.getD_unless mapping⟩

theorem QueueBinding.read_format (f : MessageFormat) :
    variant .tagged formats (.str f.name) = .ok f := by
  cases f <;> decide +kernel

theorem QueueBinding.read_provider (p : Provider) :
    variant .tagged providers (.str p.name) = .ok p := by
  cases p <;> decide +kernel

theorem Binding.read_mode (m : Mode) : variant .plain modes (.str m.name) = .ok m := by
  cases m <;> decide +kernel

theorem QueueBinding.readFields_fields {b : QueueBinding} {ms : Members}
    (get : ∀ key, key ∉ Binding.commonFields → Members.get? ms key = b.fields.reverse.lookup key) :
    readFields ms = .ok b := by
  simp only [fields, List.lookup_append, lookup_unless, List.reverse_cons, List.nil_append,
    List.cons_append, lookup_cons_ite, List.lookup_nil] at get
  have hc : field? ms "connection" Reader.string = .ok (some b.connection) :=
    field?_of_some (by simp [get "connection" (by decide)]) (string_eq_ok.2 rfl)
  have hf : field? ms "format" (variant .tagged formats) = .ok (some b.format) :=
    field?_of_some (by simp [get "format" (by decide)]) (read_format _)
  have hh : field? ms "headers" readStrings =
      .ok (if b.headers.isEmpty then none else some b.headers) :=
    field?_unless (by simp [get "headers" (by decide)]) (readStrings_eq_ok.2 rfl)
  have hp : field? ms "provider" (variant .tagged providers) = .ok (some b.provider) :=
    field?_of_some (by simp [get "provider" (by decide)]) (read_provider _)
  have ht : field? ms "topic" Reader.string = .ok (some b.topic) :=
    field?_of_some (by simp [get "topic" (by decide)]) (string_eq_ok.2 rfl)
  simp only [readFields, hc, hf, hh, hp, ht, bind, Except.bind, pure, Except.pure, getD_strings]
  rfl

theorem SqlBinding.readFields_fields {b : SqlBinding} {ms : Members} (hb : b.maxRows < 2 ^ 64)
    (get : ∀ key, key ∉ Binding.commonFields → Members.get? ms key = b.fields.reverse.lookup key) :
    readFields ms = .ok b := by
  simp only [fields, List.lookup_append, lookup_unless, List.reverse_cons, List.nil_append,
    List.cons_append, lookup_cons_ite, List.lookup_nil] at get
  have hc : field? ms "connection" Reader.string = .ok (some b.connection) :=
    field?_of_some (by simp [get "connection" (by decide)]) (string_eq_ok.2 rfl)
  have hm : field? ms "max_rows" (unsigned 64 "usize") = .ok (some b.maxRows) :=
    field?_of_some (by simp [get "max_rows" (by decide)]) (unsigned_eq_ok.2 ⟨rfl, hb⟩)
  have hp : field? ms "parameter_mapping" readStrings =
      .ok (if b.parameters.isEmpty then none else some b.parameters) :=
    field?_unless (by simp [get "parameter_mapping" (by decide)]) (readStrings_eq_ok.2 rfl)
  have hq : field? ms "query" Reader.string = .ok (some b.query) :=
    field?_of_some (by simp [get "query" (by decide)]) (string_eq_ok.2 rfl)
  have hr : field? ms "read_only" Reader.bool = .ok (some b.readOnly) :=
    field?_of_some (by simp [get "read_only" (by decide)]) (bool_eq_ok.2 rfl)
  simp only [readFields, hc, hm, hp, hq, hr, bind, Except.bind, pure, Except.pure, getD_strings]
  rfl

theorem GrpcBinding.readFields_fields {b : GrpcBinding} {ms : Members}
    (get : ∀ key, key ∉ Binding.commonFields → Members.get? ms key = b.fields.reverse.lookup key) :
    readFields ms = .ok b := by
  simp only [fields, List.reverse_cons, List.reverse_nil, List.nil_append, List.cons_append,
    lookup_cons_ite, List.lookup_nil] at get
  have he : field? ms "endpoint" Reader.string = .ok (some b.endpoint) :=
    field?_of_some (by simp [get "endpoint" (by decide)]) (string_eq_ok.2 rfl)
  have hm : field? ms "method" Reader.string = .ok (some b.method) :=
    field?_of_some (by simp [get "method" (by decide)]) (string_eq_ok.2 rfl)
  have hs : field? ms "service" Reader.string = .ok (some b.service) :=
    field?_of_some (by simp [get "service" (by decide)]) (string_eq_ok.2 rfl)
  simp only [readFields, he, hm, hs, bind, Except.bind, pure, Except.pure]
  rfl

theorem Protocol.readFields_fields {p : Protocol} {ms : Members} (hp : p.Fits)
    (ht : Members.get? ms "type" = some (.str p.typeName))
    (get : ∀ key, key ∉ Binding.commonFields → Members.get? ms key = p.fields.reverse.lookup key) :
    readFields ms = .ok p := by
  have hn : readType ms = .ok p.typeName := by
    simp only [readType, ht]
    cases p <;> rfl
  simp only [readFields, hn, bind, Except.bind]
  cases p with
  | http b => simp [typeName, HttpBinding.readFields_fields hp get, Except.map]
  | queue b => simp [typeName, QueueBinding.readFields_fields get, Except.map]
  | sql b => simp [typeName, SqlBinding.readFields_fields hp get, Except.map]
  | grpc b => simp [typeName, GrpcBinding.readFields_fields get, Except.map]

/-! ## The whole binding -/

namespace Binding

/-- The fields that are written of every binding. -/
def commonMembers (b : Binding) : Members :=
  [("type", .str b.typeName), ("mode", .str b.mode.name), ("timeout_ms", .ofNat b.timeoutMs),
    ("retry", b.retry.toJson)]

/-- The members that a binding is written as. -/
def members (b : Binding) : Members := Members.ofList (b.commonMembers ++ b.protocol.fields)

theorem toJson_eq (b : Binding) : b.toJson = .obj b.members := rfl

theorem key_of_mem_fields {p : Protocol} {m : String × Json} (h : m ∈ p.fields) :
    m.1 ∈ protocolFields p.typeName := by
  cases p with
  | http b =>
    simp only [Protocol.fields, HttpBinding.fields, List.mem_append, List.mem_cons,
      List.not_mem_nil, or_false, Option.mem_toList, Option.map_eq_some_iff] at h
    rcases h with (((rfl | rfl) | h) | ⟨t, -, rfl⟩) | h
    iterate 2 simp [protocolFields, Protocol.typeName]
    · obtain ⟨-, rfl⟩ := mem_unless h
      simp [protocolFields, Protocol.typeName]
    · simp [protocolFields, Protocol.typeName]
    · obtain ⟨-, rfl⟩ := mem_unless h
      simp [protocolFields, Protocol.typeName]
  | queue b =>
    simp only [Protocol.fields, QueueBinding.fields, List.mem_append, List.mem_cons,
      List.not_mem_nil, or_false] at h
    rcases h with (rfl | rfl | rfl | rfl) | h
    iterate 4 simp [protocolFields, Protocol.typeName]
    · obtain ⟨-, rfl⟩ := mem_unless h
      simp [protocolFields, Protocol.typeName]
  | sql b =>
    simp only [Protocol.fields, SqlBinding.fields, List.mem_append, List.mem_cons,
      List.not_mem_nil, or_false] at h
    rcases h with (rfl | rfl | rfl | rfl) | h
    iterate 4 simp [protocolFields, Protocol.typeName]
    · obtain ⟨-, rfl⟩ := mem_unless h
      simp [protocolFields, Protocol.typeName]
  | grpc b =>
    simp only [Protocol.fields, GrpcBinding.fields, List.mem_cons, List.not_mem_nil,
      or_false] at h
    rcases h with rfl | rfl | rfl <;> simp [protocolFields, Protocol.typeName]

theorem not_common_of_protocolFields {type key : String} (h : key ∈ protocolFields type) :
    key ∉ commonFields := by
  have main : ∀ key ∈ protocolFields "http" ++ protocolFields "queue" ++ protocolFields "sql"
      ++ protocolFields "grpc", key ∉ commonFields := by decide
  refine main key ?_
  simp only [List.mem_append]
  unfold protocolFields at h
  split at h
  · exact .inl (.inl (.inl h))
  split at h
  · exact .inl (.inl (.inr h))
  split at h
  · exact .inl (.inr h)
  · exact .inr h

theorem get?_members_common {b : Binding} {key : String} (h : key ∈ commonFields) :
    Members.get? b.members key = b.commonMembers.reverse.lookup key := by
  have hn : b.protocol.fields.reverse.lookup key = none := by
    rw [List.lookup_eq_none_iff]
    intro m hm
    have hk := not_common_of_protocolFields (key_of_mem_fields (List.mem_reverse.1 hm))
    exact bne_iff_ne.2 fun he => hk (he ▸ h)
  rw [members, Members.get?_ofList, List.reverse_append, List.lookup_append, hn, Option.none_or]

theorem get?_members_protocol {b : Binding} {key : String} (h : key ∉ commonFields) :
    Members.get? b.members key = b.protocol.fields.reverse.lookup key := by
  have hn : b.commonMembers.reverse.lookup key = none := by
    simp only [commonFields, List.mem_cons, List.not_mem_nil, or_false, not_or] at h
    simp [commonMembers, lookup_cons_ite, h]
  rw [members, Members.get?_ofList, List.reverse_append, List.lookup_append, hn, Option.or_none]

/-- A binding that fits is read back as it was written. -/
theorem read_toJson {b : Binding} (h : b.Fits) (hm : b.retry.multiplier.isFinite = true) :
    read b.toJson = .ok b := by
  have get (key : String) (hk : key ∈ commonFields) := get?_members_common (b := b) hk
  simp only [commonMembers, List.reverse_cons, List.reverse_nil, List.nil_append, List.cons_append,
    lookup_cons_ite, List.lookup_nil] at get
  have hmode : field? b.members "mode" (variant .plain modes) = .ok (some b.mode) :=
    field?_of_some (by simp [get "mode" (by decide)]) (read_mode _)
  have hretry : field? b.members "retry" RetryPolicy.read = .ok (some b.retry) :=
    field?_of_some (by simp [get "retry" (by decide)]) (RetryPolicy.read_toJson h.retry hm)
  have htimeout : field? b.members "timeout_ms" (unsigned 64 "u64") = .ok (some b.timeoutMs) :=
    field?_of_some (by simp [get "timeout_ms" (by decide)]) (unsigned_eq_ok.2 ⟨rfl, h.timeout⟩)
  have hprotocol : Protocol.readFields b.members = .ok b.protocol :=
    Protocol.readFields_fields h.protocol (by simp [get "type" (by decide), typeName])
      fun key hk => get?_members_protocol hk
  simp only [toJson_eq, read, hmode, hretry, htimeout, hprotocol, bind, Except.bind, pure,
    Except.pure]
  rfl

/-! ## Its check -/

theorem declaredType_members (b : Binding) : declaredType b.members = .ok b.typeName := by
  have ht : Members.get? b.members "type" = some (.str b.typeName) := by
    rw [get?_members_common (by decide)]
    simp [commonMembers, lookup_cons_ite]
  have hs : b.typeName ∈ supportedTypes := by
    unfold typeName
    cases b.protocol <;> simp [Protocol.typeName, supportedTypes]
  simp [declaredType, ht, hs]

theorem unknownInSection_retry (b : Binding) :
    unknownInSection b.members "retry"
      ["max_attempts", "backoff_ms", "backoff_multiplier", "multiplier"] = [] := by
  have hr : Members.get? b.members "retry" = some b.retry.toJson := by
    rw [get?_members_common (by decide)]
    simp [commonMembers]
  simp [unknownInSection, hr, RetryPolicy.toJson, Members.keys]

theorem mapping_of_mem_fields {p : Protocol} {v : Json} (h : ("response_mapping", v) ∈ p.fields) :
    ∃ m : ResponseMapping, v = m.toJson := by
  cases p with
  | http b =>
    simp only [Protocol.fields, HttpBinding.fields, List.mem_append, List.mem_cons,
      List.not_mem_nil, or_false, Option.mem_toList, Option.map_eq_some_iff, Prod.mk.injEq,
      String.reduceEq, false_and, and_false, exists_const, false_or] at h
    rcases h with h | h
    · simpa using mem_unless h
    · obtain ⟨-, h⟩ := mem_unless h
      exact ⟨b.mapping, by simpa using h⟩
  | queue b =>
    simp only [Protocol.fields, QueueBinding.fields, List.mem_append, List.mem_cons,
      List.not_mem_nil, or_false, Prod.mk.injEq, String.reduceEq, false_and, false_or] at h
    simpa using mem_unless h
  | sql b =>
    simp only [Protocol.fields, SqlBinding.fields, List.mem_append, List.mem_cons,
      List.not_mem_nil, or_false, Prod.mk.injEq, String.reduceEq, false_and, false_or] at h
    simpa using mem_unless h
  | grpc b => simp [Protocol.fields, GrpcBinding.fields] at h

theorem unknownInSection_mapping (b : Binding) :
    unknownInSection b.members "response_mapping"
      ["path", "data_path", "error_path", "status_codes"] = [] := by
  unfold unknownInSection
  split
  · -- The section is there, so it is the one that the protocol writes.
    rename_i inner hg
    have hm : ("response_mapping", .obj inner) ∈ b.protocol.fields := by
      rcases List.mem_append.1 (Members.mem_ofList (Members.get?_mem hg)) with h | h
      · simp [commonMembers] at h
      · exact h
    obtain ⟨m, hm⟩ := mapping_of_mem_fields hm
    rw [ResponseMapping.toJson, ofPairs, Json.obj.injEq] at hm
    subst hm
    rw [List.map_eq_nil_iff, List.filter_eq_nil_iff]
    intro key hk
    obtain ⟨q, hq, rfl⟩ := List.mem_map.1 (Members.keys_ofList hk)
    simp only [List.mem_append, Option.mem_toList, Option.map_eq_some_iff] at hq
    rcases hq with (⟨t, -, rfl⟩ | ⟨t, -, rfl⟩) | hq
    · simp
    · simp
    · obtain ⟨-, rfl⟩ := mem_unless hq
      simp
  · rfl

theorem unknownFields_members (b : Binding) : unknownFields b.typeName b.members = [] := by
  have hk : ∀ key ∈ Members.keys b.members,
      key ∈ commonFields ∨ key ∈ protocolFields b.typeName := by
    intro key hk
    obtain ⟨m, hm, rfl⟩ := List.mem_map.1 (Members.keys_ofList hk)
    rcases List.mem_append.1 hm with hm | hm
    · left
      simp only [commonMembers, List.mem_cons, List.not_mem_nil, or_false] at hm
      rcases hm with rfl | rfl | rfl | rfl <;> simp [commonFields]
    · exact .inr (key_of_mem_fields hm)
  simp only [unknownFields, sectionFields, List.flatMap_cons, List.flatMap_nil,
    unknownInSection_retry, unknownInSection_mapping, List.append_nil, List.map_eq_nil_iff,
    List.filter_eq_nil_iff]
  intro key hmem
  rcases hk key hmem with h | h <;> simp [h]

/-- Checking what a binding is written as is checking the binding once more. -/
theorem analyze_toJson {b : Binding} (h : b.Fits) (hm : b.retry.multiplier.isFinite = true)
    (mode : Validation) : analyze b.toJson mode = (some b, b.report mode) := by
  have hr : read (.obj b.members) = .ok b := read_toJson h hm
  simp [toJson_eq, analyze, analyzeMembers, declaredType_members, hr, unknownFields_members,
    report]

theorem parse_toJson_of_report {b : Binding} (h : b.Fits)
    (hm : b.retry.multiplier.isFinite = true) {mode : Validation}
    (he : (b.report mode).errors = []) :
    parse b.toJson mode = .ok (b, (b.report mode).warnings) := by
  simp [parse, analyze_toJson h hm, Report.result, he]

theorem parse_eq_ok {raw : Json} {mode : Validation} {b : Binding} {warnings : List String} :
    parse raw mode = .ok (b, warnings) ↔
      ∃ r, analyze raw mode = (some b, r) ∧ r.errors = [] ∧ warnings = r.warnings := by
  unfold parse
  rcases analyze raw mode with ⟨o, r⟩
  simp only [Report.result, Prod.mk.injEq]
  by_cases he : r.errors = []
  · cases o <;> simp [he, eq_comm]
  · simp only [List.isEmpty_iff, he, if_false]
    refine ⟨nofun, ?_⟩
    rintro ⟨_, ⟨-, rfl⟩, h, -⟩
    exact absurd h he

theorem analyzeMembers_eq_some {ms : Members} {b : Binding} {errors : List String}
    (h : analyzeMembers ms = (some b, errors)) :
    read (.obj ms) = .ok b ∧ ∃ type, errors = unknownFields type ms ++ b.structuralErrors := by
  unfold analyzeMembers at h
  split at h
  · cases h
  · rename_i type _
    split at h
    · rename_i b' hr
      cases h
      exact ⟨hr, type, rfl⟩
    · cases h

theorem structuralErrors_of_report {b : Binding} {mode : Validation}
    (h : (b.report mode).errors = []) : b.structuralErrors = [] := by
  rw [report, Report.errors_addFindings] at h
  exact (List.append_eq_nil_iff.1 h).1

/-- What it takes for a declaration to be accepted. -/
theorem parse_ok {raw : Json} {mode : Validation} {b : Binding} {warnings : List String}
    (h : parse raw mode = .ok (b, warnings)) :
    read raw = .ok b ∧ b.structuralErrors = [] ∧ (mode = .strict → Leak.findings raw = []) := by
  obtain ⟨r, ha, he, -⟩ := parse_eq_ok.1 h
  cases raw with
  | obj ms =>
    simp only [analyze, Prod.mk.injEq] at ha
    obtain ⟨hb, rfl⟩ := ha
    obtain ⟨hr, type, hu⟩ := analyzeMembers_eq_some (Prod.ext hb rfl)
    simp only [Report.errors_addFindings, hu, List.append_eq_nil_iff] at he
    exact ⟨hr, he.1.2, fun hm => by simpa only [hm, if_true] using he.2⟩
  | _ => simp [analyze] at ha

theorem isFinite_of_structuralErrors {b : Binding} (h : b.structuralErrors = []) :
    b.retry.multiplier.isFinite = true := by
  simp only [structuralErrors, List.append_eq_nil_iff] at h
  have hg := h.1.2
  cases hm : b.retry.multiplier <;> simp_all [RetryPolicy.isGrowth, Number.Binary64.isFinite]

/-- An accepted binding passes its check again, in whichever mode it runs. -/
theorem report_of_parse {raw : Json} {mode : Validation} {b : Binding} {warnings : List String}
    (h : parse raw mode = .ok (b, warnings)) (m : Mode) :
    (({ b with mode := m } : Binding).report mode).errors = [] := by
  obtain ⟨hr, hs, hf⟩ := parse_ok h
  have hs' : ({ b with mode := m } : Binding).structuralErrors = [] := hs
  cases mode with
  | strict =>
    have hc := Leak.clean_toJson hr (Leak.findings_eq_nil.1 (hf rfl)) m
    simp [report, Report.addFindings, hs', Leak.findings_eq_nil.2 hc]
  | lenient => simp [report, Report.addFindings, hs']

/-- What an accepted declaration is written as is accepted as the same binding. -/
theorem parse_toJson {raw : Json} {mode : Validation} {b : Binding} {warnings : List String}
    (h : parse raw mode = .ok (b, warnings)) :
    ∃ c warnings', parse b.toJson mode = .ok (c, warnings') ∧ c = b ∧ c.toJson = b.toJson := by
  obtain ⟨hr, hs, -⟩ := parse_ok h
  exact ⟨b, _, parse_toJson_of_report (fits_of_read hr) (isFinite_of_structuralErrors hs)
    (report_of_parse h b.mode), rfl, rfl⟩


set_option maxRecDepth 10000 in
/-- A call with its method in small letters, its retries by position and a path by its
second name is accepted, and so is what it is written as. -/
theorem parse_toJson_positional :
    ∃ b, parse (.ofPairs [("type", .str "http"), ("method", .str "post"),
        ("url", .str "https://x.example/{id}"), ("retry", .arr [.int 5, .int 10, .int 2]),
        ("headers", .obj [("Authorization", .str "Bearer $\x7bTOKEN\x7d")]),
        ("response_mapping", .obj [("data_path", .str "total")])]) .strict = .ok (b, []) ∧
      ∃ c warnings, parse b.toJson .strict = .ok (c, warnings) ∧ c = b ∧ c.toJson = b.toJson := by
  refine ⟨{ protocol := .http
              { method := .post, url := "https://x.example/{id}",
                headers := [("Authorization", "Bearer $\x7bTOKEN\x7d")],
                mapping := { path := some "total" } },
            retry := { maxAttempts := 5, backoffMs := 10 } }, ?accepted, parse_toJson ?accepted⟩
  rfl

end Binding
end Toolwire
