import Mathlib
import Toolwire.Credential.Store
import Toolwire.Proofs.Credential.Resolution
import Toolwire.Proofs.Manifest.Agreement
import Toolwire.Proofs.Manifest.Registration
import Toolwire.Proofs.Secret.Reference
import Toolwire.Proofs.Tool.Stages
/-!
# Connections that are written out

The rule that a connection refers to a credential and writes none out is kept twice: by the check of
a declaration, and by whatever resolves the connection in a run. Both refuse the same texts, in both
modes and whatever the resolver: `connection_agrees`.
-/
namespace Toolwire

open Json Json.Reader

/-! ## One member among others -/

namespace Members

variable {α : Type} {key : String}

/-- A member of a key has a place of its own, the same for every value. -/
def Around (key : String) (f : α → List (String × α)) : Prop :=
  ∃ before after, ∀ v, f v = before ++ (key, v) :: after

theorem around_insert (ms : List (String × α)) (key : String) : Around key (insert ms key) := by
  induction ms with
  | nil => exact ⟨[], [], fun v => rfl⟩
  | cons m rest ih =>
    obtain ⟨k, x⟩ := m
    by_cases heq : k = key
    · exact ⟨[], rest, fun v => by simp [insert, heq]⟩
    by_cases hlt : key < k
    · exact ⟨[], (k, x) :: rest, fun v => by simp [insert, heq, hlt]⟩
    obtain ⟨before, after, h⟩ := ih
    exact ⟨(k, x) :: before, after, fun v => by simp [insert, heq, hlt, h]⟩

theorem Around.insert_of_ne {f : α → List (String × α)} (hf : Around key f) {other : String}
    (h : other ≠ key) (x : α) : Around key fun v => insert (f v) other x := by
  obtain ⟨before, after, hf⟩ := hf
  simp only [hf]
  clear hf
  induction before with
  | nil =>
    by_cases hlt : other < key
    · exact ⟨[(other, x)], after, fun v => by simp [insert, h.symm, hlt]⟩
    · exact ⟨[], insert after other x, fun v => by simp [insert, h.symm, hlt]⟩
  | cons m before ih =>
    obtain ⟨k, y⟩ := m
    by_cases heq : k = other
    · exact ⟨(other, x) :: before, after, fun v => by simp [insert, heq]⟩
    by_cases hlt : other < k
    · exact ⟨(other, x) :: (k, y) :: before, after, fun v => by simp [insert, heq, hlt]⟩
    obtain ⟨before', after', ih⟩ := ih
    exact ⟨(k, y) :: before', after', fun v => by simp [insert, heq, hlt, ih]⟩

theorem around_ofList (before : List (String × α)) {after : List (String × α)}
    (h : key ∉ keys after) : Around key fun v => ofList (before ++ (key, v) :: after) := by
  have main : ∀ (after : List (String × α)) (f : α → List (String × α)), Around key f →
      key ∉ keys after →
      Around key fun v => after.foldl (fun ms p => insert ms p.1 p.2) (f v) := by
    intro after
    induction after with
    | nil => exact fun f hf _ => hf
    | cons p after ih =>
      intro f hf h
      rw [keys, List.map_cons, List.mem_cons, not_or] at h
      exact ih _ (hf.insert_of_ne (Ne.symm h.1) p.2) h.2
  simp only [ofList, List.foldl_append, List.foldl_cons]
  exact main after _ (around_insert _ key) h

theorem Around.keys_eq {f : α → List (String × α)} (hf : Around key f) (v w : α) :
    keys (f v) = keys (f w) := by
  obtain ⟨before, after, hf⟩ := hf
  simp [hf, keys]

end Members

/-! ## Declarations of a connection -/

/-- A declaration with a text as its connection. -/
def declaring (ms : Members) (text : String) : Members := Members.insert ms "connection" (.str text)

/-- A protocol over another connection. -/
def Protocol.withConnection (text : String) : Protocol → Protocol
  | .queue q => .queue { q with connection := text }
  | .sql q => .sql { q with connection := text }
  | p => p

/-- A binding over another connection. -/
def Binding.withConnection (b : Binding) (text : String) : Binding :=
  { b with protocol := b.protocol.withConnection text }

/-- Bindings of a protocol run over a connection. -/
def Protocol.Connects : Protocol → Prop
  | .queue _ | .sql _ => True
  | .http _ | .grpc _ => False

section
variable {ms : Members}

theorem field?_declaring {α : Type} {key : String} (h : key ≠ "connection") (r : Reader α)
    (text : String) : field? (declaring ms text) key r = field? ms key r := by
  unfold field? declaring
  rw [Members.get?_insert_of_ne _ _ h]

theorem field?_connection (text : String) :
    field? (declaring ms text) "connection" Reader.string = .ok (some text) := by
  unfold field? declaring
  rw [Members.get?_insert_self]
  rfl

theorem QueueBinding.readFields_declaring (v w : String) :
    readFields (declaring ms v) =
      (readFields (declaring ms w)).map fun q => { q with connection := v } := by
  unfold readFields
  simp only [field?_connection, field?_declaring, ne_eq, not_false_eq_true, String.reduceEq]
  cases field? ms "format" (variant .tagged formats) with
  | error e => rfl
  | ok format =>
    cases field? ms "headers" readStrings with
    | error e => rfl
    | ok headers =>
      cases field? ms "provider" (variant .tagged providers) with
      | error e => rfl
      | ok provider =>
        cases field? ms "topic" Reader.string with
        | error e => rfl
        | ok topic => cases provider <;> rfl

theorem SqlBinding.readFields_declaring (v w : String) :
    readFields (declaring ms v) =
      (readFields (declaring ms w)).map fun q => { q with connection := v } := by
  unfold readFields
  simp only [field?_connection, field?_declaring, ne_eq, not_false_eq_true, String.reduceEq]
  cases field? ms "max_rows" (unsigned 64 "usize") with
  | error e => rfl
  | ok rows =>
    cases field? ms "parameter_mapping" readStrings with
    | error e => rfl
    | ok parameters =>
      cases field? ms "query" Reader.string with
      | error e => rfl
      | ok query => cases field? ms "read_only" Reader.bool <;> rfl

theorem HttpBinding.readFields_declaring (v : String) :
    readFields (declaring ms v) = readFields ms := by
  unfold readFields
  simp only [field?_declaring, ne_eq, not_false_eq_true, String.reduceEq]

theorem GrpcBinding.readFields_declaring (v : String) :
    readFields (declaring ms v) = readFields ms := by
  unfold readFields
  simp only [field?_declaring, ne_eq, not_false_eq_true, String.reduceEq]

theorem Protocol.readFields_declaring (v w : String) :
    readFields (declaring ms v) = (readFields (declaring ms w)).map (withConnection v) := by
  have type : ∀ text, readType (declaring ms text) = readType ms := by
    intro text
    unfold readType declaring
    rw [Members.get?_insert_of_ne _ _ (by decide)]
  unfold readFields
  rw [type, type, QueueBinding.readFields_declaring v w, SqlBinding.readFields_declaring v w,
    HttpBinding.readFields_declaring, HttpBinding.readFields_declaring,
    GrpcBinding.readFields_declaring, GrpcBinding.readFields_declaring]
  cases readType ms with
  | error e => rfl
  | ok name =>
    simp only [bind, Except.bind]
    split
    · cases HttpBinding.readFields ms <;> rfl
    split
    · cases QueueBinding.readFields (declaring ms w) <;> rfl
    split
    · cases SqlBinding.readFields (declaring ms w) <;> rfl
    · cases GrpcBinding.readFields ms <;> rfl

/-- The connection is read as it stands, and nothing else depends on it. -/
theorem Binding.read_declaring (v w : String) :
    read (.obj (declaring ms v)) =
      (read (.obj (declaring ms w))).map fun b => b.withConnection v := by
  unfold read
  simp only [field?_declaring, ne_eq, not_false_eq_true, String.reduceEq]
  rw [Protocol.readFields_declaring v w]
  cases field? ms "mode" (variant .plain modes) with
  | error e => rfl
  | ok mode =>
    cases field? ms "retry" RetryPolicy.read with
    | error e => rfl
    | ok retry =>
      cases field? ms "timeout_ms" (unsigned 64 "u64") with
      | error e => rfl
      | ok timeout => cases Protocol.readFields (declaring ms w) <;> rfl

end

/-! ## What is found in a connection -/

/-- The name of the field is no name of a credential, so what is found in the text is all. -/
theorem Leak.memberFindings_connection (text : String) :
    memberFindings "" true "connection" (.str text) =
      describe "connection" (Secret.detect text) := by
  have keyed : (true && !unkeyedSections.contains "connection") = true := by decide
  have path : memberPath "" "connection" = "connection" := by decide
  have plain : Secret.isSensitiveKey "connection" = false := by decide +kernel
  have field : Secret.detectField "connection" text = Secret.detect text := by
    unfold Secret.detectField Secret.detectFieldChars Secret.detect
    rw [plain]
    cases Secret.detectChars text.toList <;> rfl
  simp only [memberFindings, keyed, path, field, if_true]

/-- If nothing is found with one connection, then with another what is found is in it. -/
theorem Leak.findings_around {f : Json → Members} (hf : Members.Around "connection" f) {w : String}
    (hw : findings (.obj (f (.str w))) = []) (v : String) :
    findings (.obj (f (.str v))) = describe "connection" (Secret.detect v) := by
  obtain ⟨before, after, hf⟩ := hf
  have parts (text : String) : findings (.obj (f (.str text))) =
      walkMembers "" true before ++ (describe "connection" (Secret.detect text)
        ++ walkMembers "" true after) := by
    rw [findings, walk, hf, walkMembers_eq_flatMap, List.flatMap_append, List.flatMap_cons,
      memberFindings_connection, ← walkMembers_eq_flatMap, ← walkMembers_eq_flatMap]
  rw [parts, List.append_eq_nil_iff, List.append_eq_nil_iff] at hw
  rw [parts, hw.1, hw.2.2, List.nil_append, List.append_nil]

namespace Binding

variable {b : Binding}

/-- A binding is written with its connection in one place. -/
theorem around_members (hc : b.protocol.Connects) :
    ∃ f, Members.Around "connection" f
      ∧ ∀ text, (b.withConnection text).toJson = .obj (f (.str text)) := by
  have pairs : ∃ before after, "connection" ∉ Members.keys after ∧ ∀ text,
      (b.withConnection text).commonMembers ++ (b.withConnection text).protocol.fields =
        before ++ ("connection", .str text) :: after := by
    obtain ⟨protocol, mode, timeout, retry⟩ := b
    cases protocol with
    | queue q =>
      refine ⟨commonMembers ⟨.queue q, mode, timeout, retry⟩
          ++ [("provider", .str q.provider.name)],
        [("topic", .str q.topic), ("format", .str q.format.name)]
          ++ (if q.headers.isEmpty then [] else [("headers", stringsJson q.headers)]),
        ?_, fun text => rfl⟩
      cases q.headers.isEmpty <;> simp [Members.keys]
    | sql q =>
      refine ⟨commonMembers ⟨.sql q, mode, timeout, retry⟩,
        [("query", .str q.query), ("read_only", .bool q.readOnly), ("max_rows", .ofNat q.maxRows)]
          ++ (if q.parameters.isEmpty then []
            else [("parameter_mapping", stringsJson q.parameters)]),
        ?_, fun text => rfl⟩
      cases q.parameters.isEmpty <;> simp [Members.keys]
    | http h => exact hc.elim
    | grpc g => exact hc.elim
  obtain ⟨before, after, hafter, hpairs⟩ := pairs
  refine ⟨fun v => Members.ofList (before ++ ("connection", v) :: after),
    Members.around_ofList before hafter, fun text => ?_⟩
  rw [toJson_eq, members, hpairs]

/-- Of the problems of a binding without any, only those of its connection can come back. -/
theorem structuralErrors_withConnection (hc : b.protocol.Connects) (h : b.structuralErrors = [])
    (text : String) :
    (b.withConnection text).structuralErrors =
      credentialFieldErrors b.typeName "connection" text := by
  obtain ⟨common, hp⟩ := List.append_eq_nil_iff.1 h
  have rest : protocolErrors (b.protocol.withConnection text) =
      credentialFieldErrors b.typeName "connection" text := by
    rw [typeName]
    cases hb : b.protocol with
    | queue q =>
      rw [hb] at hp
      obtain ⟨-, topic⟩ := List.append_eq_nil_iff.1 hp
      exact (congrArg (credentialFieldErrors "queue" "connection" text ++ ·) topic).trans
        (List.append_nil _)
    | sql q =>
      rw [hb] at hp
      obtain ⟨hp, query⟩ := List.append_eq_nil_iff.1 hp
      obtain ⟨-, rows⟩ := List.append_eq_nil_iff.1 hp
      calc sqlErrors { q with connection := text }
          = credentialFieldErrors "sql" "connection" text ++ [] ++ [] :=
            congrArg₂ (credentialFieldErrors "sql" "connection" text ++ · ++ ·) rows query
        _ = credentialFieldErrors "sql" "connection" text := by
          rw [List.append_nil, List.append_nil]
    | http h => simp [hb, Protocol.Connects] at hc
    | grpc g => simp [hb, Protocol.Connects] at hc
  calc (b.withConnection text).structuralErrors
      = [] ++ protocolErrors (b.protocol.withConnection text) :=
        congrArg (· ++ protocolErrors (b.protocol.withConnection text)) common
    _ = credentialFieldErrors b.typeName "connection" text := by rw [List.nil_append, rest]

theorem unknownFields_declaring (type : String) (ms : Members) (v w : String) :
    unknownFields type (declaring ms v) = unknownFields type (declaring ms w) := by
  have keys : Members.keys (declaring ms v) = Members.keys (declaring ms w) :=
    (Members.around_insert ms "connection").keys_eq _ _
  have inSection (name : String) (allowed : List String) (h : name ≠ "connection") :
      unknownInSection (declaring ms v) name allowed =
        unknownInSection (declaring ms w) name allowed := by
    unfold unknownInSection declaring
    rw [Members.get?_insert_of_ne _ _ h, Members.get?_insert_of_ne _ _ h]
  simp only [unknownFields, keys, sectionFields, List.flatMap_cons, List.flatMap_nil,
    inSection "retry" _ (by decide), inSection "response_mapping" _ (by decide)]

/-! ## The check of a declaration -/

/-- The errors of a declaration that is in order but for its connection. -/
def connectionErrors (type : String) (mode : Validation) (text : String) : List String :=
  credentialFieldErrors type "connection" text
    ++ (if mode = .strict then Leak.describe "connection" (Secret.detect text) else [])

section
variable {ms : Members} {w : String} {mode : Validation} {warnings : List String}

theorem read_of_parse_declaring (h : parse (.obj (declaring ms w)) mode = .ok (b, warnings))
    (v : String) : read (.obj (declaring ms v)) = .ok (b.withConnection v) := by
  rw [read_declaring v w, (parse_ok h).1]
  rfl

/-- The connection that was read is the declared one. -/
theorem withConnection_of_parse (h : parse (.obj (declaring ms w)) mode = .ok (b, warnings)) :
    b.withConnection w = b :=
  Except.ok.inj ((read_of_parse_declaring h w).symm.trans (parse_ok h).1)

theorem check_declaring (h : parse (.obj (declaring ms w)) mode = .ok (b, warnings))
    (hc : b.protocol.Connects) (v : String) :
    (check (.obj (declaring ms v)) mode).errors = connectionErrors b.typeName mode v := by
  obtain ⟨hr, hs, hf⟩ := parse_ok h
  obtain ⟨type, known⟩ := known_of_parse h
  have type : declaredType (declaring ms v) = .ok b.typeName := by
    rw [← type]
    unfold declaredType declaring
    rw [Members.get?_insert_of_ne _ _ (by decide), Members.get?_insert_of_ne _ _ (by decide)]
  have members : (analyzeMembers (declaring ms v)).2 =
      credentialFieldErrors b.typeName "connection" v := by
    unfold analyzeMembers
    simp only [type, read_of_parse_declaring h v]
    rw [unknownFields_declaring _ ms v w, known, List.nil_append,
      structuralErrors_withConnection hc hs]
  unfold check analyze connectionErrors
  rw [Report.errors_addFindings, members]
  congr 1
  refine ite_congr rfl (fun strict => ?_) fun _ => rfl
  exact Leak.findings_around (Members.around_insert ms "connection") (hf strict) v

theorem report_withConnection (h : parse (.obj (declaring ms w)) mode = .ok (b, warnings))
    (hc : b.protocol.Connects) (v : String) :
    ((b.withConnection v).report mode).errors = connectionErrors b.typeName mode v := by
  obtain ⟨hr, hs, hf⟩ := parse_ok h
  unfold report connectionErrors
  rw [Report.errors_addFindings, structuralErrors_withConnection hc hs]
  congr 1
  refine ite_congr rfl (fun strict => ?_) fun _ => rfl
  obtain ⟨f, around, written⟩ := around_members hc
  have clean : Leak.findings (.obj (f (.str w))) = [] := by
    rw [← written, withConnection_of_parse h]
    exact Leak.findings_eq_nil.2 (Leak.clean_toJson hr (Leak.findings_eq_nil.1 (hf strict)) b.mode)
  rw [written]
  exact Leak.findings_around around clean v

end
end Binding

/-! ## The rule in a run -/

/-- A source that fails does so for reasons of its own: it never says of what it is asked for that
it is written out. -/
def Source.Honest (s : Source) : Prop :=
  ∀ name field reason, s name ≠ .error (.plaintextSecret field reason)

theorem Source.honest_ofMap (values : List (String × String)) : (ofMap values).Honest := by
  intro name field reason h
  cases h

theorem CredentialStore.honest_source (cipher : Crypto.Cipher) (key : ByteArray) (f : Folder) :
    (source cipher key f).Honest := by
  intro name field reason h
  unfold source at h
  split at h <;> cases h

namespace Resolver

variable {r : Resolver} {field text reason : String}

/-- All sources of a resolver are honest. -/
def Honest (r : Resolver) : Prop := ∀ source ∈ r.chain, source.Honest

theorem Honest.lookup_ne (hr : r.Honest) (name : String) :
    r.lookup name ≠ .error (.plaintextSecret field reason) := by
  have main : ∀ sources : List Source, (∀ source ∈ sources, source.Honest) →
      firstOf name sources ≠ .error (.plaintextSecret field reason) := by
    intro sources
    induction sources with
    | nil =>
      intro _ h
      cases h
    | cons source rest ih =>
      intro hs h
      obtain ⟨honest, hs⟩ := List.forall_mem_cons.1 hs
      unfold firstOf at h
      split at h
      · rename_i err he
        cases h
        exact honest _ _ _ he
      · cases h
      · exact ih hs h
  intro h
  unfold lookup at h
  split at h
  · exact main _ hr h
  · cases h

theorem Honest.resolve_ne (hr : r.Honest) :
    r.resolve text ≠ .error (.plaintextSecret field reason) := by
  intro h
  have failed := r.resolve_ensure text
  rw [h] at failed
  obtain ⟨-, name, -, -, -, hl⟩ := ensure_error failed.symm
  exact hr.lookup_ne name hl

/-- The overrides are a map, so the other sources decide. -/
theorem honest_of_sources (environment : r.environment.Honest)
    (store : ∀ source ∈ r.store, source.Honest) : r.Honest := by
  intro source hs
  simp only [chain, List.mem_append, List.mem_cons, List.not_mem_nil, or_false,
    Option.mem_toList] at hs
  rcases hs with (rfl | rfl) | hs
  · exact Source.honest_ofMap _
  · exact environment
  · exact store source hs

theorem honest_default : ({} : Resolver).Honest :=
  honest_of_sources (Source.honest_ofMap []) (by simp)

/-- Both sides ask the same of a text, and tell the same reason. -/
theorem resolveCredential_eq (r : Resolver) (field text : String) :
    r.resolveCredential field text =
      match Binding.literalReason? text with
      | some reason => .error (.plaintextSecret field reason)
      | none => r.resolve text := by
  unfold resolveCredential Binding.literalReason?
  split
  · cases Secret.detect text <;> rfl
  · rfl

theorem Honest.plaintext_iff (hr : r.Honest) :
    (∃ f reason, r.resolveCredential field text = .error (.plaintextSecret f reason)) ↔
      (Binding.literalReason? text).isSome = true := by
  rw [resolveCredential_eq]
  cases Binding.literalReason? text with
  | none => simpa using fun f reason => hr.resolve_ne
  | some reason => simp

/-- Whatever the resolver, a text is refused as the value of a credential field, and for one
reason. -/
def Refused (field text : String) : Prop :=
  ∃ reason, ∀ r : Resolver, r.resolveCredential field text = .error (.plaintextSecret field reason)

theorem refused_iff : Refused field text ↔ (Binding.literalReason? text).isSome = true := by
  constructor
  · rintro ⟨reason, h⟩
    exact honest_default.plaintext_iff.1 ⟨field, reason, h {}⟩
  · intro h
    obtain ⟨reason, hr⟩ := Option.isSome_iff_exists.1 h
    exact ⟨reason, fun r => by rw [resolveCredential_eq, hr]⟩

end Resolver

namespace Binding

open Resolver

variable {b : Binding} {text : String}

/-- No character of a reference is blank but in the text around it. -/
theorem containedIn_of_allBlank (h : Text.allBlank text = true) :
    Reference.containedIn text = false := by
  rw [Bool.eq_false_iff, ne_eq, Reference.containedIn_iff]
  rintro ⟨before, name, behind, -, rfl⟩
  have dollar : Text.isBlank '$' = true := by
    refine List.all_eq_true.1 h '$' ?_
    simp [Reference.spell]
  exact absurd dollar (by decide)

theorem isSome_literalReason_of_detect (h : Secret.detect text ≠ none) :
    (literalReason? text).isSome = true := by
  unfold literalReason?
  split
  · simpa [Option.isSome_iff_ne_none] using h
  · rfl

theorem credentialFieldErrors_ne_nil {type field : String} :
    credentialFieldErrors type field text ≠ [] ↔ (literalReason? text).isSome = true := by
  unfold credentialFieldErrors
  split
  · rename_i blank
    simp [literalReason?, containedIn_of_allBlank blank]
  · cases literalReason? text <;> simp

theorem connectionErrors_ne_nil {type : String} {mode : Validation} :
    connectionErrors type mode text ≠ [] ↔ (literalReason? text).isSome = true := by
  rw [connectionErrors, ne_eq, List.append_eq_nil_iff, not_and_or, ← ne_eq,
    credentialFieldErrors_ne_nil]
  refine or_iff_left_of_imp fun found => isSome_literalReason_of_detect fun none => ?_
  simp [none, Leak.describe] at found

/-- With honest sources a run over a connection that the check passes is refused for a credential
that is written out by the outside only. -/
theorem answers_of_plaintext {e : Executor} {r : Resolver} {field reason : String} (hr : r.Honest)
    (hc : b.protocol.Connects) (ht : literalReason? text = none)
    (h : e.Explains r (b.withConnection text).protocol
      (.credential (.plaintextSecret field reason))) :
    e.Answers (.credential (.plaintextSecret field reason)) := by
  rcases h with h | h | ⟨err, herr, h⟩
  · exact h.elim
  · exact h
  · cases herr
    have connection : r.resolveCredential "connection" text ≠
        .error (.plaintextSecret field reason) := by
      rw [resolveCredential_eq, ht]
      exact hr.resolve_ne
    rw [withConnection] at h
    cases hb : b.protocol with
    | queue q =>
      rw [hb] at h
      rcases h with h | ⟨name, -, h⟩
      · exact absurd h connection
      · exact absurd h (hr.lookup_ne name)
    | sql q =>
      rw [hb] at h
      exact absurd h connection
    | http _ => simp [hb, Protocol.Connects] at hc
    | grpc _ => simp [hb, Protocol.Connects] at hc

theorem invoke_plaintext {t : Tool} {registry : Registry} {r : Resolver} {args : Json}
    {field reason : String} (hr : r.Honest) (hc : b.protocol.Connects)
    (ht : literalReason? text = none) (hb : t.binding = b.withConnection text)
    (h : (t.invoke registry r args).outcome =
      .error (.credential (.plaintextSecret field reason))) :
    ∃ e, registry.get t.binding.typeName = .ok e
      ∧ e.Answers (.credential (.plaintextSecret field reason)) := by
  rcases Tool.invoke_error h with h | ⟨e, ms, he, h⟩
  · cases Tool.prepare_refused h with
    | credential _ _ _ unknown => exact absurd unknown (hr.lookup_ne _)
  · rw [hb] at h
    exact ⟨e, he, answers_of_plaintext hr hc ht (Executor.execute_error h)⟩

/-- Given a binding that is accepted with some connection, the check of the declaration with the
text `v` for it and the check of the binding that is read of that find the same errors, all of them
of the connection. There are any exactly when `v` is refused as a connection whatever the resolver;
with honest sources, exactly when it is refused as written out at all. Of a binding without errors
no invocation is refused so, unless the outside answers it. -/
theorem connection_agrees {ms : Members} {w : String} {mode : Validation} {warnings : List String}
    (h : parse (.obj (declaring ms w)) mode = .ok (b, warnings)) (hc : b.protocol.Connects)
    (v : String) :
    let errors := connectionErrors b.typeName mode v
    read (.obj (declaring ms v)) = .ok (b.withConnection v)
    ∧ (check (.obj (declaring ms v)) mode).errors = errors
    ∧ ((b.withConnection v).report mode).errors = errors
    ∧ (errors ≠ [] ↔ Refused "connection" v)
    ∧ ∀ r : Resolver, r.Honest →
      (errors ≠ [] ↔ ∃ field reason,
        r.resolveCredential "connection" v = .error (.plaintextSecret field reason))
      ∧ ∀ (t : Tool) (registry : Registry) (args : Json) (field reason : String), errors = [] →
        t.binding = b.withConnection v →
        (t.invoke registry r args).outcome =
          .error (.credential (.plaintextSecret field reason)) →
        ∃ e, registry.get t.binding.typeName = .ok e
          ∧ e.Answers (.credential (.plaintextSecret field reason)) := by
  refine ⟨read_of_parse_declaring h v, check_declaring h hc v, report_withConnection h hc v,
    connectionErrors_ne_nil.trans refused_iff.symm, fun r hr =>
      ⟨connectionErrors_ne_nil.trans hr.plaintext_iff.symm, ?_⟩⟩
  intro t registry args field reason none ht hi
  refine invoke_plaintext hr hc ?_ ht hi
  rw [← Option.not_isSome_iff_eq_none, ← connectionErrors_ne_nil, not_not]
  exact none

set_option maxRecDepth 10000 in
/-- A password beside a reference: the declaration has errors, and no resolver takes the text. -/
theorem connection_agrees_beside :
    let ms : Members :=
      [("provider", .str "kafka"), ("topic", .str "orders"), ("type", .str "queue")]
    let text := "$\x7bBROKER\x7d;password=hunter2"
    let r : Resolver := { environment := Source.ofMap [("BROKER", "broker:9092")] }
    ∃ b, parse (.obj (declaring ms "$\x7bBROKER\x7d")) .strict = .ok (b, [])
      ∧ b.protocol.Connects
      ∧ (check (.obj (declaring ms text)) .strict).errors ≠ []
      ∧ Refused "connection" text
      ∧ r.Honest
      ∧ ∃ field reason,
        r.resolveCredential "connection" text = .error (.plaintextSecret field reason) := by
  intro ms text r
  let q : QueueBinding :=
    { provider := .kafka, connection := "$\x7bBROKER\x7d", topic := "orders" }
  have accepted : parse (.obj (declaring ms "$\x7bBROKER\x7d")) .strict =
      .ok ({ protocol := .queue q }, []) := by rfl
  have literal : (literalReason? text).isSome = true := by decide +kernel
  have errors : connectionErrors "queue" .strict text ≠ [] := connectionErrors_ne_nil.2 literal
  have honest : r.Honest := honest_of_sources (Source.honest_ofMap _) (by simp [r])
  obtain ⟨-, checked, -, refused, resolved⟩ := connection_agrees accepted trivial text
  exact ⟨_, accepted, trivial, checked ▸ errors, refused.1 errors, honest,
    (resolved r honest).1.1 errors⟩

end Binding
end Toolwire
