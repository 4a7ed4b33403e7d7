import Mathlib
import Toolwire.Proofs.Execution.Trace
/-!
# The check before the run

The names that a binding lists are looked up before its executor runs. They cover what a
run looks up but for one template, the topic of a message: `execute_after_ensure`.
-/
namespace Toolwire

/-! ## Names that are listed -/

namespace Binding

theorem mem_insertName {name other : String} {names : List String} :
    other ∈ insertName name names ↔ other = name ∨ other ∈ names := by
  induction names with
  | nil => simp [insertName]
  | cons n rest ih =>
    unfold insertName
    split
    · rename_i heq
      subst heq
      simp
    · split
      · simp
      · rw [List.mem_cons, ih, List.mem_cons]
        tauto

theorem mem_credentialReferences {b : Binding} {name : String} :
    name ∈ b.credentialReferences ↔ name ∈ protocolNames b.protocol := by
  have main : ∀ names sorted : List String,
      name ∈ names.foldl (fun sorted name => insertName name sorted) sorted ↔
        name ∈ names ∨ name ∈ sorted := by
    intro names
    induction names with
    | nil => intro sorted; simp
    | cons n rest ih =>
      intro sorted
      rw [List.foldl_cons, ih, mem_insertName, List.mem_cons]
      tauto
  simpa [credentialReferences] using main (protocolNames b.protocol) []

end Binding

/-! ## Names that resolve -/

namespace Resolver

variable {r : Resolver}

/-- Every one of the names has a value. -/
def Knows (r : Resolver) (names : List String) : Prop := ∀ name ∈ names, ∃ v, r.lookup name = .ok v

theorem ensure_eq_ok {names : List String} : r.ensure names = .ok () ↔ r.Knows names := by
  induction names with
  | nil => simp [ensure, Knows]
  | cons name names ih =>
    unfold ensure
    cases hl : r.lookup name with
    | error e => simp [Knows, hl]
    | ok v =>
      rw [Knows, List.forall_mem_cons]
      simp only [hl, Except.ok.injEq, exists_eq', true_and]
      exact ih

theorem Knows.lookup_ne_error {names : List String} (h : r.Knows names) {name : String}
    (hn : name ∈ names) (err : CredentialError) : r.lookup name ≠ .error err := by
  obtain ⟨v, hv⟩ := h name hn
  rw [hv]
  exact nofun

open Text in
/-- A text resolves when its references do. -/
theorem resolve_of_knows {text : String} (h : r.Knows (Reference.names text)) :
    ∃ value, r.resolve text = .ok value := by
  have main : ∀ (ps : List (Piece String)) done, r.Knows (ps.filterMap Piece.found?) →
      ∃ value, r.resolvePieces done ps = .ok value := by
    intro ps
    induction ps with
    | nil => intro done _; exact ⟨_, rfl⟩
    | cons p ps ih =>
      intro done h
      cases p with
      | char c => exact ih (c :: done) h
      | found name =>
        obtain ⟨hn, hs⟩ := List.forall_mem_cons.1 (show r.Knows (name :: _) from h)
        obtain ⟨v, hv⟩ := hn
        unfold resolvePieces
        rw [hv]
        exact ih _ hs
  obtain ⟨value, hv⟩ := main (Reference.cut text.toList) [] h
  exact ⟨String.ofList value, by rw [resolve, hv]; rfl⟩

/-- A credential field that passes its check resolves when its references do. -/
theorem resolveCredential_of_knows {binding field text : String}
    (hc : Binding.credentialFieldErrors binding field text = [])
    (h : r.Knows (Reference.names text)) :
    ∃ value, r.resolveCredential field text = .ok value := by
  unfold Binding.credentialFieldErrors at hc
  split at hc
  · cases hc
  · split at hc
    · cases hc
    · rename_i hl
      unfold Binding.literalReason? at hl
      split at hl
      · rename_i hr
        rw [Option.map_eq_none_iff] at hl
        unfold resolveCredential
        rw [if_pos hr, hl]
        exact resolve_of_knows h
      · cases hl

end Resolver

/-! ## Runs after the check -/

/-- A run publishes a message, and the first token of its topic that has no text is a
reference that the lookup refuses. -/
def Executor.StumblesOnTopic (e : Executor) (b : Binding) (args : Members) (r : Resolver)
    (err : CredentialError) : Prop :=
  ∃ adapters q adapter, e = .queue adapters ∧ b.protocol = .queue q ∧ b.isShadow = false
    ∧ adapters.lookup q.provider = some adapter
    ∧ ∃ before name after, Template.tokens q.topic = before ++ .credential name :: after
      ∧ (∀ t ∈ before, ∃ text, t.text args (.resolve r) = .ok text)
      ∧ r.lookup name = .error err

/-- Rendering fails for want of a credential when that is the first token without a text. -/
theorem Template.render_error_credential {s : String} {args : Members} {r : Resolver}
    {err : CredentialError} :
    render s args (.resolve r) = .error (.credential err) ↔
      ∃ before name after, tokens s = before ++ .credential name :: after
        ∧ (∀ t ∈ before, ∃ text, t.text args (.resolve r) = .ok text)
        ∧ r.lookup name = .error err := by
  rw [render_error]
  constructor
  · rintro ⟨before, token, after, hs, hb, hf⟩
    cases token with
    | argument name =>
      obtain ⟨m, hm⟩ := argument_error (map_eq_error.1 hf)
      cases hm
    | credential name =>
      rw [Token.text] at hf
      obtain ⟨r', err', hc, he, hf⟩ := substitute_error hf
      cases hc
      cases hf
      exact ⟨before, name, after, hs, hb, he⟩
  · rintro ⟨before, name, after, hs, hb, he⟩
    refine ⟨before, .credential name, after, hs, hb, ?_⟩
    simp only [Token.text, Credentials.substitute, he]

namespace Queue

variable {adapters : Adapters} {b : Binding} {q : QueueBinding} {args : Members} {r : Resolver}

theorem connection_of_structuralErrors (hp : b.protocol = .queue q)
    (hs : b.structuralErrors = []) (hk : r.Knows (Binding.protocolNames b.protocol)) :
    ∃ value, r.resolveCredential "connection" q.connection = .ok value := by
  simp only [Binding.structuralErrors, List.append_eq_nil_iff, hp, Binding.protocolErrors,
    Binding.queueErrors] at hs
  refine Resolver.resolveCredential_of_knows hs.2.1 fun name hn => hk name ?_
  rw [hp]
  exact List.mem_append_left _ hn

/-- Of what a publish looks up after the check, the topic alone can be refused. -/
theorem message_error_credential {err : CredentialError}
    (hk : r.Knows (Binding.protocolNames (.queue q))) :
    message q args (.resolve r) = .error (.credential err) ↔
      Template.render q.topic args (.resolve r) = .error (.credential err) := by
  rw [message_error, or_iff_left_iff_imp]
  rintro ⟨topic, -, hf⟩
  rcases Template.renderHeaders_fails hf with ⟨m, hm⟩ | ⟨name, hn, he⟩
  · cases hm
  · obtain ⟨r', err', hc, he, -⟩ := Template.substitute_error he
    cases hc
    exact absurd he (hk.lookup_ne_error (List.mem_append_right _ hn) err')

end Queue

theorem Sql.connection_of_structuralErrors {b : Binding} {q : SqlBinding} {r : Resolver}
    (hp : b.protocol = .sql q) (hs : b.structuralErrors = [])
    (hk : r.Knows (Binding.protocolNames b.protocol)) :
    ∃ value, r.resolveCredential "connection" q.connection = .ok value := by
  simp only [Binding.structuralErrors, List.append_eq_nil_iff, hp, Binding.protocolErrors,
    Binding.sqlErrors] at hs
  refine Resolver.resolveCredential_of_knows hs.2.1.1 fun name hn => hk name ?_
  rw [hp]
  exact hn

namespace Executor

/-- When every name that a sound binding lists resolves, a run fails for want of a credential
if its topic does, and otherwise only if the outside answers so itself. -/
theorem execute_after_ensure {b : Binding} {r : Resolver} (hs : b.structuralErrors = [])
    (hc : r.ensure b.credentialReferences = .ok ()) (e : Executor) (args : Members)
    (err : CredentialError) :
    (e.StumblesOnTopic b args r err →
      (e.execute b args r).outcome = .error (.credential err))
    ∧ ((e.execute b args r).outcome = .error (.credential err) →
      e.StumblesOnTopic b args r err ∨ e.Answers (.credential err)) := by
  have hk : r.Knows (Binding.protocolNames b.protocol) :=
    fun name hn => Resolver.ensure_eq_ok.1 hc name (Binding.mem_credentialReferences.2 hn)
  constructor
  · rintro ⟨adapters, q, adapter, rfl, hp, hactive, ha, htopic⟩
    obtain ⟨value, hv⟩ := Queue.connection_of_structuralErrors hp hs hk
    have hm : Queue.message q args (.resolve r) = .error (.credential err) :=
      Queue.message_error.2 (.inl (Template.render_error_credential.2 htopic))
    simp only [execute, hp, Queue.execute, hactive, ha, Bool.false_eq_true, if_false]
    refine Trace.bind_outcome_error.2 (.inr ⟨value, Trace.ofCredential_ok.2 hv, ?_⟩)
    exact Trace.bind_outcome_error.2 (.inl hm)
  · intro hf
    rcases execute_error hf with hplain | hanswer | ⟨err', herr, hlacks⟩
    · exact hplain.elim
    · exact .inr hanswer
    cases herr
    cases hp : b.protocol with
    | http h =>
      rw [hp] at hlacks hk
      obtain ⟨name, hn, hl⟩ := hlacks
      exact absurd hl (hk.lookup_ne_error hn err)
    | queue q =>
      cases e with
      | queue adapters =>
        simp only [execute, hp] at hf
        -- The connection and the headers are listed, so it is the topic that fails.
        rcases Queue.execute_error_cases hf with hf | hf | ⟨hactive, adapter, ha, hf⟩
        · exact hf.elim
        · exact .inr hf
        · rcases hf with ⟨err', hl, -⟩ | hf
          · obtain ⟨value, hv⟩ := Queue.connection_of_structuralErrors hp hs hk
            rw [hv] at hl
            cases hl
          · rw [hp] at hk
            refine .inl ⟨adapters, q, adapter, rfl, hp, hactive, ha, ?_⟩
            exact Template.render_error_credential.1 ((Queue.message_error_credential hk).1 hf)
      | custom type answers => exact .inr ⟨0, by simpa [execute, Trace.bind_outcome_error] using hf⟩
      | http client => simp [execute, hp, Failure.mismatched] at hf
      | sql backend gate => simp [execute, hp, Failure.mismatched] at hf
    | sql q =>
      obtain ⟨value, hv⟩ := Sql.connection_of_structuralErrors hp hs hk
      rw [hp, Protocol.Lacks, hv] at hlacks
      cases hlacks
    | grpc g =>
      rw [hp] at hlacks
      exact hlacks.elim

/-- A message whose connection is known and whose topic is a reference that is not. -/
theorem execute_after_ensure_topic :
    let b : Binding :=
      { protocol := .queue { provider := .kafka, connection := "$\x7bBROKER\x7d",
                             topic := "$\x7bTOPIC\x7d" } }
    let r : Resolver := { overrides := [("BROKER", "broker:9092")] }
    let e : Executor := .queue [(.kafka, fun _ => { outcome := .ok none })]
    b.structuralErrors = []
      ∧ r.ensure b.credentialReferences = .ok ()
      ∧ e.StumblesOnTopic b [] r (.unresolved "TOPIC")
      ∧ (e.execute b [] r).outcome = .error (.credential (.unresolved "TOPIC")) := by
  intro b r e
  have sound : b.structuralErrors = [] := by decide +kernel
  have ensured : r.ensure b.credentialReferences = .ok () := by decide +kernel
  have stumbles : e.StumblesOnTopic b [] r (.unresolved "TOPIC") :=
    ⟨_, _, _, rfl, rfl, rfl, rfl, [], "TOPIC", [], by decide +kernel, by simp, by decide +kernel⟩
  exact ⟨sound, ensured, stumbles, (execute_after_ensure sound ensured e [] _).1 stumbles⟩

end Executor
end Toolwire
