import Mathlib
import Toolwire.Executor
import Toolwire.Proofs.Retry.Course
import Toolwire.Proofs.Template
/-!
# What runs do and where their failures come from

A trace followed by another does what both do, and fails where one of them does. A run of
an executor fails for a reason of its own, or passes on what the outside has answered:
`execute_error`.
-/
namespace Toolwire

namespace Trace

variable {α β : Type}

@[simp] theorem fail_outcome (f : Failure) : (fail f : Trace α).outcome = .error f := rfl
@[simp] theorem emit_outcome (e : Event) : (emit e).outcome = .ok () := rfl
@[simp] theorem ofExcept_outcome (x : Except Failure α) : (ofExcept x).outcome = x := rfl

theorem ofCredential_ok {x : Except CredentialError α} {a : α} :
    (ofCredential x).outcome = .ok a ↔ x = .ok a := by
  cases x <;> simp [ofCredential, Trace.pure, Trace.fail]

theorem ofCredential_error {x : Except CredentialError α} {f : Failure} :
    (ofCredential x).outcome = .error f ↔ ∃ e, x = .error e ∧ f = .credential e := by
  cases x <;> simp [ofCredential, Trace.pure, Trace.fail, eq_comm]

theorem bind_outcome_ok {t : Trace α} {f : α → Trace β} {b : β} :
    (t >>= f).outcome = .ok b ↔ ∃ a, t.outcome = .ok a ∧ (f a).outcome = .ok b := by
  change (Trace.bind t f).outcome = .ok b ↔ _
  cases h : t.outcome <;> simp [Trace.bind, h]

theorem bind_outcome_error {t : Trace α} {f : α → Trace β} {e : Failure} :
    (t >>= f).outcome = .error e ↔
      t.outcome = .error e ∨ ∃ a, t.outcome = .ok a ∧ (f a).outcome = .error e := by
  change (Trace.bind t f).outcome = .error e ↔ _
  cases h : t.outcome <;> simp [Trace.bind, h]

theorem mem_bind_events {t : Trace α} {f : α → Trace β} {e : Event} :
    e ∈ (t >>= f).events ↔ e ∈ t.events ∨ ∃ a, t.outcome = .ok a ∧ e ∈ (f a).events := by
  change e ∈ (Trace.bind t f).events ↔ _
  cases h : t.outcome <;> simp [Trace.bind, h]

end Trace

/-! ## Retried calls -/

namespace Retry

variable {α : Type}

theorem within_error {a : Attempt α} {timeoutMs : Nat} {f : Failure}
    (h : a.within timeoutMs = .error f) : a.outcome = .error f ∨ f = .timeout timeoutMs := by
  unfold Attempt.within at h
  split at h
  · cases h; exact .inr rfl
  · exact .inl h

/-- A run fails with what an attempt has answered, or because its time was over. -/
theorem run_error {policy : RetryPolicy} {timeoutMs : Nat} {attempts : Nat → Attempt α}
    {f : Failure} (h : (run policy timeoutMs attempts).outcome = .error f) :
    (∃ i, (attempts i).outcome = .error f) ∨ f = .timeout timeoutMs := by
  rw [outcome_run] at h
  exact (within_error h).imp_left fun h => ⟨_, h⟩

end Retry

theorem Trace.retried_error {α : Type} {b : Binding} {operation : String} {call : Event}
    {attempts : Nat → Attempt α} {f : Failure}
    (h : (retried b operation call attempts).outcome = .error f) :
    (∃ i, (attempts i).outcome = .error f) ∨ f = .timeout b.timeoutMs :=
  Retry.run_error h

/-- A retried call over a connection fails for want of the connection or in the call. -/
theorem Trace.connected_error {α β : Type} {b : Binding} {connection : Except CredentialError String}
    {operation : String} {call : String → Event} {attempts : Nat → Attempt α} {result : α → β}
    {f : Failure}
    (h : (do
        let c ← ofCredential connection
        let a ← retried b operation (call c) attempts
        return result a).outcome = .error f) :
    (∃ err, connection = .error err ∧ f = .credential err)
      ∨ (∃ i, (attempts i).outcome = .error f) ∨ f = .timeout b.timeoutMs := by
  rcases bind_outcome_error.1 h with h | ⟨c, -, h⟩
  · exact .inl (ofCredential_error.1 h)
  · rcases bind_outcome_error.1 h with h | ⟨a, -, h⟩
    · exact .inr (retried_error h)
    · cases h

/-! ## What the steps fail with -/

/-- A failure that neither a credential nor the outside has a part in. -/
def Failure.IsPlain : Failure → Prop
  | .invalidParameters _ | .timeout _ | .execution _ | .writeDenied _ => True
  | _ => False

theorem Template.Fails.isPlain_of_redact {names : List String} {f : Failure}
    (h : Fails .redact names f) : f.IsPlain := by
  rcases h with ⟨m, rfl⟩ | ⟨name, -, h⟩
  · trivial
  · obtain ⟨r, e, hc, -⟩ := substitute_error h
    cases hc

theorem Template.Fails.isPlain_or {names : List String} {r : Resolver} {f : Failure}
    (h : Fails (.resolve r) names f) :
    f.IsPlain ∨ ∃ err, f = .credential err ∧ ∃ name ∈ names, r.lookup name = .error err := by
  rcases h with ⟨m, rfl⟩ | ⟨name, hn, h⟩
  · exact .inl trivial
  · obtain ⟨s, err, hc, he, rfl⟩ := substitute_error h
    cases hc
    exact .inr ⟨err, rfl, name, hn, he⟩

namespace Http

theorem requestBody_fails {b : HttpBinding} {args : Members} {c : Template.Credentials}
    {f : Failure} (h : requestBody b args c = .error f) :
    Template.Fails c ((b.body.map Binding.namesIn).getD []) f := by
  unfold requestBody at h
  split at h
  · split at h
    · rename_i template hb
      rw [map_eq_error] at h
      rw [hb]
      exact Template.renderJson_fails template h
    · cases h
  · cases h

theorem request_fails {b : HttpBinding} {args : Members} {r : Resolver} {f : Failure}
    (h : request b args r = .error f) :
    Template.Fails (.resolve r) (Binding.protocolNames (.http b)) f := by
  unfold request at h
  unfold Binding.protocolNames
  rcases bind_eq_error.1 h with h | ⟨url, -, h⟩
  · exact (Template.render_fails h).mono (by simp)
  · rcases bind_eq_error.1 h with h | ⟨headers, -, h⟩
    · exact (Template.renderHeaders_fails h).mono (by simp)
    · rcases bind_eq_error.1 h with h | ⟨body, -, h⟩
      · exact (requestBody_fails h).mono (by simp)
      · cases h

theorem extract_error {v : Json} {path : String} {f : Failure} (h : extract v path = .error f) :
    f.IsPlain := by
  unfold extract at h
  split at h
  · cases h
  · cases h
    trivial

theorem mapResponse_error {m : ResponseMapping} {reply : Reply} {f : Failure}
    (h : mapResponse m reply = .error f) : f.IsPlain := by
  simp only [mapResponse] at h
  split at h <;> split at h
  · cases h
  · exact extract_error (map_eq_error.1 h)
  · cases h
  · exact extract_error (map_eq_error.1 h)

theorem sendOnce_error {client : Client} {request : Request} {i : Nat} {f : Failure}
    (h : (sendOnce client request i).outcome = .error f) :
    f.IsPlain ∨ (client.send i request).outcome = .error f := by
  unfold sendOnce at h
  split at h
  · exact .inr h
  · cases h
    exact .inl trivial

end Http

theorem Queue.message_error {q : QueueBinding} {args : Members} {c : Template.Credentials}
    {f : Failure} : message q args c = .error f ↔
      Template.render q.topic args c = .error f ∨
        ∃ topic, Template.render q.topic args c = .ok topic ∧
          Template.renderHeaders args c q.headers = .error f := by
  unfold message
  simp only [bind_eq_error]
  refine or_congr_right (exists_congr fun topic => and_congr_right fun _ => ?_)
  constructor
  · rintro (h | ⟨headers, -, h⟩)
    · exact h
    · cases h
  · exact .inl

theorem Queue.message_fails {q : QueueBinding} {args : Members} {c : Template.Credentials}
    {f : Failure} (h : message q args c = .error f) :
    Template.Fails c
      (Reference.names q.topic ++ q.headers.flatMap fun h => Reference.names h.2) f := by
  rcases message_error.1 h with h | ⟨topic, -, h⟩
  · exact (Template.render_fails h).mono (List.subset_append_left _ _)
  · exact (Template.renderHeaders_fails h).mono (List.subset_append_right _ _)

namespace Sql

theorem bind_error {q : SqlBinding} {args : Members} {f : Failure} (h : bind q args = .error f) :
    f.IsPlain := by
  have one : ∀ p, bindOne q args p = .error f → f.IsPlain := by
    intro p h
    unfold bindOne at h
    split at h
    · cases h; trivial
    · split at h
      · cases h; trivial
      · cases h
  have all : ∀ ps, bindAll q args ps = .error f → f.IsPlain := by
    intro ps
    induction ps with
    | nil => intro h; cases h
    | cons p ps ih =>
      intro h
      unfold bindAll at h
      split at h
      · rename_i g hg
        cases h
        exact one p hg
      · exact ih (map_eq_error.1 h)
  exact all _ (map_eq_error.1 h)

theorem approve_error {gate : Gate} {s : Statement} {shadow : Bool} {f : Failure}
    (h : (approve gate s shadow).outcome = .error f) : f.IsPlain := by
  unfold approve at h
  rcases Trace.bind_outcome_error.1 h with h | ⟨-, -, h⟩
  · cases h
  · split at h
    · cases h
    · rcases Trace.bind_outcome_error.1 h with h | ⟨-, -, h⟩
      · cases h
      · cases h
        trivial

end Sql

/-! ## Failures of an executor -/

/-- The outside behind an executor answers a call with a failure. -/
def Executor.Answers (f : Failure) : Executor → Prop
  | .http client => ∃ i request, (client.send i request).outcome = .error f
  | .queue adapters => ∃ p adapter i, (p, adapter) ∈ adapters ∧ (adapter i).outcome = .error f
  | .sql backend _ => ∃ i, (backend.fetch i).outcome = .error f ∨ (backend.write i).outcome = .error f
  | .custom _ answers => ∃ i, answers i = .error f

/-- A credential that a run of a protocol needs is not to be had. -/
def Protocol.Lacks (r : Resolver) (err : CredentialError) : Protocol → Prop
  | .http h => ∃ name ∈ Binding.protocolNames (.http h), r.lookup name = .error err
  | .queue q => r.resolveCredential "connection" q.connection = .error err
      ∨ ∃ name ∈ Reference.names q.topic ++ q.headers.flatMap fun h => Reference.names h.2,
        r.lookup name = .error err
  | .sql q => r.resolveCredential "connection" q.connection = .error err
  | .grpc _ => False

/-- Where the failure of a run comes from. -/
def Executor.Explains (e : Executor) (r : Resolver) (p : Protocol) (f : Failure) : Prop :=
  f.IsPlain ∨ e.Answers f ∨ ∃ err, f = .credential err ∧ p.Lacks r err

theorem Http.execute_error {client : Client} {b : Binding} {h : HttpBinding} {args : Members}
    {r : Resolver} {f : Failure} (hf : (execute client b h args r).outcome = .error f) :
    (Executor.http client).Explains r (.http h) f := by
  unfold execute at hf
  split at hf
  · unfold shadowOutcome at hf
    rcases Trace.bind_outcome_error.1 hf with hf | ⟨url, -, hf⟩
    · exact .inl (Template.render_fails hf).isPlain_of_redact
    · rcases Trace.bind_outcome_error.1 hf with hf | ⟨body, -, hf⟩
      · exact .inl (requestBody_fails hf).isPlain_of_redact
      · rcases Trace.bind_outcome_error.1 hf with hf | ⟨-, -, hf⟩ <;> cases hf
  · rcases Trace.bind_outcome_error.1 hf with hf | ⟨request, -, hf⟩
    · exact (request_fails hf).isPlain_or.imp_right .inr
    · rcases Trace.bind_outcome_error.1 hf with hf | ⟨reply, -, hf⟩
      · rcases Trace.retried_error hf with ⟨i, hf⟩ | rfl
        · exact (sendOnce_error hf).imp_right fun hf => .inl ⟨i, request, hf⟩
        · exact .inl trivial
      · exact .inl (mapResponse_error hf)

/-- A publish that is not intercepted fails before or after it reaches the adapter. -/
theorem Queue.execute_error_cases {adapters : Adapters} {b : Binding} {q : QueueBinding}
    {args : Members} {r : Resolver} {f : Failure}
    (hf : (execute adapters b q args r).outcome = .error f) :
    f.IsPlain ∨ (Executor.queue adapters).Answers f ∨
      b.isShadow = false ∧ ∃ adapter, adapters.lookup q.provider = some adapter ∧
        ((∃ err, r.resolveCredential "connection" q.connection = .error err ∧ f = .credential err)
          ∨ message q args (.resolve r) = .error f) := by
  unfold execute at hf
  split at hf
  · unfold shadowOutcome at hf
    rcases Trace.bind_outcome_error.1 hf with hf | ⟨m, -, hf⟩
    · exact .inl (message_fails hf).isPlain_of_redact
    · rcases Trace.bind_outcome_error.1 hf with hf | ⟨-, -, hf⟩ <;> cases hf
  · rename_i hs
    rw [Bool.not_eq_true] at hs
    split at hf
    · cases hf
      exact .inl trivial
    · rename_i adapter ha
      rcases Trace.bind_outcome_error.1 hf with hf | ⟨connection, -, hf⟩
      · exact .inr (.inr ⟨hs, adapter, ha, .inl (Trace.ofCredential_error.1 hf)⟩)
      · rcases Trace.bind_outcome_error.1 hf with hf | ⟨m, -, hf⟩
        · exact .inr (.inr ⟨hs, adapter, ha, .inr hf⟩)
        · rcases Trace.bind_outcome_error.1 hf with hf | ⟨id, -, hf⟩
          · rcases Trace.retried_error hf with ⟨i, hf⟩ | rfl
            · exact .inr (.inl ⟨_, adapter, i, mem_of_lookup ha, hf⟩)
            · exact .inl trivial
          · cases hf

theorem Queue.execute_error {adapters : Adapters} {b : Binding} {q : QueueBinding}
    {args : Members} {r : Resolver} {f : Failure}
    (hf : (execute adapters b q args r).outcome = .error f) :
    (Executor.queue adapters).Explains r (.queue q) f := by
  rcases execute_error_cases hf with hf | hf | ⟨-, adapter, -, ⟨err, he, rfl⟩ | hf⟩
  · exact .inl hf
  · exact .inr (.inl hf)
  · exact .inr (.inr ⟨err, rfl, .inl he⟩)
  · refine (message_fails hf).isPlain_or.imp_right fun h => .inr ?_
    obtain ⟨err, rfl, hn⟩ := h
    exact ⟨err, rfl, .inr hn⟩

theorem Sql.execute_error {backend : Backend} {gate : Gate} {b : Binding} {q : SqlBinding}
    {args : Members} {r : Resolver} {f : Failure}
    (hf : (execute backend gate b q args r).outcome = .error f) :
    (Executor.sql backend gate).Explains r (.sql q) f := by
  unfold execute at hf
  rcases Trace.bind_outcome_error.1 hf with hf | ⟨s, -, hf⟩
  · exact .inl (bind_error hf)
  split at hf
  · rcases Trace.connected_error hf with ⟨err, he, rfl⟩ | ⟨i, hf⟩ | rfl
    · exact .inr (.inr ⟨err, rfl, he⟩)
    · exact .inr (.inl ⟨i, .inl hf⟩)
    · exact .inl trivial
  rcases Trace.bind_outcome_error.1 hf with hf | ⟨-, -, hf⟩
  · exact .inl (approve_error hf)
  split at hf
  · unfold shadowOutcome at hf
    rcases Trace.bind_outcome_error.1 hf with hf | ⟨-, -, hf⟩ <;> cases hf
  · rcases Trace.connected_error hf with ⟨err, he, rfl⟩ | ⟨i, hf⟩ | rfl
    · exact .inr (.inr ⟨err, rfl, he⟩)
    · exact .inr (.inl ⟨i, .inr hf⟩)
    · exact .inl trivial

/-- A run fails for a plain reason, with what the outside answers, or for want of a
credential; it never comes to a configuration failure or a missing executor by itself. -/
theorem Executor.execute_error {e : Executor} {b : Binding} {args : Members} {r : Resolver}
    {f : Failure} (h : (e.execute b args r).outcome = .error f) : e.Explains r b.protocol f := by
  unfold execute at h
  split at h
  · rename_i client hb hp
    rw [hp]
    exact Http.execute_error h
  · rename_i adapters q hp
    rw [hp]
    exact Queue.execute_error h
  · rename_i backend gate q hp
    rw [hp]
    exact Sql.execute_error h
  · rcases Trace.bind_outcome_error.1 h with h | ⟨-, -, h⟩
    · cases h
    · exact .inr (.inl ⟨0, h⟩)
  · cases h
    exact .inl trivial

end Toolwire
