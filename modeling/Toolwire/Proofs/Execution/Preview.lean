import Mathlib
import Toolwire.Proofs.Credential.Quoting
import Toolwire.Proofs.Execution.Shadow
import Toolwire.Proofs.Execution.WriteGate
import Toolwire.Proofs.Sql.Parameters
/-!
# What a shadow run describes

Where every credential stands for itself, an active run makes of the outside one call, and the
outcome of a shadow run with the same arguments describes that call: `shadow_describes`.
-/
namespace Toolwire

open Trace

/-! ## Descriptions -/

namespace Outcome

/-- A further field of an outcome. -/
def extra? (o : Outcome) (key : String) : Option Json := Members.get? o.extras key

theorem extra?_withExtra (o : Outcome) (key other : String) (value : Json) :
    (o.withExtra key value).extra? other = if other = key then some value else o.extra? other := by
  split
  · rename_i h
    rw [h]
    exact Members.get?_insert_self o.extras key value
  · rename_i h
    exact Members.get?_insert_of_ne o.extras value h

/-- An outcome describes a request. -/
structure DescribesRequest (o : Outcome) (request : Http.Request) : Prop where
  method : o.extra? "_method" = some (.str request.method.name)
  url : o.extra? "_url" = some (.str request.url)
  /-- The request has a body, and it is shown. -/
  body : ∃ body, request.body = some body ∧ o.extra? "_body" = some body
  /-- The names of the headers, in order. -/
  headers : o.extra? "_headers" = some (.strings (Members.keys request.headers))

/-- An outcome describes a message for a provider. -/
structure DescribesMessage (o : Outcome) (provider : Provider) (m : Queue.Message) : Prop where
  provider : o.extra? "_provider" = some (.str provider.name)
  topic : o.extra? "_topic" = some (.str m.topic)
  /-- A payload in JSON is shown as the value that it is read as. -/
  json : m.format = .json → ∀ v, Json.parse? m.payload = some v → o.extra? "_message" = some v
  /-- Any other payload is shown as it is. -/
  text : m.format = .text ∨ Json.parse? m.payload = none →
    o.extra? "_message" = some (.str m.payload)
  /-- The names of the headers, in order. -/
  headers : o.extra? "_headers" = some (.strings (Members.keys m.headers))

/-- An outcome describes a statement. -/
structure DescribesStatement (o : Outcome) (s : Sql.Statement) : Prop where
  query : o.extra? "_query" = some (.str s.text)
  /-- Every placeholder is shown with the value that is bound to it, and nothing else is shown. -/
  parameters : ∃ ms, o.extra? "_parameters" = some (.obj ms)
    ∧ ∀ placeholder value, Members.get? ms placeholder = some value ↔
      (placeholder, value) ∈ s.parameters

/-- An outcome describes a call that would change something outside. -/
def Describes (o : Outcome) : Event → Prop
  | .send request => o.DescribesRequest request
  | .publish provider _ m => o.DescribesMessage provider m
  | .write _ s => o.DescribesStatement s
  | _ => False

end Outcome

/-! ## Calls of active runs -/

namespace Trace

variable {α β : Type} {e : Event}

/-- A retried call that something quiet follows is all that is called. -/
theorem eq_of_mem_retried {b : Binding} {operation : String} {call : Event}
    {attempts : Nat → Attempt α} {f : α → Trace β} (hf : ∀ a, (f a).IsQuiet)
    (hc : call.isExternal = true)
    (he : e ∈ (retried b operation call attempts >>= f).events) (hx : e.isExternal = true) :
    e = call := by
  rcases mem_bind_events.1 he with he | ⟨a, -, he⟩
  · obtain ⟨n, hcalls, -⟩ := retried_last hc b operation attempts
    exact eq_of_calls hcalls he hx
  · rw [(hf a e he).1] at hx
    cases hx

end Trace

section
variable {b : Binding} {args : Members} {r : Resolver} {e : Event}

theorem Http.send_of_execute {client : Client} {h : HttpBinding} (hs : b.isShadow = false)
    (he : e ∈ (execute client b h args r).events) (hx : e.isExternal = true) :
    ∃ q, request h args r = .ok q ∧ e = .send q := by
  unfold execute at he
  rw [hs, Bool.false_and, if_neg Bool.false_ne_true] at he
  obtain ⟨q, hq, he⟩ := (quiet_ofExcept _).mem_bind he hx
  exact ⟨q, hq, eq_of_mem_retried (fun _ => quiet_ofExcept _) rfl he hx⟩

theorem Queue.publish_of_execute {adapters : Adapters} {q : QueueBinding} (hs : b.isShadow = false)
    (he : e ∈ (execute adapters b q args r).events) (hx : e.isExternal = true) :
    ∃ connection m, message q args (.resolve r) = .ok m ∧ e = .publish q.provider connection m := by
  unfold execute at he
  rw [hs, if_neg Bool.false_ne_true] at he
  split at he
  · cases he
  · obtain ⟨connection, -, he⟩ := (quiet_ofCredential _).mem_bind he hx
    obtain ⟨m, hm, he⟩ := (quiet_ofExcept _).mem_bind he hx
    exact ⟨connection, m, hm, eq_of_mem_retried (fun _ => quiet_of_events_nil rfl) rfl he hx⟩

theorem Sql.write_of_execute {backend : Backend} {gate : Gate} {q : SqlBinding}
    (hw : q.readOnly = false) (hs : b.isShadow = false)
    (he : e ∈ (execute backend gate b q args r).events) (hx : e.isExternal = true) :
    ∃ connection s, bind q args = .ok s ∧ e = .write connection s := by
  unfold execute at he
  obtain ⟨s, hb, he⟩ := (quiet_ofExcept _).mem_bind he hx
  rw [hw, if_neg Bool.false_ne_true] at he
  obtain ⟨-, -, he⟩ := (quiet_approve gate s b.isShadow).mem_bind he hx
  rw [hs, if_neg Bool.false_ne_true] at he
  obtain ⟨connection, hsame⟩ := eq_write_of_mem_runWrite he hx
  exact ⟨connection, s, hb, hsame⟩

end

/-! ## Statements -/

namespace Sql

variable {q : SqlBinding} {args : Members}

/-- The value of a placeholder is settled by the arguments, so no placeholder has two. -/
theorem get?_parameters {s : Statement} (h : bind q args = .ok s) {placeholder : String}
    {value : Json} :
    Members.get? (Members.ofList s.parameters) placeholder = some value ↔
      (placeholder, value) ∈ s.parameters := by
  obtain ⟨bound, hb, rfl⟩ := map_eq_ok.1 h
  obtain ⟨-, hvalues⟩ := bindAll_eq_ok.1 hb
  refine Members.get?_ofList_iff fun k v v' hv hv' => ?_
  have hv : value? q args k = some v := hvalues _ hv
  have hv' : value? q args k = some v' := hvalues _ hv'
  exact Option.some.inj (hv.symm.trans hv')

end Sql

/-! ## Outcomes of shadow runs -/

section
variable {b : Binding} {args : Members} {r : Resolver}

theorem Http.execute_describes {client : Client} {h : HttpBinding} {q : Request}
    (hs : b.isShadow = true) (hm : h.method.isMutating = true)
    (hmethod : q.method = h.method) (hurl : Template.render h.url args .redact = .ok q.url)
    (hkeys : Members.keys q.headers = Members.keys h.headers)
    (hbody : requestBody h args .redact = .ok q.body) :
    ∃ o, (execute client b h args r).outcome = .ok o ∧ o.shadow = true ∧ o.DescribesRequest q := by
  -- A request that would change something has a body.
  obtain ⟨body, hsome⟩ : ∃ body, q.body = some body := by
    unfold requestBody at hbody
    rw [if_pos hm] at hbody
    split at hbody
    · obtain ⟨body, -, hb⟩ := map_eq_ok.1 hbody
      exact ⟨body, hb.symm⟩
    · exact ⟨_, (Except.ok.inj hbody).symm⟩
  unfold execute
  rw [hs, hm, Bool.and_self, if_pos rfl, shadowOutcome, hurl, hbody, hsome]
  refine ⟨_, rfl, rfl, ?_, ?_, ⟨body, hsome, ?_⟩, ?_⟩
  · simp [Outcome.extra?_withExtra, hmethod]
  · simp [Outcome.extra?_withExtra]
  · simp [Outcome.extra?_withExtra]
  · simp [Outcome.extra?_withExtra, hkeys]

theorem Queue.execute_describes {adapters : Adapters} {q : QueueBinding} {m : Message}
    (hs : b.isShadow = true) (hm : message q args .redact = .ok m) :
    ∃ o, (execute adapters b q args r).outcome = .ok o ∧ o.shadow = true
      ∧ o.DescribesMessage q.provider m := by
  obtain ⟨topic, -, hm'⟩ := bind_eq_ok.1 hm
  obtain ⟨headers, hh, hm'⟩ := bind_eq_ok.1 hm'
  have hformat : m.format = q.format := by cases hm'; rfl
  have hkeys : Members.keys m.headers = Members.keys q.headers := by
    cases hm'
    exact Template.keys_renderHeaders hh
  unfold execute
  rw [if_pos hs, shadowOutcome, hm]
  refine ⟨_, rfl, rfl, ?_, ?_, ?_, ?_, ?_⟩
  · simp [Outcome.extra?_withExtra]
  · simp [Outcome.extra?_withExtra]
  · intro hj v hv
    simp [Outcome.extra?_withExtra, payloadValue, ← hformat, hj, hv]
  · rintro (ht | hnone)
    · simp [Outcome.extra?_withExtra, payloadValue, ← hformat, ht]
    · simp only [Outcome.extra?_withExtra, payloadValue, hnone]
      cases q.format <;> simp
  · simp [Outcome.extra?_withExtra, hkeys]

theorem Sql.execute_describes {backend : Backend} {gate : Gate} {q : SqlBinding} {s : Statement}
    (hs : b.isShadow = true) (hw : q.readOnly = false) (hb : bind q args = .ok s)
    (hg : gate s true = .ok ()) :
    ∃ o, (execute backend gate b q args r).outcome = .ok o ∧ o.shadow = true
      ∧ o.DescribesStatement s := by
  rw [execute_shadow hb hw (by rw [hs]; exact hg) hs]
  refine ⟨_, rfl, rfl, ?_, Members.ofList s.parameters, ?_, fun _ _ => get?_parameters hb⟩
  · simp [Outcome.extra?_withExtra]
  · simp [Outcome.extra?_withExtra, Statement.parametersJson, Json.ofPairs]

end

/-! ## The preview -/

namespace Executor

/-- A gate approves what a binding asks of it for arguments, in either mode. -/
def Approves (e : Executor) (b : Binding) (args : Members) : Prop :=
  match e, b.protocol with
  | .sql _ gate, .sql q => ∀ s, Sql.bind q args = .ok s → ∀ shadow, gate s shadow = .ok ()
  | _, _ => True

/-- An executor of another kind hands its arguments on and calls nothing that a binding reaches. -/
theorem not_external_of_custom {type : String} {answers : Nat → Except Failure Outcome}
    {b : Binding} {args : Members} {r : Resolver} {event : Event}
    (he : event ∈ ((custom type answers).execute b args r).events) : event.isExternal = false := by
  rcases mem_bind_events.1 he with he | ⟨-, -, he⟩
  · rw [List.mem_singleton.1 he]
    rfl
  · cases he

/-- If every credential stands for itself, then whatever an active run calls, the shadow run with
the same arguments succeeds with any resolver, is marked as intercepted and describes that call. -/
theorem shadow_describes {r : Resolver} (hr : r.Quotes) (e : Executor) {b : Binding}
    (hm : b.isMutating = true) {args : Members} (ha : e.Approves b args) {call : Event}
    (hc : call ∈ (e.execute { b with mode := .active } args r).calls) (other : Resolver) :
    ∃ o, (e.execute { b with mode := .shadow } args other).outcome = .ok o ∧ o.shadow = true
      ∧ o.Describes call := by
  obtain ⟨protocol, mode, timeoutMs, retry⟩ := b
  obtain ⟨he, hx⟩ := mem_calls.1 hc
  cases e with
  | http client =>
    cases protocol with
    | http h =>
      obtain ⟨q, hq, rfl⟩ := Http.send_of_execute rfl he hx
      obtain ⟨hmethod, hurl, hkeys, hbody⟩ := Http.request_of_quotes hr hq
      exact Http.execute_describes rfl hm hmethod hurl hkeys hbody
    | _ => cases he
  | queue adapters =>
    cases protocol with
    | queue q =>
      obtain ⟨connection, m, hq, rfl⟩ := Queue.publish_of_execute rfl he hx
      rw [Queue.message_of_quotes hr] at hq
      exact Queue.execute_describes rfl hq
    | _ => cases he
  | sql backend gate =>
    cases protocol with
    | sql q =>
      have hw : q.readOnly = false := by simpa [Binding.isMutating] using hm
      obtain ⟨connection, s, hb, rfl⟩ := Sql.write_of_execute hw rfl he hx
      exact Sql.execute_describes rfl hw hb (ha s hb true)
    | _ => cases he
  | custom type answers =>
    rw [not_external_of_custom he] at hx
    cases hx

/-- A request with references in its URL, its header and its body, and a write. -/
theorem shadow_describes_request_and_write :
    let post : Binding :=
      { protocol := .http
          { method := .post, url := "https://api.test/$\x7bTENANT\x7d/\x7bid\x7d",
            headers := [("Authorization", "Bearer $\x7bTOKEN\x7d")],
            body := some (.obj [("key", .str "$\x7bTOKEN\x7d"), ("order", .str "\x7bid\x7d")]) } }
    let insert : Binding :=
      { protocol := .sql
          { connection := "$\x7bLINK\x7d", query := "INSERT INTO orders VALUES (:id)",
            readOnly := false, parameters := [("id", "id")] } }
    let args : Members := [("id", .int 7)]
    let http : Executor := .http Http.Client.offline
    let sql : Executor :=
      .sql ⟨fun _ => { outcome := .ok [] }, fun _ => { outcome := .ok 1 }⟩ Sql.approveWrites
    let request : Http.Request :=
      { method := .post, url := "https://api.test/$\x7bTENANT\x7d/7",
        headers := [("Authorization", "Bearer $\x7bTOKEN\x7d")],
        body := some (.obj [("key", .str "$\x7bTOKEN\x7d"), ("order", .int 7)]) }
    let statement : Sql.Statement :=
      { text := "INSERT INTO orders VALUES (:id)", parameters := [("id", .int 7)] }
    (∃ o, (http.execute { post with mode := .shadow } args {}).outcome = .ok o ∧ o.shadow = true
        ∧ o.Describes (.send request))
      ∧ ∃ o, (sql.execute { insert with mode := .shadow } args {}).outcome = .ok o
        ∧ o.shadow = true ∧ o.Describes (.write "$\x7bLINK\x7d" statement) := by
  intro post insert args http sql request statement
  have sent : Event.send request ∈
      (http.execute { post with mode := .active } args Resolver.quoting).calls := by
    refine mem_calls.2 ⟨mem_bind_events.2 (.inr ⟨request, rfl, mem_bind_events.2 (.inl ?_)⟩), rfl⟩
    obtain ⟨more, outcome, h⟩ := retried_head { post with mode := .active } "http" (.send request)
      (Http.sendOnce Http.Client.offline request)
    rw [h]
    exact List.mem_cons_self
  have written : Event.write "$\x7bLINK\x7d" statement ∈
      (sql.execute { insert with mode := .active } args Resolver.quoting).calls := by
    have hcalls : (sql.execute { insert with mode := .active } args Resolver.quoting).calls =
        [.write "$\x7bLINK\x7d" statement] := rfl
    rw [hcalls]
    exact List.mem_cons_self
  have approved : sql.Approves insert args := fun _ _ _ => rfl
  exact ⟨shadow_describes Resolver.quotes_quoting http rfl trivial sent {},
    shadow_describes Resolver.quotes_quoting sql rfl approved written {}⟩

end Executor
end Toolwire
