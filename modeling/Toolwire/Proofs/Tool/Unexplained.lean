import Mathlib
import Toolwire.Manifest.Build
import Toolwire.Proofs.Binding.RoundTrip
import Toolwire.Proofs.Http.Response
import Toolwire.Proofs.Tool.Recording
import Toolwire.Proofs.Tool.Stages
/-!
# Failures and their texts

The record of a failed invocation of a web service has the text of the failure, but for one course:
the reply is a success that the declaration labels an error. Then there is a verdict without a
reason: `record_unexplained`.
-/
namespace Toolwire

theorem Status.ofText_eq_error {label : String} :
    Status.ofText label = .error ↔ label = "error" := by
  constructor
  · intro h
    rw [← (Status.named_ofText label).text, h]
    rfl
  · rintro rfl
    rfl

theorem Trace.retried_ok {α : Type} {b : Binding} {operation : String} {call : Event}
    {attempts : Nat → Attempt α} {a : α} (h : (attempts 0).within b.timeoutMs = .ok a) :
    (retried b operation call attempts).outcome = .ok a := by
  unfold retried ofRun Retry.run
  cases b.retry.maxAttempts - 1 with
  | zero => exact h
  | succ left => simp only [Retry.runFrom, h]

namespace Http

variable {client : Client} {b : Binding} {h : HttpBinding} {args : Members} {r : Resolver}
  {m : ResponseMapping} {reply : Reply} {o : Outcome}

/-! ## The outcome of a reply -/

/-- A run sends its request, and an attempt of it ends in a complete reply. -/
structure Replied (client : Client) (b : Binding) (h : HttpBinding) (args : Members) (r : Resolver)
    (reply : Reply) : Prop where
  sent : (b.isShadow && h.method.isMutating) = false
  replied : ∃ q, request h args r = .ok q
    ∧ (Trace.retried b "http" (.send q) (sendOnce client q)).outcome = .ok reply

theorem execute_of_replied (hr : Replied client b h args r reply) :
    (execute client b h args r).outcome = mapResponse h.mapping reply := by
  obtain ⟨sent, q, hq, hreply⟩ := hr
  unfold execute
  rw [if_neg (by simp [sent])]
  cases hm : mapResponse h.mapping reply with
  | ok o =>
    exact Trace.bind_outcome_ok.2 ⟨q, hq, Trace.bind_outcome_ok.2 ⟨reply, hreply, hm⟩⟩
  | error f =>
    refine Trace.bind_outcome_error.2 (.inr ⟨q, hq, ?_⟩)
    exact Trace.bind_outcome_error.2 (.inr ⟨reply, hreply, hm⟩)

/-- A run that is a success of any kind was intercepted or got a reply. -/
theorem execute_ok (ho : (execute client b h args r).outcome = .ok o) :
    (o.status = .success ∧ o.error = none) ∨ ∃ reply, Replied client b h args r reply := by
  unfold execute at ho
  split at ho
  · left
    unfold shadowOutcome at ho
    obtain ⟨url, -, ho⟩ := Trace.bind_outcome_ok.1 ho
    obtain ⟨body, -, ho⟩ := Trace.bind_outcome_ok.1 ho
    obtain ⟨-, -, ho⟩ := Trace.bind_outcome_ok.1 ho
    cases ho
    exact ⟨rfl, rfl⟩
  · rename_i sent
    right
    obtain ⟨q, hq, ho⟩ := Trace.bind_outcome_ok.1 ho
    obtain ⟨reply, hreply, -⟩ := Trace.bind_outcome_ok.1 ho
    exact ⟨reply, by simpa using sent, q, hq, hreply⟩

theorem Carries.error_eq_none {code : Nat} {v : Json} {data : Option Json} {error : Option String}
    (hc : Carries m code v data error) : error = none ↔ Succeeds code := by
  cases hc <;> simp [*]

theorem statusFor_eq_error {code : Nat} (hs : Succeeds code) :
    statusFor m code = .error ↔ m.label? code = some "error" := by
  unfold statusFor
  cases m.label? code with
  | some label => simpa using Status.ofText_eq_error
  | none => simp [isSuccess_iff.2 hs]

/-- What a reply to a sound binding becomes is an error without a text when it is a success that is
labelled an error. -/
theorem mapResponse_unexplained (readable : Readable m) (reply : Reply) :
    ∃ o, mapResponse m reply = .ok o
      ∧ (o.status = .error ∧ o.error = none ↔
        Succeeds reply.status ∧ m.label? reply.status = some "error") := by
  obtain ⟨data, error, hc⟩ := exists_carries readable reply.status (bodyValue reply.body)
  refine ⟨_, mapResponse_of_carries hc, ?_⟩
  rw [hc.error_eq_none, and_comm]
  exact and_congr_right fun hs => statusFor_eq_error hs

end Http

/-! ## Records -/

/-- A record says of an invocation that it failed, and not why. -/
def Record.Unexplained (r : Record) : Prop := r.verdict = .error ∧ r.errorMessage = none

namespace Call

open Http

variable {c : Call} {h : HttpBinding} {client : Client}

theorem verdict_of_errorMessage (hm : c.record.errorMessage.isSome = true) :
    c.record.verdict = .error := by
  unfold record at hm ⊢
  cases ho : c.invocation.outcome with
  | error f => rfl
  | ok o =>
    rw [ho] at hm
    cases hs : o.isError <;> simp_all [Tool.record]

/-- Failures always have a text, and errors that come back as outcomes may have none. -/
theorem unexplained_iff : c.record.Unexplained ↔
    ∃ o, c.invocation.outcome = .ok o ∧ o.status = .error ∧ o.error = none := by
  unfold Record.Unexplained record
  cases c.invocation.outcome with
  | error f => simp [Tool.record]
  | ok o =>
    simp only [Except.ok.injEq, exists_eq_left', ← o.isError_iff]
    cases hs : o.isError <;> simp [Tool.record, hs]

/-- The outcome of a call that passes every stage is that of the run of its executor. -/
theorem outcome_ok {e : Executor} (registered : c.registry.get? c.tool.binding.typeName = some e)
    {o : Outcome} (ho : c.invocation.outcome = .ok o) :
    ∃ ms, c.tool.Admits c.registry c.resolver c.arguments e ms
      ∧ (e.execute c.tool.binding ms c.resolver).outcome = .ok o := by
  by_cases ha : ∃ e ms, c.tool.Admits c.registry c.resolver c.arguments e ms
  · obtain ⟨e', ms, ha⟩ := ha
    obtain rfl : e' = e := Option.some.inj (ha.registered.symm.trans registered)
    exact ⟨ms, ha, (Tool.invoke_of_admits ha).2 ▸ ho⟩
  · obtain ⟨f, -, -, hf⟩ := Tool.invoke_of_not_admits ha
    rw [invocation, hf] at ho
    cases ho

/-- The record of a call of a web service has a text only with the verdict that the call failed, and
it has one with that verdict, but for calls whose reply is a success that is labelled an error. -/
theorem record_unexplained (hp : c.tool.binding.protocol = .http h)
    (registered : c.registry.get? "http" = some (.http client)) :
    (c.record.errorMessage.isSome = true → c.record.verdict = .error)
    ∧ (c.record.Unexplained ↔ ∃ ms reply,
      c.tool.Admits c.registry c.resolver c.arguments (.http client) ms
        ∧ Replied client c.tool.binding h ms c.resolver reply
        ∧ Succeeds reply.status ∧ h.mapping.label? reply.status = some "error") := by
  have execute_eq : ∀ ms, (Executor.http client).execute c.tool.binding ms c.resolver =
      execute client c.tool.binding h ms c.resolver := by
    intro ms
    simp only [Executor.execute, hp]
  have type : c.tool.binding.typeName = "http" := by
    rw [Binding.typeName, hp]
    rfl
  have readable {ms : Members}
      (ha : c.tool.Admits c.registry c.resolver c.arguments (.http client) ms) :
      Readable h.mapping :=
    readable_of_structuralErrors hp (Binding.structuralErrors_of_report ha.checked)
  refine ⟨verdict_of_errorMessage, unexplained_iff.trans ⟨?_, ?_⟩⟩
  · rintro ⟨o, ho, hs, he⟩
    obtain ⟨ms, ha, hrun⟩ := outcome_ok (by rw [type]; exact registered) ho
    rw [execute_eq] at hrun
    rcases execute_ok hrun with ⟨hsuccess, -⟩ | ⟨reply, hr⟩
    · rw [hs] at hsuccess
      cases hsuccess
    · obtain ⟨o', hmap, hun⟩ := mapResponse_unexplained (readable ha) reply
      rw [execute_of_replied hr, hmap] at hrun
      cases hrun
      exact ⟨ms, reply, ha, hr, hun.1 ⟨hs, he⟩⟩
  · rintro ⟨ms, reply, ha, hr, hlabel⟩
    obtain ⟨o, hmap, hun⟩ := mapResponse_unexplained (readable ha) reply
    obtain ⟨hs, he⟩ := hun.2 hlabel
    refine ⟨o, ?_, hs, he⟩
    rw [invocation, (Tool.invoke_of_admits ha).2, execute_eq, execute_of_replied hr, hmap]

set_option maxRecDepth 10000 in
/-- A label for a whole class of successes. -/
theorem record_unexplained_class :
    let h : HttpBinding :=
      { url := "https://x.example", mapping := { statusCodes := [("2xx", "error")] } }
    let client : Client := ⟨fun _ _ => { outcome := .ok ⟨204, ""⟩ }⟩
    let registry := Registry.empty.register (.http client)
    let tool : Tool :=
      { name := "orders", description := "", schema := .obj [], binding := { protocol := .http h } }
    let c : Call := { tool, registry, resolver := {}, arguments := .null }
    c.tool.binding.protocol = .http h ∧ c.registry.get? "http" = some (.http client)
      ∧ c.record.Unexplained := by
  intro h client registry tool c
  have admits : tool.Admits registry {} .null (.http client) [] :=
    { checked := by decide +kernel, read := .null, accepted := by rfl
      known := by
        have none : tool.binding.credentialReferences = [] := by decide +kernel
        rw [none]
        exact List.forall_mem_nil _
      registered := rfl }
  let q : Request := ⟨.get, "https://x.example", [], none⟩
  have first : (sendOnce client q 0).within tool.binding.timeoutMs = .ok ⟨204, ""⟩ := by
    rw [sendOnce, if_pos (by decide +kernel)]
    rfl
  have rendered : request h [] {} = .ok q := by cbv
  have replied : Replied client tool.binding h [] {} ⟨204, ""⟩ :=
    ⟨rfl, q, rendered, Trace.retried_ok first⟩
  exact ⟨rfl, rfl, (record_unexplained rfl rfl).2.2
    ⟨[], ⟨204, ""⟩, admits, replied, by decide, by decide +kernel⟩⟩

set_option maxRecDepth 10000 in
/-- A declaration that labels the success 200 an error is accepted, and when the server of the tool
that is built of it answers so, the record of the call is an error without a text. -/
theorem record_unexplained_success :
    let d : ToolDeclaration :=
      { name := "orders", binding := .ofPairs [("type", .str "http"),
          ("url", .str "https://x.example"),
          ("response_mapping", .obj [("status_codes", .obj [("200", .str "error")])])] }
    let client : Client := ⟨fun _ _ => { outcome := .ok ⟨200, "{}"⟩ }⟩
    let registry := Registry.empty.register (.http client)
    ∃ t, (d.build registry.types {}).2 = .ok t
      ∧ let c : Call := { tool := t, registry, resolver := {}, arguments := .obj [] }
        c.record.verdict = .error ∧ c.record.errorMessage = none := by
  intro d client registry
  let b : Binding :=
    { protocol := .http { url := "https://x.example",
                          mapping := { statusCodes := [("200", "error")] } } }
  have parsed : Binding.parse d.binding .strict = .ok (b, []) := by rfl
  have named : ToolDeclaration.nameProblem? d.name = none := by decide +kernel
  refine ⟨{ name := "orders", description := "", schema := d.parameters, binding := b },
    ?built, ?verdict, ?message⟩
  case built =>
    unfold ToolDeclaration.build
    simp only [named, parsed]
    rfl
  case verdict => decide +kernel
  case message => decide +kernel

end Call
end Toolwire
