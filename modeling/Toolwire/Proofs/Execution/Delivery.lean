import Mathlib
import Toolwire.Proofs.Execution.Calls
/-!
# One content for all calls

A call of a web service and a publish go the same way: what the call carries is put together first,
then the call is made, over and over as long as it fails so that another attempt may succeed, and an
answer of any kind ends the run. `execute_one_content` says so of both executors.
-/
namespace Toolwire

variable {κ α : Type}

/-- A way of reaching the outside: what a call needs, the call that carries it, what its attempts
come to and what becomes of an answer. -/
structure Delivery (κ α : Type) where
  operation : String
  content : Members → Resolver → Except Failure κ
  call : κ → Event
  attempts : κ → Nat → Attempt α
  finish : α → Except Failure Outcome

namespace Delivery

/-- A run puts its content together, makes its call until it is answered, and finishes. -/
def run (d : Delivery κ α) (b : Binding) (args : Members) (r : Resolver) : Trace Outcome := do
  let c ← Trace.ofExcept (d.content args r)
  let a ← Trace.retried b d.operation (d.call c) (d.attempts c)
  Trace.ofExcept (d.finish a)

/-- A trace makes the call of a content over and over, as calls `0` to `n`. -/
structure Repeats (d : Delivery κ α) (b : Binding) (c : κ) (n : Nat) (t : Trace Outcome) :
    Prop where
  /-- Every call of the outside is the same one. -/
  calls : t.calls = List.replicate (n + 1) (d.call c)
  /-- There are no more of them than the policy allows. -/
  allowed : n + 1 ≤ max 1 b.retry.maxAttempts
  /-- Another call follows a failure that it may mend, if one is left, and nothing else. -/
  again : ∀ i ≤ n, i < n ↔ i + 1 < max 1 b.retry.maxAttempts
    ∧ ∃ f, (d.attempts c i).within b.timeoutMs = .error f ∧ f.isRetryable = true
  /-- A call that is answered is the last one, and the answer is what the run comes to. -/
  answered : ∀ i ≤ n, ∀ a, (d.attempts c i).within b.timeoutMs = .ok a →
    i = n ∧ t.outcome = d.finish a
  /-- When the last call fails, so does the run. -/
  failed : ∀ f, (d.attempts c n).within b.timeoutMs = .error f → t.outcome = .error f

/-- Runs, each with arguments and credentials of its own, deliver one content each. -/
structure OneContent (d : Delivery κ α) (b : Binding) (run : Members → Resolver → Trace Outcome) :
    Prop where
  /-- A run whose content is not to be had fails before anything is done. -/
  missing : ∀ args r f, d.content args r = .error f → run args r = Trace.fail f
  /-- The content is complete before the first call: from there on arguments and credentials have no
  part in a run, so two runs with the same content are the same. -/
  complete : ∀ args r args' r', d.content args r = d.content args' r' → run args r = run args' r'
  /-- A run that has its content makes the call of it over and over. -/
  repeats : ∀ args r c, d.content args r = .ok c → ∃ n, d.Repeats b c n (run args r)

section
variable {d : Delivery κ α} {b : Binding} {args : Members} {r : Resolver} {c : κ}

theorem run_of_error {f : Failure} (h : d.content args r = .error f) :
    d.run b args r = Trace.fail f := by
  unfold run
  rw [h]
  rfl

theorem run_of_ok (h : d.content args r = .ok c) :
    d.run b args r =
      ⟨(Trace.retried b d.operation (d.call c) (d.attempts c)).events,
        (Trace.retried b d.operation (d.call c) (d.attempts c)).outcome >>= d.finish⟩ := by
  unfold run
  rw [h]
  exact (Trace.bind_of_ok rfl).trans (Trace.bind_ofExcept _ d.finish)

theorem outcome_run_of_ok (h : d.content args r = .ok c) :
    (d.run b args r).outcome =
      (d.attempts c (Retry.last b.retry b.timeoutMs (d.attempts c))).within b.timeoutMs
        >>= d.finish := by
  rw [run_of_ok h, ← Retry.outcome_run]
  rfl

/-- The calls of a run are the attempts up to the last one that the policy makes. -/
theorem repeats_run (hc : (d.call c).isExternal = true) (h : d.content args r = .ok c) :
    d.Repeats b c (Retry.last b.retry b.timeoutMs (d.attempts c)) (d.run b args r) := by
  have outcome := outcome_run_of_ok (b := b) h
  obtain ⟨below, before, ends⟩ := Retry.last_spec b.retry b.timeoutMs (d.attempts c)
  generalize hn : Retry.last b.retry b.timeoutMs (d.attempts c) = n at outcome below before ends ⊢
  unfold Retry.allowed at below ends
  refine ⟨?calls, below, ?again, ?answered, ?failed⟩
  case calls =>
    rw [run_of_ok h, ← hn]
    exact Trace.calls_retried hc b d.operation (d.attempts c)
  case again =>
    intro i hi
    constructor
    · intro hlt
      exact ⟨by omega, Retry.isFinal_eq_false.1 (before i hlt)⟩
    · rintro ⟨hleft, hf⟩
      refine Nat.lt_of_le_of_ne hi ?_
      rintro rfl
      -- The last attempt is final, or there is none left behind it.
      rcases ends with hfinal | hnone
      · rw [Retry.isFinal_eq_false.2 hf] at hfinal
        cases hfinal
      · omega
  case answered =>
    intro i hi a ha
    have hin : i = n := by
      by_contra hne
      obtain ⟨f, hf, -⟩ := Retry.isFinal_eq_false.1 (before i (Nat.lt_of_le_of_ne hi hne))
      rw [ha] at hf
      cases hf
    subst hin
    rw [outcome, ha]
    exact ⟨rfl, rfl⟩
  case failed =>
    intro f hf
    rw [outcome, hf]
    rfl

theorem oneContent_run (hc : ∀ c, (d.call c).isExternal = true) : d.OneContent b (d.run b) where
  missing _ _ _ h := run_of_error h
  complete args r args' r' h := by
    unfold run
    rw [h]
  repeats _ _ _ h := ⟨_, repeats_run (hc _) h⟩

end

end Delivery

/-! ## Requests and messages -/

/-- A request is rendered as a whole, sent, and its response mapped. -/
def Http.delivery (client : Client) (h : HttpBinding) : Delivery Request Reply where
  operation := "http"
  content := request h
  call := .send
  attempts := sendOnce client
  finish := mapResponse h.mapping

theorem Http.execute_eq_run {b : Binding} {h : HttpBinding}
    (hs : (b.isShadow && h.method.isMutating) = false) (client : Client) :
    execute client b h = (delivery client h).run b := by
  funext args r
  unfold execute
  rw [hs, if_neg Bool.false_ne_true]
  rfl

/-- All that a publish needs. -/
structure Queue.Publication where
  adapter : Adapter
  connection : String
  message : Message

/-- What a publish needs is looked up, resolved and rendered, in this order. -/
def Queue.publication (adapters : Adapters) (q : QueueBinding) (args : Members) (r : Resolver) :
    Except Failure Publication :=
  match adapters.lookup q.provider with
  | none => .error (noAdapter q.provider)
  | some adapter => do
    let connection ← (r.resolveCredential "connection" q.connection).mapError Failure.credential
    let m ← message q args (.resolve r)
    return ⟨adapter, connection, m⟩

/-- A message is handed to its adapter with the connection, and its id reported. -/
def Queue.delivery (adapters : Adapters) (q : QueueBinding) :
    Delivery Publication (Option String) where
  operation := "queue.publish"
  content := publication adapters q
  call p := .publish q.provider p.connection p.message
  attempts p := p.adapter
  finish id := .ok (publishedOutcome id)

theorem Queue.execute_eq_run {b : Binding} (hs : b.isShadow = false) (adapters : Adapters)
    (q : QueueBinding) : execute adapters b q = (delivery adapters q).run b := by
  funext args r
  have content : (delivery adapters q).content args r = publication adapters q args r := rfl
  unfold execute Delivery.run
  rw [hs, if_neg Bool.false_ne_true, content, publication]
  cases adapters.lookup q.provider with
  | none => rfl
  | some adapter =>
    cases r.resolveCredential "connection" q.connection with
    | error err => rfl
    | ok connection => cases message q args (.resolve r) <;> rfl

/-- A run that is not intercepted makes one call of one content, and makes it again only for want of
an answer: whatever the status of a response, and whether or not a message has an id, the call that
it answers is the last one. -/
theorem Executor.execute_one_content {b : Binding} (active : (b.isShadow && b.isMutating) = false) :
    (∀ client h, b.protocol = .http h →
      (Http.delivery client h).OneContent b ((Executor.http client).execute b))
    ∧ ∀ adapters q, b.protocol = .queue q →
      (Queue.delivery adapters q).OneContent b ((Executor.queue adapters).execute b) := by
  unfold Binding.isMutating at active
  constructor
  · intro client h hp
    rw [hp] at active
    have execute_eq : (Executor.http client).execute b = Http.execute client b h := by
      funext args r
      simp only [execute, hp]
    rw [execute_eq, Http.execute_eq_run active]
    exact Delivery.oneContent_run fun _ => rfl
  · intro adapters q hp
    rw [hp, Bool.and_true] at active
    have execute_eq : (Executor.queue adapters).execute b = Queue.execute adapters b q := by
      funext args r
      simp only [execute, hp]
    rw [execute_eq, Queue.execute_eq_run active]
    exact Delivery.oneContent_run fun _ => rfl

/-- A read in shadow mode that is answered at the third attempt, and a publish at the second. -/
theorem Executor.execute_one_content_third :
    let r : Resolver := { overrides := [("SHOP", "shop.example"), ("BROKER", "broker:9092")] }
    let args : Members := [("id", .ofNat 7)]
    let h : HttpBinding := { url := "https://$\x7bSHOP\x7d/orders/\x7bid\x7d" }
    let read : Binding := { protocol := .http h, mode := .shadow, retry := { maxAttempts := 5 } }
    let late : Attempt Http.Reply := { afterMs := 60000, outcome := .ok ⟨200, ""⟩ }
    let replies := [late, { outcome := .error Http.unreachable }, { outcome := .ok ⟨503, "down"⟩ }]
    let client : Http.Client := ⟨fun i _ => replies.getD i late⟩
    let request : Http.Request := ⟨.get, "https://shop.example/orders/7", [], none⟩
    let q : QueueBinding :=
      { provider := .kafka, connection := "$\x7bBROKER\x7d", topic := "orders.\x7bid\x7d" }
    let publish : Binding := { protocol := .queue q }
    let adapter : Queue.Adapter := fun i =>
      { outcome := if i = 0 then .error (.transport "reset") else .ok (some "m-1") }
    let adapters : Queue.Adapters := [(.kafka, adapter)]
    let message : Queue.Message := ⟨"orders.7", "\x7b\"id\":7\x7d", .json, []⟩
    ((read.isShadow && read.isMutating) = false
      ∧ Http.request h args r = .ok request
      ∧ ((Executor.http client).execute read args r).calls = List.replicate 3 (.send request)
      ∧ ((Executor.http client).execute read args r).outcome
        = Http.mapResponse h.mapping ⟨503, "down"⟩)
    ∧ (publish.isShadow && publish.isMutating) = false
      ∧ Queue.publication adapters q args r = .ok ⟨adapter, "broker:9092", message⟩
      ∧ ((Executor.queue adapters).execute publish args r).calls
        = List.replicate 2 (.publish .kafka "broker:9092" message)
      ∧ ((Executor.queue adapters).execute publish args r).outcome
        = .ok (Queue.publishedOutcome (some "m-1")) := by
  intro r args h read late replies client request q publish adapter adapters message
  have rendered : Http.request h args r = .ok request := by cbv
  have accepted : request.isAcceptable = true := by decide +kernel
  have sent : ∀ i, Http.sendOnce client request i = client.send i request := fun _ => if_pos accepted
  have ready : Queue.publication adapters q args r = .ok ⟨adapter, "broker:9092", message⟩ := by
    cbv
  constructor
  · obtain ⟨n, hn⟩ := ((execute_one_content (b := read) rfl).1 client h rfl).repeats _ _ _ rendered
    have first : 0 < n := (hn.again 0 (Nat.zero_le n)).2
      ⟨by decide, .timeout 30000, congrArg (Attempt.within · 30000) (sent 0), rfl⟩
    have second : 1 < n := (hn.again 1 first).2
      ⟨by decide, Http.unreachable, congrArg (Attempt.within · 30000) (sent 1), rfl⟩
    obtain ⟨rfl, outcome⟩ := hn.answered 2 second ⟨503, "down"⟩
      (congrArg (Attempt.within · 30000) (sent 2))
    exact ⟨rfl, rendered, hn.calls, outcome⟩
  · obtain ⟨n, hn⟩ := ((execute_one_content (b := publish) rfl).2 adapters q rfl).repeats _ _ _ ready
    have first : 0 < n := (hn.again 0 (Nat.zero_le n)).2 ⟨by decide, .transport "reset", rfl, rfl⟩
    obtain ⟨rfl, outcome⟩ := hn.answered 1 first (some "m-1") rfl
    exact ⟨rfl, ready, hn.calls, outcome⟩

end Toolwire
