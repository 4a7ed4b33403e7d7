import Mathlib
import Toolwire.Proofs.Execution.Calls
import Toolwire.Proofs.Execution.Shadow
/-!
# Secrets before the first call

Two resolvers that refuse the same names for the same reasons may hold different values. Until an
outside system is called an invocation does the same with both, and if none is called it comes to
the same, in every text that it gives: `invoke_alike`.
-/
namespace Toolwire

variable {ε α β α' β' : Type}

/-! ## Failing alike -/

/-- Two computations fail alike: both for the same reason, or neither. -/
inductive FailAlike : Except ε α → Except ε β → Prop where
  | error (e : ε) : FailAlike (.error e) (.error e)
  | ok (a : α) (b : β) : FailAlike (.ok a) (.ok b)

namespace FailAlike

variable {x : Except ε α} {y : Except ε β}

theorem refl (x : Except ε α) : FailAlike x x := by
  cases x with
  | error e => exact .error e
  | ok a => exact .ok a a

theorem either (h : FailAlike x y) :
    (∃ e, x = .error e ∧ y = .error e) ∨ ∃ a b, x = .ok a ∧ y = .ok b := by
  cases h with
  | error e => exact .inl ⟨e, rfl, rfl⟩
  | ok a b => exact .inr ⟨a, b, rfl, rfl⟩

theorem map (h : FailAlike x y) (f : α → α') (g : β → β') : FailAlike (x.map f) (y.map g) := by
  cases h with
  | error e => exact .error e
  | ok a b => exact .ok (f a) (g b)

theorem bind {f : α → Except ε α'} {g : β → Except ε β'} (h : FailAlike x y)
    (hf : ∀ a b, FailAlike (f a) (g b)) : FailAlike (x >>= f) (y >>= g) := by
  cases h with
  | error e => exact .error e
  | ok a b => exact hf a b

end FailAlike

/-! ## Looking up -/

namespace Resolver

/-- Every name is refused by both for the same reason, or known to both. -/
def Alike (r r' : Resolver) : Prop := ∀ name, FailAlike (r.lookup name) (r'.lookup name)

variable {r r' : Resolver}

open Text in
theorem resolvePieces_alike (h : r.Alike r') (ps : List (Piece String)) (done done' : List Char) :
    FailAlike (r.resolvePieces done ps) (r'.resolvePieces done' ps) := by
  induction ps generalizing done done' with
  | nil => exact .ok _ _
  | cons p ps ih =>
    cases p with
    | char c => exact ih _ _
    | found name =>
      unfold resolvePieces
      rcases (h name).either with ⟨e, hl, hl'⟩ | ⟨value, value', hl, hl'⟩ <;> rw [hl, hl']
      · exact .error e
      · exact ih _ _

/-- Why a credential field is refused does not depend on a value. -/
theorem resolveCredential_alike (h : r.Alike r') (field text : String) :
    FailAlike (r.resolveCredential field text) (r'.resolveCredential field text) := by
  unfold resolveCredential
  split
  · split
    · exact .refl _
    · exact (resolvePieces_alike h _ _ _).map _ _
  · exact .refl _

theorem ensure_alike (h : r.Alike r') (names : List String) : r.ensure names = r'.ensure names := by
  induction names with
  | nil => rfl
  | cons name names ih =>
    unfold ensure
    rcases (h name).either with ⟨e, hl, hl'⟩ | ⟨value, value', hl, hl'⟩ <;> rw [hl, hl']
    exact ih

end Resolver

/-! ## Templates -/

namespace Template

section
variable {args : Members} {r r' : Resolver}

theorem text_alike (h : r.Alike r') (t : Token) :
    FailAlike (t.text args (.resolve r)) (t.text args (.resolve r')) := by
  cases t with
  | argument name => exact .refl _
  | credential name =>
    unfold Token.text Credentials.substitute
    rcases (h name).either with ⟨e, hl, hl'⟩ | ⟨value, value', hl, hl'⟩ <;> simp only [hl, hl']
    · exact .error _
    · exact .ok value value'

open Text in
theorem renderPieces_alike (h : r.Alike r') (ps : List (Piece Token)) (done done' : List Char) :
    FailAlike (renderPieces args (.resolve r) done ps)
      (renderPieces args (.resolve r') done' ps) := by
  induction ps generalizing done done' with
  | nil => exact .ok _ _
  | cons p ps ih =>
    cases p with
    | char d => exact ih _ _
    | found t =>
      unfold renderPieces
      have ht : FailAlike (t.text args (.resolve r)) (t.text args (.resolve r')) := text_alike h t
      rcases ht.either with ⟨e, ht, ht'⟩ | ⟨text, text', ht, ht'⟩ <;> rw [ht, ht']
      · exact .error e
      · exact ih _ _

theorem render_alike (h : r.Alike r') (s : String) :
    FailAlike (render s args (.resolve r)) (render s args (.resolve r')) :=
  (renderPieces_alike h _ _ _).map _ _

theorem renderHeaders_alike (h : r.Alike r') (hs : List (String × String)) :
    FailAlike (renderHeaders args (.resolve r) hs) (renderHeaders args (.resolve r') hs) := by
  induction hs with
  | nil => exact .refl _
  | cons header rest ih =>
    obtain ⟨name, value⟩ := header
    unfold renderHeaders
    have hv : FailAlike (render value args (.resolve r)) (render value args (.resolve r')) :=
      render_alike h value
    rcases hv.either with ⟨e, hv, hv'⟩ | ⟨text, text', hv, hv'⟩ <;> rw [hv, hv']
    · exact .error e
    · exact ih.map _ _

mutual

/-- Why a JSON template has no rendering does not depend on a value either. -/
theorem renderJson_alike (h : r.Alike r') : (v : Json) →
    FailAlike (renderJson args (.resolve r) v) (renderJson args (.resolve r') v)
  | .str s => by
    unfold renderJson
    split
    · exact .refl _
    · exact (render_alike h s).map _ _
  | .arr items => by
    unfold renderJson
    exact (renderItems_alike h items).map _ _
  | .obj ms => by
    unfold renderJson
    exact (renderMembers_alike h ms).map _ _
  | .null => .ok _ _
  | .bool _ => .ok _ _
  | .int _ => .ok _ _
  | .float _ => .ok _ _

theorem renderItems_alike (h : r.Alike r') : (items : List Json) →
    FailAlike (renderItems args (.resolve r) items) (renderItems args (.resolve r') items)
  | [] => .ok _ _
  | x :: xs => by
    unfold renderItems
    rcases (renderJson_alike h x).either with ⟨e, hx, hx'⟩ | ⟨y, y', hx, hx'⟩ <;> rw [hx, hx']
    · exact .error e
    · exact (renderItems_alike h xs).map _ _

theorem renderMembers_alike (h : r.Alike r') : (ms : List (String × Json)) →
    FailAlike (renderMembers args (.resolve r) ms) (renderMembers args (.resolve r') ms)
  | [] => .ok _ _
  | (k, x) :: ms => by
    unfold renderMembers
    rcases (renderJson_alike h x).either with ⟨e, hx, hx'⟩ | ⟨y, y', hx, hx'⟩ <;> rw [hx, hx']
    · exact .error e
    · exact (renderMembers_alike h ms).map _ _

end

end

end Template

/-! ## Requests and messages -/

section
variable {args : Members} {r r' : Resolver}

theorem Http.request_alike (h : r.Alike r') (b : HttpBinding) :
    FailAlike (request b args r) (request b args r') := by
  have body : FailAlike (requestBody b args (.resolve r)) (requestBody b args (.resolve r')) := by
    unfold requestBody
    split
    · split
      · exact (Template.renderJson_alike h _).map _ _
      · exact .refl _
    · exact .refl _
  unfold request
  refine (Template.render_alike h b.url).bind fun url url' => ?_
  refine (Template.renderHeaders_alike h b.headers).bind fun headers headers' => ?_
  exact body.bind fun _ _ => .ok _ _

theorem Queue.message_alike (h : r.Alike r') (q : QueueBinding) :
    FailAlike (message q args (.resolve r)) (message q args (.resolve r')) := by
  unfold message
  refine (Template.render_alike h q.topic).bind fun topic topic' => ?_
  exact (Template.renderHeaders_alike h q.headers).bind fun _ _ => .ok _ _

end

/-! ## Concurring traces -/

/-- An outside system is called. -/
def CallsOutside (events : List Event) : Prop := ∃ e ∈ events, e.isExternal = true

/-- What happens before an outside system is called. -/
def beforeCall (events : List Event) : List Event := events.takeWhile fun e => !e.isExternal

theorem callsOutside_of_split {before after : List Event} {event : Event}
    (h : event.isExternal = true) : CallsOutside (before ++ event :: after) :=
  ⟨event, List.mem_append_right _ List.mem_cons_self, h⟩

theorem beforeCall_split {before after : List Event} {event : Event}
    (quiet : ∀ e ∈ before, e.isExternal = false) (h : event.isExternal = true) :
    beforeCall (before ++ event :: after) = before := by
  unfold beforeCall
  rw [List.takeWhile_append_of_pos fun e he => by rw [quiet e he]; rfl, List.takeWhile_cons, h]
  exact List.append_nil before

namespace Trace

/-- Two traces concur: they do the same until both call an outside system, or they do the same and
call none, and then fail with one failure or give values that are related. -/
inductive Concur (R : α → β → Prop) : Trace α → Trace β → Prop where
  | call {before after after' : List Event} {event event' : Event}
    {outcome : Except Failure α} {outcome' : Except Failure β}
    (quiet : ∀ e ∈ before, e.isExternal = false) (external : event.isExternal = true)
    (external' : event'.isExternal = true) :
    Concur R ⟨before ++ event :: after, outcome⟩ ⟨before ++ event' :: after', outcome'⟩
  | fail {events : List Event} (f : Failure) (quiet : ∀ e ∈ events, e.isExternal = false) :
    Concur R ⟨events, .error f⟩ ⟨events, .error f⟩
  | give {events : List Event} {a : α} {b : β} (quiet : ∀ e ∈ events, e.isExternal = false)
    (related : R a b) : Concur R ⟨events, .ok a⟩ ⟨events, .ok b⟩

namespace Concur

variable {R : α → β → Prop} {S : α' → β' → Prop} {t : Trace α} {u : Trace β}

theorem of_quiet {t : Trace α} (h : t.IsQuiet) : Concur (fun a b => a = b) t t := by
  obtain ⟨events, outcome⟩ := t
  have quiet : ∀ e ∈ events, e.isExternal = false := fun e he => (h e he).1
  cases outcome with
  | error f => exact .fail f quiet
  | ok a => exact .give quiet rfl

theorem ofExcept {x : Except Failure α} {y : Except Failure β} (h : FailAlike x y) :
    Concur (fun _ _ => True) (Trace.ofExcept x) (Trace.ofExcept y) := by
  cases h with
  | error f => exact .fail f nofun
  | ok a b => exact .give nofun trivial

theorem ofCredential {x : Except CredentialError α} {y : Except CredentialError β}
    (h : FailAlike x y) :
    Concur (fun _ _ => True) (Trace.ofCredential x) (Trace.ofCredential y) := by
  cases h with
  | error e => exact .fail _ nofun
  | ok a b => exact .give nofun trivial

/-- Retried calls concur whatever comes out of them. -/
theorem retried {b : Binding} {operation : String} {call call' : Event}
    (hc : call.isExternal = true) (hc' : call'.isExternal = true) (attempts : Nat → Attempt α)
    (attempts' : Nat → Attempt β) :
    Concur (fun _ _ => False) (Trace.retried b operation call attempts)
      (Trace.retried b operation call' attempts') := by
  obtain ⟨more, outcome, h⟩ := retried_head b operation call attempts
  obtain ⟨more', outcome', h'⟩ := retried_head b operation call' attempts'
  rw [h, h']
  change Concur _ ⟨[] ++ call :: more, outcome⟩ ⟨[] ++ call' :: more', outcome'⟩
  exact .call nofun hc hc'

theorem prepend (h : Concur R t u) {events : List Event}
    (quiet : ∀ e ∈ events, e.isExternal = false) :
    Concur R ⟨events ++ t.events, t.outcome⟩ ⟨events ++ u.events, u.outcome⟩ := by
  have both : ∀ {others : List Event}, (∀ e ∈ others, e.isExternal = false) →
      ∀ e ∈ events ++ others, e.isExternal = false :=
    fun hq e he => (List.mem_append.1 he).elim (quiet e) (hq e)
  cases h with
  | call hq hx hx' =>
    rw [← List.append_assoc, ← List.append_assoc]
    exact .call (both hq) hx hx'
  | fail f hq => exact .fail f (both hq)
  | give hq hr => exact .give (both hq) hr

theorem bind {f : α → Trace α'} {g : β → Trace β'} (h : Concur R t u)
    (hf : ∀ a b, R a b → Concur S (f a) (g b)) : Concur S (t >>= f) (u >>= g) := by
  cases h with
  | @call before after after' event event' outcome outcome' hq hx hx' =>
    obtain ⟨more, o, ht⟩ := bind_extends ⟨before ++ event :: after, outcome⟩ f
    obtain ⟨more', o', hu⟩ := bind_extends ⟨before ++ event' :: after', outcome'⟩ g
    rw [ht, hu]
    simp only [List.append_assoc, List.cons_append]
    exact .call hq hx hx'
  | fail f hq =>
    rw [bind_of_error rfl, bind_of_error rfl]
    exact .fail f hq
  | give hq hr =>
    rw [bind_of_ok rfl, bind_of_ok rfl]
    exact (hf _ _ hr).prepend hq

theorem beforeCall_eq (h : Concur R t u) : beforeCall t.events = beforeCall u.events := by
  cases h with
  | call hq hx hx' => rw [beforeCall_split hq hx, beforeCall_split hq hx']
  | fail f hq => rfl
  | give hq hr => rfl

theorem callsOutside_iff (h : Concur R t u) : CallsOutside t.events ↔ CallsOutside u.events := by
  cases h with
  | call hq hx hx' => exact iff_of_true (callsOutside_of_split hx) (callsOutside_of_split hx')
  | fail f hq => exact Iff.rfl
  | give hq hr => exact Iff.rfl

theorem eq_of_quiet {t u : Trace α} (h : Concur (fun a b => a = b) t u)
    (hn : ¬ CallsOutside t.events) : t = u := by
  cases h with
  | call hq hx hx' => exact absurd (callsOutside_of_split hx) hn
  | fail f hq => rfl
  | give hq hr => rw [hr]

end Concur

end Trace

open Trace

/-! ## Executors -/

section
variable {r r' : Resolver}

theorem Http.execute_concur (h : r.Alike r') (client : Client) (b : Binding) (hb : HttpBinding)
    (args : Members) :
    Concur (fun o o' => o = o') (execute client b hb args r) (execute client b hb args r') := by
  unfold execute
  split
  · exact .of_quiet (shadowOutcome_spec hb args).1
  -- The two requests may differ by the values in them, but both are handed over.
  · refine (Concur.ofExcept (request_alike h hb)).bind fun request request' _ => ?_
    exact (Concur.retried rfl rfl _ _).bind fun _ _ hno => hno.elim

theorem Queue.execute_concur (h : r.Alike r') (adapters : Adapters) (b : Binding)
    (q : QueueBinding) (args : Members) :
    Concur (fun o o' => o = o') (execute adapters b q args r) (execute adapters b q args r') := by
  unfold execute
  split
  · exact .of_quiet (shadowOutcome_spec q args).1
  · split
    · exact .of_quiet (quiet_of_events_nil rfl)
    · have hc := r.resolveCredential_alike h "connection" q.connection
      refine (Concur.ofCredential hc).bind fun connection connection' _ => ?_
      refine (Concur.ofExcept (message_alike h q)).bind fun m m' _ => ?_
      exact (Concur.retried rfl rfl _ _).bind fun _ _ hno => hno.elim

/-- A retried call over a connection that is looked up. -/
theorem Trace.Concur.connected {b : Binding} {operation : String} {call : String → Event}
    (hc : ∀ connection, (call connection).isExternal = true) (h : r.Alike r') (text : String)
    (attempts : Nat → Attempt α) (result : α → β) :
    Concur (fun o o' => o = o')
      (do
        let connection ← Trace.ofCredential (r.resolveCredential "connection" text)
        let a ← Trace.retried b operation (call connection) attempts
        return result a)
      (do
        let connection ← Trace.ofCredential (r'.resolveCredential "connection" text)
        let a ← Trace.retried b operation (call connection) attempts
        return result a) := by
  have hl := r.resolveCredential_alike h "connection" text
  refine (Concur.ofCredential hl).bind fun connection connection' _ => ?_
  exact (Concur.retried (hc connection) (hc connection') _ _).bind fun _ _ hno => hno.elim

theorem Sql.execute_concur (h : r.Alike r') (backend : Backend) (gate : Gate) (b : Binding)
    (q : SqlBinding) (args : Members) :
    Concur (fun o o' => o = o') (execute backend gate b q args r)
      (execute backend gate b q args r') := by
  unfold execute
  -- Nothing in a statement is rendered, so the gate is asked about the same one.
  refine (Concur.of_quiet (quiet_of_events_nil rfl)).bind fun s s' hs => ?_
  subst hs
  split
  · exact .connected (fun _ => rfl) h _ _ _
  · refine (Concur.of_quiet (quiet_approve gate s b.isShadow)).bind fun _ _ _ => ?_
    split
    · exact .of_quiet (shadowOutcome_spec s).1
    · exact .connected (fun _ => rfl) h _ _ _

theorem Executor.execute_concur {e : Executor} (he : e.IsBuiltIn) (h : r.Alike r') (b : Binding)
    (args : Members) :
    Concur (fun o o' => o = o') (e.execute b args r) (e.execute b args r') := by
  unfold execute
  split
  · exact Http.execute_concur h _ b _ args
  · exact Queue.execute_concur h _ b _ args
  · exact Sql.execute_concur h _ _ b _ args
  · exact he.elim
  · exact .of_quiet (quiet_of_events_nil rfl)

end

/-! ## Invocations -/

/-- A record but for the time. -/
def Record.untimed (record : Record) : Record := { record with elapsedMs := 0, timestamp := ⟨0, 0⟩ }

namespace Tool

variable {r r' : Resolver}

/-- The stages before the executor take no notice of a value. -/
theorem prepare_alike (h : r.Alike r') (t : Tool) (registry : Registry) (args : Json) :
    t.prepare registry r args = t.prepare registry r' args := by
  unfold prepare resolve
  rw [r.ensure_alike h]

theorem invoke_concur {registry : Registry} (hb : ∀ p ∈ registry, p.2.IsBuiltIn)
    (h : r.Alike r') (t : Tool) (args : Json) :
    ∃ (stages : List (Stage × String)) (u u' : Trace Outcome), Concur (fun o o' => o = o') u u'
      ∧ t.invoke registry r args = ⟨stages ++ [lastStage u.outcome], u.events, u.outcome⟩
      ∧ t.invoke registry r' args = ⟨stages ++ [lastStage u'.outcome], u'.events, u'.outcome⟩ := by
  have quiet : ∀ e ∈ t.checkEvents, e.isExternal = false :=
    fun e he => (t.quiet_checkEvents e he).1
  unfold invoke
  rw [prepare_alike h]
  split
  · rename_i stages f hp
    exact ⟨stages, ⟨t.checkEvents, .error f⟩, ⟨t.checkEvents, .error f⟩, .fail f quiet, rfl, rfl⟩
  · rename_i stages e ms hp
    have run := Executor.execute_concur (hb _ (mem_of_prepare hp)) h t.binding ms
    exact ⟨stages, _, _, run.prepend quiet, rfl, rfl⟩

/-- Whatever the values of the credentials are, an invocation does the same until it calls an
outside system, and if it calls none it is the same in all, and so is its record but for the
time. -/
theorem invoke_alike {registry : Registry} (hb : ∀ p ∈ registry, p.2.IsBuiltIn) (h : r.Alike r')
    (t : Tool) (args : Json) :
    let i := t.invoke registry r args
    let i' := t.invoke registry r' args
    beforeCall i.events = beforeCall i'.events
      ∧ (CallsOutside i.events ↔ CallsOutside i'.events)
      ∧ (¬ CallsOutside i.events → i = i' ∧ ∀ stamp stamp',
        (t.record args i.outcome stamp).untimed = (t.record args i'.outcome stamp').untimed) := by
  intro i i'
  obtain ⟨stages, u, u', hu, hi, hi'⟩ := invoke_concur hb h t args
  refine ⟨?_, ?_, ?_⟩
  · simp only [i, i', hi, hi']
    exact hu.beforeCall_eq
  · simp only [i, i', hi, hi']
    exact hu.callsOutside_iff
  · intro hn
    have same : i = i' := by
      simp only [i, i', hi, hi'] at hn ⊢
      rw [hu.eq_of_quiet hn]
    refine ⟨same, fun stamp stamp' => ?_⟩
    rw [same]
    cases i'.outcome <;> rfl

/-- A read with a token in a header, once with the argument that its URL asks for and once
without. -/
theorem invoke_alike_token :
    let registry : Registry := [("http", .http ⟨fun _ _ => { outcome := .ok ⟨200, "7"⟩ }⟩)]
    let r : Resolver := { overrides := [("TOKEN", "alpha")] }
    let r' : Resolver := { overrides := [("TOKEN", "omega")] }
    let t : Tool :=
      { name := "read", description := "", schema := .obj [],
        binding := { protocol := .http { url := "https://x.example/\x7bid\x7d",
                                         headers := [("X-Token", "$\x7bTOKEN\x7d")] } } }
    let given := Json.obj [("id", .str "7")]
    ((t.invoke registry r given).events == (t.invoke registry r' given).events) = false
      ∧ beforeCall (t.invoke registry r given).events
        = beforeCall (t.invoke registry r' given).events
      ∧ CallsOutside (t.invoke registry r given).events
      ∧ CallsOutside (t.invoke registry r' given).events
      ∧ ¬ CallsOutside (t.invoke registry r .null).events
      ∧ t.invoke registry r .null = t.invoke registry r' .null := by
  intro registry r r' t given
  have built : ∀ p ∈ registry, p.2.IsBuiltIn := by
    intro p hp
    obtain rfl := List.mem_singleton.1 hp
    trivial
  have alike : r.Alike r' := by
    intro name
    by_cases hn : name = "TOKEN"
    · subst hn
      have known : r.lookup "TOKEN" = .ok "alpha" := by decide +kernel
      have known' : r'.lookup "TOKEN" = .ok "omega" := by decide +kernel
      rw [known, known']
      exact .ok _ _
    · have same : r.lookup name = r'.lookup name := by
        simp only [r, r', Resolver.lookup, Resolver.chain, List.cons_append, Resolver.firstOf,
          Source.ofMap, List.lookup_cons, beq_eq_false_iff_ne.2 hn]
      rw [same]
      exact .refl _
  have calls : CallsOutside (t.invoke registry r given).events := by
    rw [CallsOutside, ← List.any_eq_true]
    decide +kernel
  have silent : ¬ CallsOutside (t.invoke registry r .null).events := by
    rw [CallsOutside, ← List.any_eq_true]
    decide +kernel
  obtain ⟨before, both, -⟩ := invoke_alike built alike t given
  obtain ⟨-, -, none⟩ := invoke_alike built alike t .null
  exact ⟨by decide +kernel, before, calls, both.1 calls, silent, (none silent).1⟩

end Tool
end Toolwire
