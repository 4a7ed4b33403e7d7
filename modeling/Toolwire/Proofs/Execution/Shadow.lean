import Mathlib
import Toolwire.Proofs.Binding.RoundTrip
import Toolwire.Proofs.Execution.Trace
import Toolwire.Tool
/-!
# Shadow mode

In shadow mode the built-in executors intercept what would change something before they
reach for the outside, and everything else takes no notice of the mode: `invoke_shadow`.
-/
namespace Toolwire

variable {α β : Type}

/-! ## Quiet traces -/

/-- No outside system is called and no time is waited for. -/
def Trace.IsQuiet (t : Trace α) : Prop :=
  ∀ event ∈ t.events, event.isExternal = false ∧ ∀ delay, event ≠ .sleep delay

/-- What comes out, if anything does, has its mark of an intercepted side effect so. -/
def Trace.Marks (marked : Bool) (t : Trace Outcome) : Prop :=
  ∀ o, t.outcome = .ok o → o.shadow = marked

namespace Trace

theorem quiet_of_events_nil {t : Trace α} (h : t.events = []) : t.IsQuiet := by
  intro event he
  rw [h] at he
  cases he

theorem quiet_ofExcept (x : Except Failure α) : (ofExcept x).IsQuiet := quiet_of_events_nil rfl

theorem quiet_ofCredential (x : Except CredentialError α) : (ofCredential x).IsQuiet := by
  cases x <;> exact quiet_of_events_nil rfl

theorem quiet_log (entry : LogEntry) : (emit (.log entry)).IsQuiet := by
  intro event he
  obtain rfl := List.mem_singleton.1 he
  exact ⟨rfl, nofun⟩

theorem quiet_ask (s : Sql.Statement) (shadow : Bool) : (emit (.ask s shadow)).IsQuiet := by
  intro event he
  obtain rfl := List.mem_singleton.1 he
  exact ⟨rfl, nofun⟩

theorem IsQuiet.bind {t : Trace α} {f : α → Trace β} (h : t.IsQuiet)
    (hf : ∀ a, t.outcome = .ok a → (f a).IsQuiet) : (t >>= f).IsQuiet := by
  intro event he
  rcases mem_bind_events.1 he with he | ⟨a, ha, he⟩
  · exact h event he
  · exact hf a ha event he

/-- A call behind a quiet trace is a call of what follows its value. -/
theorem IsQuiet.mem_bind {t : Trace α} {f : α → Trace β} {e : Event} (ht : t.IsQuiet)
    (he : e ∈ (t >>= f).events) (hx : e.isExternal = true) :
    ∃ a, t.outcome = .ok a ∧ e ∈ (f a).events := by
  refine (mem_bind_events.1 he).resolve_left fun he => ?_
  rw [(ht e he).1] at hx
  cases hx

theorem Marks.bind {marked : Bool} {t : Trace α} {f : α → Trace Outcome}
    (hf : ∀ a, t.outcome = .ok a → (f a).Marks marked) : (t >>= f).Marks marked := by
  intro o ho
  obtain ⟨a, ha, ho⟩ := bind_outcome_ok.1 ho
  exact hf a ha o ho

theorem marks_pure {marked : Bool} {o : Outcome} (h : o.shadow = marked) :
    (Pure.pure o : Trace Outcome).Marks marked := by
  intro o' ho
  rw [← Except.ok.inj ho, h]

theorem marks_fail (marked : Bool) (f : Failure) : (fail f : Trace Outcome).Marks marked := by
  intro o ho
  cases ho

end Trace

open Trace

/-! ## Intercepted writes -/

theorem Http.shadowOutcome_spec (h : HttpBinding) (args : Members) :
    (shadowOutcome h args).IsQuiet ∧ (shadowOutcome h args).Marks true := by
  unfold shadowOutcome
  constructor
  · refine (quiet_of_events_nil rfl).bind fun url _ => ?_
    refine (quiet_of_events_nil rfl).bind fun body _ => ?_
    exact (quiet_log _).bind fun _ _ => quiet_of_events_nil rfl
  · refine .bind fun url _ => .bind fun body _ => .bind fun _ _ => ?_
    exact marks_pure rfl

theorem Queue.shadowOutcome_spec (q : QueueBinding) (args : Members) :
    (shadowOutcome q args).IsQuiet ∧ (shadowOutcome q args).Marks true := by
  unfold shadowOutcome
  constructor
  · refine (quiet_of_events_nil rfl).bind fun m _ => ?_
    exact (quiet_log _).bind fun _ _ => quiet_of_events_nil rfl
  · exact .bind fun m _ => .bind fun _ _ => marks_pure rfl

theorem Sql.shadowOutcome_spec (s : Statement) :
    (shadowOutcome s).IsQuiet ∧ (shadowOutcome s).Marks true := by
  unfold shadowOutcome
  constructor
  · exact (quiet_log _).bind fun _ _ => quiet_of_events_nil rfl
  · exact .bind fun _ _ => marks_pure rfl

/-- A gate may log its refusal, and that is all that putting a write before it does. -/
theorem Sql.quiet_approve (gate : Gate) (s : Statement) (shadow : Bool) :
    (approve gate s shadow).IsQuiet := by
  unfold approve
  refine (quiet_ask s shadow).bind fun _ _ => ?_
  split
  · exact quiet_of_events_nil rfl
  · exact (quiet_log _).bind fun _ _ => quiet_of_events_nil rfl

theorem Http.mapResponse_shadow {m : ResponseMapping} {reply : Reply} {o : Outcome}
    (h : mapResponse m reply = .ok o) : o.shadow = false := by
  simp only [mapResponse] at h
  split at h <;> split at h
  · cases h; rfl
  · obtain ⟨found, -, rfl⟩ := map_eq_ok.1 h
    rfl
  · cases h; rfl
  · obtain ⟨found, -, rfl⟩ := map_eq_ok.1 h
    cases found <;> rfl

namespace Executor

/-- The executor speaks one of the protocols itself. -/
def IsBuiltIn : Executor → Prop
  | .custom .. => False
  | _ => True

/-- In shadow mode a run that would have a side effect is quiet, and its outcome is marked. -/
theorem execute_intercepted {e : Executor} (he : e.IsBuiltIn) {b : Binding}
    (hs : b.isShadow = true) (hm : b.isMutating = true) (args : Members) (r : Resolver) :
    (e.execute b args r).IsQuiet ∧ (e.execute b args r).Marks true := by
  unfold Binding.isMutating at hm
  unfold execute
  split
  · rename_i client h hp
    have hw : h.method.isMutating = true := by
      rw [hp] at hm
      exact hm
    unfold Http.execute
    rw [if_pos (by rw [hs, hw]; rfl)]
    exact Http.shadowOutcome_spec h args
  · rename_i adapters q hp
    unfold Queue.execute
    rw [if_pos hs]
    exact Queue.shadowOutcome_spec q args
  · rename_i backend gate q hp
    have hw : q.readOnly = false := by
      rw [hp] at hm
      simpa using hm
    unfold Sql.execute
    simp only [hw, hs, if_true, Bool.false_eq_true, if_false]
    constructor
    · refine (quiet_of_events_nil rfl).bind fun s _ => ?_
      exact (Sql.quiet_approve gate s true).bind fun _ _ => (Sql.shadowOutcome_spec s).1
    · exact .bind fun s _ => .bind fun _ _ => (Sql.shadowOutcome_spec s).2
  · exact he.elim
  · exact ⟨quiet_of_events_nil rfl, marks_fail _ _⟩

/-! ## Undisturbed reads -/

/-- A run without side effects takes no notice of the mode. -/
theorem execute_mode {b : Binding} (hm : b.isMutating = false) (e : Executor) (m : Mode)
    (args : Members) (r : Resolver) :
    e.execute { b with mode := m } args r = e.execute b args r := by
  obtain ⟨protocol, mode, timeoutMs, retry⟩ := b
  cases protocol with
  | http h =>
    have hr : h.method.isMutating = false := hm
    cases e with
    | http client => simp only [execute, Http.execute, hr, Bool.and_false]; rfl
    | _ => rfl
  | sql q =>
    have hr : q.readOnly = true := by
      change (!q.readOnly) = false at hm
      simpa using hm
    cases e with
    | sql backend gate => simp only [execute, Sql.execute, hr, if_true]; rfl
    | _ => rfl
  | queue q => cases hm
  | grpc g => cases hm

/-- The outcome of a run without side effects is not marked. -/
theorem execute_unmarked {e : Executor} (he : e.IsBuiltIn) {b : Binding}
    (hm : b.isMutating = false) (args : Members) (r : Resolver) :
    (e.execute b args r).Marks false := by
  unfold Binding.isMutating at hm
  unfold execute
  split
  · rename_i client h hp
    have hr : h.method.isMutating = false := by
      rw [hp] at hm
      exact hm
    unfold Http.execute
    rw [if_neg (by simp [hr])]
    refine .bind fun request _ => .bind fun reply _ => ?_
    intro o ho
    exact Http.mapResponse_shadow ho
  · rename_i adapters q hp
    simp [hp] at hm
  · rename_i backend gate q hp
    have hr : q.readOnly = true := by
      rw [hp] at hm
      simpa using hm
    unfold Sql.execute Sql.runRead
    refine .bind fun s _ => ?_
    rw [if_pos hr]
    exact .bind fun connection _ => .bind fun rows _ => marks_pure rfl
  · exact he.elim
  · exact marks_fail _ _

end Executor

/-! ## The check of a binding -/

namespace Binding

/-- The name of the mode is no secret, so the findings in a binding are those in the rest
of it. -/
theorem findings_mode (b : Binding) (m : Mode) :
    Leak.findings ({ b with mode := m } : Binding).toJson = Leak.findings b.toJson := by
  -- Another mode is another value under one key, so all members keep their places.
  let rename (key : String) (v : Json) : Json := if key = "mode" then .str m.name else v
  have other : ∀ p ∈ b.protocol.fields, p.1 ≠ "mode" := by
    intro p hp he
    refine not_common_of_protocolFields (key_of_mem_fields hp) ?_
    rw [he]
    decide
  have written : ({ b with mode := m } : Binding).members =
      b.members.map fun p => (p.1, rename p.1 p.2) := by
    unfold members
    rw [← Members.ofList_map, List.map_append]
    congr 2
    refine ((List.map_congr_left fun p hp => ?_).trans (List.map_id _)).symm
    simp only [rename, if_neg (other p hp), id]
  have named : ∀ p ∈ b.members, p.1 = "mode" → p.2 = .str b.mode.name := by
    intro p hp he
    rcases List.mem_append.1 (Members.mem_ofList hp) with hp | hp
    · simp only [commonMembers, List.mem_cons, List.not_mem_nil, or_false] at hp
      rcases hp with rfl | rfl | rfl | rfl
      · simp at he
      · rfl
      · simp at he
      · simp at he
    · exact absurd he (other p hp)
  simp only [toJson_eq, Leak.findings, Leak.walk, Leak.walkMembers_eq_flatMap, written,
    List.flatMap_map]
  refine List.flatMap_congr fun p hp => ?_
  by_cases he : p.1 = "mode"
  · have hb := Leak.clean_mode b.mode
    have hm := Leak.clean_mode m
    rw [he, named p hp he]
    exact hm.trans hb.symm
  · simp only [rename, if_neg he]

theorem report_mode (b : Binding) (m : Mode) (v : Validation) :
    ({ b with mode := m } : Binding).report v = b.report v := by
  unfold report
  rw [findings_mode]
  rfl

end Binding

/-! ## Invocations -/

namespace Tool

/-- A tool whose binding runs in a mode. -/
def inMode (t : Tool) (m : Mode) : Tool := { t with binding := { t.binding with mode := m } }

/-- The executor that is run is one of the registry. -/
theorem mem_of_prepare {t : Tool} {registry : Registry} {r : Resolver} {args : Json}
    {stages : List (Stage × String)} {e : Executor} {ms : Members}
    (h : t.prepare registry r args = (stages, .ok (e, ms))) :
    (t.binding.typeName, e) ∈ registry := by
  unfold prepare at h
  split at h
  · cases h
  · split at h
    · cases h
    · split at h
      · cases h
      · rename_i executor hg
        cases h
        unfold Registry.get at hg
        split at hg
        · rename_i found hf
          cases hg
          exact Members.get?_mem hf
        · cases hg

/-- The stages of a tool without side effects are the same in every mode. -/
theorem prepare_mode {t : Tool} (hm : t.binding.isMutating = false) (m : Mode)
    (registry : Registry) (r : Resolver) (args : Json) :
    (t.inMode m).prepare registry r args = t.prepare registry r args := by
  have hv : (t.inMode m).validate args = t.validate args := by
    unfold validate inMode
    rw [Binding.report_mode]
  have hs : (t.inMode m).runStage = t.runStage := by
    have hm' : (t.inMode m).binding.isMutating = false := hm
    unfold runStage
    rw [hm, hm', Bool.and_false, Bool.and_false]
  unfold prepare
  rw [hv, hs]
  rfl

theorem invoke_mode {t : Tool} (hm : t.binding.isMutating = false) (m : Mode)
    (registry : Registry) (r : Resolver) (args : Json) :
    (t.inMode m).invoke registry r args = t.invoke registry r args := by
  have hc : (t.inMode m).checkEvents = t.checkEvents := by
    unfold checkEvents inMode
    rw [Binding.report_mode]
  have he : ∀ (e : Executor) ms,
      e.execute (t.inMode m).binding ms r = e.execute t.binding ms r :=
    fun e ms => Executor.execute_mode hm e m ms r
  unfold invoke
  simp only [prepare_mode hm, hc, he]

theorem quiet_checkEvents (t : Tool) :
    ∀ event ∈ t.checkEvents, event.isExternal = false ∧ ∀ delay, event ≠ .sleep delay := by
  intro event he
  obtain ⟨finding, -, rfl⟩ := List.mem_map.1 he
  exact ⟨rfl, nofun⟩

/-- In shadow mode an invocation that would change something calls no outside system and
never waits, and its outcome is marked as intercepted. One that changes nothing is the same
in either mode to the last event, and its outcome is not marked. -/
theorem invoke_shadow {registry : Registry} (hb : ∀ p ∈ registry, p.2.IsBuiltIn) (t : Tool)
    (r : Resolver) (args : Json) :
    (t.binding.isShadow = true → t.binding.isMutating = true →
      (∀ event ∈ (t.invoke registry r args).events,
        event.isExternal = false ∧ ∀ delay, event ≠ .sleep delay)
      ∧ ∀ o, (t.invoke registry r args).outcome = .ok o → o.shadow = true)
    ∧ (t.binding.isMutating = false →
      (t.inMode .shadow).invoke registry r args = (t.inMode .active).invoke registry r args
      ∧ ∀ o, (t.invoke registry r args).outcome = .ok o → o.shadow = false) := by
  constructor
  · intro hs hm
    unfold invoke
    split
    · exact ⟨t.quiet_checkEvents, nofun⟩
    · rename_i stages e ms hp
      obtain ⟨quiet, marks⟩ := Executor.execute_intercepted (hb _ (mem_of_prepare hp)) hs hm ms r
      refine ⟨?_, marks⟩
      intro event he
      rcases List.mem_append.1 he with he | he
      · exact t.quiet_checkEvents event he
      · exact quiet event he
  · intro hm
    refine ⟨?_, ?_⟩
    · rw [invoke_mode hm, invoke_mode hm]
    · unfold invoke
      split
      · exact nofun
      · rename_i stages e ms hp
        exact Executor.execute_unmarked (hb _ (mem_of_prepare hp)) hm ms r

/-- A publish in shadow mode and a read, each with its executor and its connection. -/
theorem invoke_shadow_publish_and_read :
    let registry : Registry :=
      [("queue", .queue [(.kafka, fun _ => { outcome := .ok none })]),
       ("sql", .sql ⟨fun _ => { outcome := .ok [] }, fun _ => { outcome := .ok 1 }⟩
         Sql.approveWrites)]
    let r : Resolver := { overrides := [("LINK", "broker:9092")] }
    let publish : Tool :=
      { name := "publish", description := "", schema := .obj [],
        binding := { protocol := .queue { provider := .kafka, connection := "$\x7bLINK\x7d",
                                          topic := "orders" },
                     mode := .shadow } }
    let read : Tool :=
      { name := "read", description := "", schema := .obj [],
        binding := { protocol := .sql { connection := "$\x7bLINK\x7d", query := "SELECT 1" } } }
    (publish.invoke registry r .null).outcome.toOption.isSome = true
      ∧ (∀ event ∈ (publish.invoke registry r .null).events,
        event.isExternal = false ∧ ∀ delay, event ≠ .sleep delay)
      ∧ (∀ o, (publish.invoke registry r .null).outcome = .ok o → o.shadow = true)
      ∧ (read.invoke registry r .null).outcome.toOption.isSome = true
      ∧ (read.inMode .shadow).invoke registry r .null
        = (read.inMode .active).invoke registry r .null
      ∧ ∀ o, (read.invoke registry r .null).outcome = .ok o → o.shadow = false := by
  intro registry r publish read
  have built : ∀ p ∈ registry, p.2.IsBuiltIn := by
    intro p hp
    simp only [registry, List.mem_cons, List.not_mem_nil, or_false] at hp
    rcases hp with rfl | rfl <;> trivial
  obtain ⟨quiet, marked⟩ := (invoke_shadow built publish r .null).1 rfl rfl
  obtain ⟨same, unmarked⟩ := (invoke_shadow built read r .null).2 rfl
  have published : (publish.invoke registry r .null).outcome.toOption.isSome = true := by
    decide +kernel
  have fetched : (read.invoke registry r .null).outcome.toOption.isSome = true := by
    decide +kernel
  exact ⟨published, quiet, marked, fetched, same, unmarked⟩

end Tool
end Toolwire
