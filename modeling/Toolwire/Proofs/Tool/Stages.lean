import Mathlib
import Toolwire.Proofs.Credential.Preflight
import Toolwire.Tool
/-!
# The stages of an invocation

An executor is called when every stage before it is passed, and with what the arguments are read
as. The first stage that is not passed decides the failure, and then no executor is called:
`invoke_staged`.
-/
namespace Toolwire

/-- The first name that does not resolve decides why names do not. -/
theorem Resolver.ensure_error {r : Resolver} {names : List String} {err : CredentialError}
    (h : r.ensure names = .error err) :
    ∃ before name after, names = before ++ name :: after ∧ r.Knows before
      ∧ r.lookup name = .error err := by
  induction names with
  | nil => cases h
  | cons name names ih =>
    unfold ensure at h
    split at h
    · rename_i err' hl
      cases h
      exact ⟨[], name, names, rfl, by simp [Knows], hl⟩
    · rename_i value hl
      obtain ⟨before, name', after, rfl, hk, he⟩ := ih h
      exact ⟨name :: before, name', after, rfl, List.forall_mem_cons.2 ⟨⟨value, hl⟩, hk⟩, he⟩

/-! ## Executors that take notes -/

/-- The arguments that an executor notes. -/
def Event.noted? : Event → Option Members
  | .custom ms => some ms
  | _ => none

namespace Registry

/-- A registry of the same types, whose executors note what they are called with and answer as
they are told. -/
def watched (registry : Registry) (answers : String → Nat → Except Failure Outcome) : Registry :=
  registry.map fun p => (p.1, .custom p.1 (answers p.1))

theorem get?_watched (registry : Registry) (answers : String → Nat → Except Failure Outcome)
    (type : String) :
    (registry.watched answers).get? type =
      (registry.get? type).map fun _ => .custom type (answers type) := by
  unfold watched get? Members.get?
  induction registry with
  | nil => rfl
  | cons p rest ih =>
    obtain ⟨k, e⟩ := p
    simp only [List.map_cons, List.lookup_cons]
    split
    · rename_i heq
      obtain rfl := eq_of_beq heq
      rfl
    · exact ih

theorem get_eq_ok {registry : Registry} {type : String} {e : Executor} :
    registry.get type = .ok e ↔ registry.get? type = some e := by
  unfold get
  cases registry.get? type <;> simp

theorem get_error {registry : Registry} {type : String} {f : Failure}
    (h : registry.get type = .error f) :
    registry.get? type = none ∧ f = .noExecutor type registry.types := by
  unfold get at h
  split at h
  · cases h
  · rename_i hn
    cases h
    exact ⟨hn, rfl⟩

end Registry

namespace Tool

variable {t : Tool} {registry : Registry} {r : Resolver} {args : Json} {e : Executor}
  {ms : Members} {f : Failure}

/-! ## What the stages ask for -/

/-- Arguments are read as members: an object as its own and null as none. -/
inductive Reads : Json → Members → Prop where
  | obj (ms : Members) : Reads (.obj ms) ms
  | null : Reads .null []

/-- The binding is in order, and the arguments are members that the schema accepts. -/
structure Validates (t : Tool) (args : Json) (ms : Members) : Prop where
  checked : (t.binding.report t.validation).errors = []
  read : Reads args ms
  accepted : Schema.check (.obj ms) t.schema = .ok ()

/-- All that must hold for an executor to be called, which is then called with `ms`. -/
structure Admits (t : Tool) (registry : Registry) (r : Resolver) (args : Json) (e : Executor)
    (ms : Members) : Prop extends Validates t args ms where
  known : r.Knows t.binding.credentialReferences
  registered : registry.get? t.binding.typeName = some e

/-- The first stage that is not passed, with the failure that it comes to. -/
inductive Refuses (t : Tool) (registry : Registry) (r : Resolver) (args : Json) : Failure → Prop
    where
  | configuration (checked : (t.binding.report t.validation).errors ≠ []) :
    Refuses t registry r args (.configuration ⟨(t.binding.report t.validation).errors⟩)
  | shape (checked : (t.binding.report t.validation).errors = []) (read : ∀ ms, ¬ Reads args ms) :
    Refuses t registry r args (.invalidParameters "arguments must be a JSON object")
  | schema {ms : Members} {e : ArgumentError}
    (checked : (t.binding.report t.validation).errors = []) (read : Reads args ms) (accepted : Schema.check (.obj ms) t.schema = .error e) :
    Refuses t registry r args (.invalidParameters e.message)
  | credential {ms : Members} {before after : List String} {name : String} {err : CredentialError}
    (valid : t.Validates args ms)
    (names : t.binding.credentialReferences = before ++ name :: after) (known : r.Knows before)
    (unknown : r.lookup name = .error err) : Refuses t registry r args (.credential err)
  | executor {ms : Members} (valid : t.Validates args ms)
    (known : r.Knows t.binding.credentialReferences)
    (registered : registry.get? t.binding.typeName = none) :
    Refuses t registry r args (.noExecutor t.binding.typeName registry.types)

/-! ## What passes -/

theorem arguments_eq_ok : arguments args = .ok ms ↔ Reads args ms := by
  constructor
  · intro h
    unfold arguments at h
    split at h <;> cases h
    · exact .obj _
    · exact .null
  · rintro (_ | _) <;> rfl

theorem arguments_error (h : arguments args = .error f) :
    (∀ ms, ¬ Reads args ms) ∧ f = .invalidParameters "arguments must be a JSON object" := by
  refine ⟨fun ms hr => ?_, ?_⟩
  · rw [arguments_eq_ok.2 hr] at h
    cases h
  · unfold arguments at h
    split at h <;> cases h
    rfl

theorem validate_of_checked (hc : (t.binding.report t.validation).errors = []) :
    t.validate args = arguments args >>= fun ms =>
      match Schema.check (.obj ms) t.schema with
      | .ok () => .ok ms
      | .error e => .error (.invalidParameters e.message) := by
  have valid : (t.binding.report t.validation).isValid = true := by
    rw [Report.isValid, hc, List.isEmpty_nil]
  unfold validate
  exact if_neg (by rw [valid]; exact Bool.false_ne_true)

theorem validate_of_not_checked (hc : (t.binding.report t.validation).errors ≠ []) :
    t.validate args = .error (.configuration ⟨(t.binding.report t.validation).errors⟩) := by
  have invalid : (t.binding.report t.validation).isValid = false := by
    rw [Report.isValid, List.isEmpty_eq_false_iff.2 hc]
  unfold validate
  exact if_pos (by rw [invalid]; rfl)

theorem validate_eq_ok : t.validate args = .ok ms ↔ t.Validates args ms := by
  constructor
  · intro h
    by_cases hc : (t.binding.report t.validation).errors = []
    · rw [validate_of_checked hc] at h
      obtain ⟨ms', hr, h⟩ := bind_eq_ok.1 h
      split at h
      · rename_i ha
        cases h
        exact ⟨hc, arguments_eq_ok.1 hr, ha⟩
      · cases h
    · rw [validate_of_not_checked hc] at h
      cases h
  · rintro ⟨hc, hr, ha⟩
    rw [validate_of_checked hc]
    refine bind_eq_ok.2 ⟨ms, arguments_eq_ok.2 hr, ?_⟩
    rw [ha]

theorem resolve_eq_ok : t.resolve r = .ok () ↔ r.Knows t.binding.credentialReferences := by
  rw [← Resolver.ensure_eq_ok, resolve]
  cases r.ensure t.binding.credentialReferences <;> simp

/-- The stages before the executor hand it over, with the members, when they are passed. -/
theorem prepare_eq_ok :
    (t.prepare registry r args).2 = .ok (e, ms) ↔ t.Admits registry r args e ms := by
  constructor
  · intro h
    unfold prepare at h
    split at h
    · cases h
    · rename_i ms' hv
      split at h
      · cases h
      · rename_i hk
        split at h
        · cases h
        · rename_i e' hg
          cases h
          exact ⟨validate_eq_ok.1 hv, resolve_eq_ok.1 hk, Registry.get_eq_ok.1 hg⟩
  · rintro ⟨hv, hk, hg⟩
    simp only [prepare, validate_eq_ok.2 hv, resolve_eq_ok.2 hk, Registry.get_eq_ok.2 hg]

/-! ## What is refused -/

theorem validate_refused (h : t.validate args = .error f) : t.Refuses registry r args f := by
  by_cases hc : (t.binding.report t.validation).errors = []
  · rw [validate_of_checked hc] at h
    rcases bind_eq_error.1 h with h | ⟨ms, hr, h⟩
    · obtain ⟨hr, rfl⟩ := arguments_error h
      exact .shape hc hr
    · split at h
      · cases h
      · rename_i err ha
        cases h
        exact .schema hc (arguments_eq_ok.1 hr) ha
  · rw [validate_of_not_checked hc] at h
    cases h
    exact .configuration hc

/-- The stages before the executor fail with the first of them that is not passed. -/
theorem prepare_refused (h : (t.prepare registry r args).2 = .error f) :
    t.Refuses registry r args f := by
  unfold prepare at h
  split at h
  · rename_i g hv
    cases h
    exact validate_refused hv
  · rename_i ms hv
    have valid := validate_eq_ok.1 hv
    split at h
    · rename_i g hk
      cases h
      unfold resolve at hk
      split at hk
      · cases hk
      · rename_i err he
        cases hk
        obtain ⟨before, name, after, hn, hb, hl⟩ := Resolver.ensure_error he
        exact .credential valid hn hb hl
    · rename_i hk
      split at h
      · rename_i g hg
        cases h
        obtain ⟨hn, rfl⟩ := Registry.get_error hg
        exact .executor valid (resolve_eq_ok.1 hk) hn
      · cases h

/-! ## Calls of executors -/

/-- What the executors of a registry are called with in an invocation, in order: what they note
when they do nothing else. -/
def handed (t : Tool) (registry : Registry) (r : Resolver) (args : Json)
    (answers : String → Nat → Except Failure Outcome) : List Members :=
  (t.invoke (registry.watched answers) r args).events.filterMap Event.noted?

theorem invoke_of_admits (h : t.Admits registry r args e ms) :
    (t.invoke registry r args).events = t.checkEvents ++ (e.execute t.binding ms r).events
      ∧ (t.invoke registry r args).outcome = (e.execute t.binding ms r).outcome := by
  rw [← prepare_eq_ok] at h
  unfold invoke
  split
  · rename_i hp
    rw [hp] at h
    cases h
  · rename_i hp
    rw [hp] at h
    cases h
    exact ⟨rfl, rfl⟩

theorem invoke_of_not_admits (h : ¬ ∃ e ms, t.Admits registry r args e ms) :
    ∃ f, t.Refuses registry r args f
      ∧ (t.invoke registry r args).events = t.checkEvents
      ∧ (t.invoke registry r args).outcome = .error f := by
  unfold invoke
  split
  · rename_i stages f hp
    refine ⟨f, prepare_refused ?_, rfl, rfl⟩
    rw [hp]
  · rename_i stages e ms hp
    refine absurd ⟨e, ms, prepare_eq_ok.1 ?_⟩ h
    rw [hp]

theorem noted_checkEvents (t : Tool) : t.checkEvents.filterMap Event.noted? = [] := by
  rw [List.filterMap_eq_nil_iff]
  intro event he
  obtain ⟨finding, -, rfl⟩ := List.mem_map.1 he
  rfl

/-- Whether an executor is called does not depend on what it is. -/
theorem admits_watched {answers : String → Nat → Except Failure Outcome} :
    t.Admits (registry.watched answers) r args e ms ↔
      e = .custom t.binding.typeName (answers t.binding.typeName)
        ∧ ∃ e', t.Admits registry r args e' ms := by
  constructor
  · rintro ⟨hv, hk, hg⟩
    rw [Registry.get?_watched, Option.map_eq_some_iff] at hg
    obtain ⟨e', hg, rfl⟩ := hg
    exact ⟨rfl, e', hv, hk, hg⟩
  · rintro ⟨rfl, e', hv, hk, hg⟩
    refine ⟨hv, hk, ?_⟩
    rw [Registry.get?_watched, hg]
    rfl

theorem handed_of_admits (h : t.Admits registry r args e ms)
    (answers : String → Nat → Except Failure Outcome) :
    t.handed registry r args answers = [ms] := by
  have hw : t.Admits (registry.watched answers) r args
      (.custom t.binding.typeName (answers t.binding.typeName)) ms :=
    admits_watched.2 ⟨rfl, e, h⟩
  unfold handed
  rw [(invoke_of_admits hw).1, List.filterMap_append, noted_checkEvents]
  rfl

theorem handed_of_not_admits (h : ¬ ∃ e ms, t.Admits registry r args e ms)
    (answers : String → Nat → Except Failure Outcome) :
    t.handed registry r args answers = [] := by
  have hw : ¬ ∃ e ms, t.Admits (registry.watched answers) r args e ms := by
    rintro ⟨e, ms, hw⟩
    obtain ⟨-, e', he⟩ := admits_watched.1 hw
    exact h ⟨e', ms, he⟩
  obtain ⟨f, -, hevents, -⟩ := invoke_of_not_admits hw
  unfold handed
  rw [hevents, noted_checkEvents]

/-- An invocation calls one executor or none. It calls one, with the members that the arguments
are read as, when every stage before is passed, and then does and comes to what that executor
does and comes to; otherwise it fails at the first stage that is not passed. -/
theorem invoke_staged (t : Tool) (registry : Registry) (r : Resolver) (args : Json)
    (answers : String → Nat → Except Failure Outcome) :
    (t.handed registry r args answers).length ≤ 1
      ∧ (∀ ms, ms ∈ t.handed registry r args answers ↔ ∃ e, t.Admits registry r args e ms)
      ∧ (∀ e ms, t.Admits registry r args e ms →
        (t.invoke registry r args).events = t.checkEvents ++ (e.execute t.binding ms r).events
          ∧ (t.invoke registry r args).outcome = (e.execute t.binding ms r).outcome)
      ∧ ((¬ ∃ e ms, t.Admits registry r args e ms) →
        ∃ f, t.Refuses registry r args f
          ∧ (t.invoke registry r args).events = t.checkEvents
          ∧ (t.invoke registry r args).outcome = .error f) := by
  refine ⟨?_, ?_, fun e ms => invoke_of_admits, invoke_of_not_admits⟩
  -- The stages are passed with one list of members or with none.
  · by_cases h : ∃ e ms, t.Admits registry r args e ms
    · obtain ⟨e, ms, h⟩ := h
      rw [handed_of_admits h, List.length_singleton]
    · rw [handed_of_not_admits h]
      exact Nat.zero_le 1
  · intro ms
    constructor
    · intro hm
      by_cases h : ∃ e ms, t.Admits registry r args e ms
      · obtain ⟨e, ms', h⟩ := h
        rw [handed_of_admits h, List.mem_singleton] at hm
        exact ⟨e, hm ▸ h⟩
      · rw [handed_of_not_admits h] at hm
        cases hm
    · rintro ⟨e, h⟩
      rw [handed_of_admits h]
      exact List.mem_singleton_self ms

end Tool
end Toolwire
