import Mathlib
import Toolwire.Manifest.Build
import Toolwire.Proofs.Binding.RoundTrip
import Toolwire.Proofs.Execution.Trace
/-!
# What building a tool settles

The check at the start of an invocation reads the binding as it is written, the check at
registration read the declaration. A tool that was built passes the first because it passed
the second, and the executor of its type is there: `invoke_of_build`.
-/
namespace Toolwire

/-- A failure that building a tool is to rule out. -/
def Failure.IsRegistration : Failure → Prop
  | .configuration _ | .noExecutor .. => True
  | _ => False

theorem Executor.Explains.answers {e : Executor} {r : Resolver} {p : Protocol} {f : Failure}
    (h : e.Explains r p f) (hf : f.IsRegistration) : e.Answers f := by
  rcases h with h | h | ⟨err, rfl, -⟩
  · cases f <;> first | exact h.elim | exact hf.elim
  · exact h
  · exact hf.elim

/-! ## Registries -/

namespace Registry

theorem get_of_mem_types {registry : Registry} {type : String} (h : type ∈ registry.types) :
    ∃ e, registry.get type = .ok e := by
  unfold get get? Members.get?
  cases hl : registry.lookup type with
  | some e => exact ⟨e, rfl⟩
  | none =>
    rw [List.lookup_eq_none_iff] at hl
    obtain ⟨⟨k, e⟩, hp, rfl⟩ := List.mem_map.1 h
    simpa using hl _ hp

/-- Calls use up answers but take no executor away. -/
theorem types_after (registry : Registry) (events : List Event) :
    (registry.after events).types = registry.types := by
  unfold types after Members.keys
  rw [List.map_map]
  rfl

end Registry

/-! ## Tools -/

namespace ToolDeclaration

/-- A tool that was built has an accepted binding, perhaps put into shadow mode, of a type
that has an executor. -/
theorem build_eq_ok {d : ToolDeclaration} {types : List String} {o : BuildOptions} {t : Tool}
    (h : (d.build types o).2 = .ok t) :
    ∃ b warnings m, Binding.parse d.binding o.validation = .ok (b, warnings)
      ∧ t.binding = { b with mode := m } ∧ t.validation = o.validation
      ∧ t.binding.typeName ∈ types := by
  unfold build at h
  split at h
  · cases h
  · split at h
    · cases h
    · split at h
      · cases h
      · rename_i b warnings hp
        -- With or without the shadow mode forced, only the mode may differ.
        have hm : (if o.forceShadow then ({ b with mode := .shadow } : Binding) else b) =
            { b with mode := if o.forceShadow then .shadow else b.mode } := by
          cases o.forceShadow <;> rfl
        simp only [hm] at h
        generalize (if o.forceShadow then Mode.shadow else b.mode) = m at h
        split at h
        · rename_i ht
          cases h
          exact ⟨b, warnings, m, hp, rfl, rfl, List.contains_iff_mem.1 ht⟩
        · cases h

end ToolDeclaration

namespace Tool

/-- Before the executor runs, only the arguments and the credentials can be at fault. -/
theorem prepare_error {t : Tool} (hv : (t.binding.report t.validation).errors = [])
    {registry : Registry} (ht : t.binding.typeName ∈ registry.types) {r : Resolver} {args : Json}
    {f : Failure} (h : (t.prepare registry r args).2 = .error f) :
    (∃ m, f = .invalidParameters m) ∨ ∃ err, f = .credential err := by
  unfold prepare at h
  split at h
  · rename_i g hg
    cases h
    left
    simp only [validate, Report.isValid, hv, List.isEmpty_nil, Bool.not_true] at hg
    rcases bind_eq_error.1 hg with hg | ⟨ms, -, hg⟩
    · unfold arguments at hg
      split at hg <;> cases hg
      exact ⟨_, rfl⟩
    · split at hg <;> cases hg
      exact ⟨_, rfl⟩
  · split at h
    · rename_i g hg
      cases h
      right
      unfold resolve at hg
      split at hg <;> cases hg
      exact ⟨_, rfl⟩
    · obtain ⟨e, he⟩ := Registry.get_of_mem_types ht
      rw [he] at h
      cases h

/-- An invocation fails before its executor runs, or with what the run of it comes to. -/
theorem invoke_error {t : Tool} {registry : Registry} {r : Resolver} {args : Json} {f : Failure}
    (h : (t.invoke registry r args).outcome = .error f) :
    (t.prepare registry r args).2 = .error f ∨
      ∃ e ms, registry.get t.binding.typeName = .ok e
        ∧ (e.execute t.binding ms r).outcome = .error f := by
  unfold invoke at h
  split at h
  · rename_i stages g hp
    cases h
    exact .inl (by rw [hp])
  · rename_i stages e ms hp
    refine .inr ⟨e, ms, ?_, h⟩
    unfold prepare at hp
    split at hp
    · cases hp
    · split at hp
      · cases hp
      · split at hp
        · cases hp
        · rename_i he
          cases hp
          exact he

end Tool

/-- What registration has checked holds at every invocation, whatever the executors have
answered until then: the check of the binding passes, its type has an executor, and a
configuration failure or a missing executor can only be an answer of the outside itself. -/
theorem ToolDeclaration.invoke_of_build {d : ToolDeclaration} {registry : Registry}
    {o : BuildOptions} {t : Tool} (h : (d.build registry.types o).2 = .ok t) {later : Registry}
    (hl : later.types = registry.types) (r : Resolver) (args : Json) :
    (t.binding.report t.validation).errors = []
      ∧ (∀ f, (t.prepare later r args).2 = .error f → ¬ f.IsRegistration)
      ∧ ∃ e, later.get t.binding.typeName = .ok e
        ∧ ∀ f, (t.invoke later r args).outcome = .error f → f.IsRegistration → e.Answers f := by
  obtain ⟨b, warnings, m, hp, hb, hv, ht⟩ := build_eq_ok h
  rw [← hl] at ht
  have checked : (t.binding.report t.validation).errors = [] := by
    rw [hb, hv]
    exact Binding.report_of_parse hp m
  have before : ∀ f, (t.prepare later r args).2 = .error f → ¬ f.IsRegistration := by
    intro f hf
    rcases Tool.prepare_error checked ht hf with ⟨m, rfl⟩ | ⟨err, rfl⟩ <;> exact not_false
  obtain ⟨e, he⟩ := Registry.get_of_mem_types ht
  refine ⟨checked, before, e, he, ?_⟩
  intro f hf hreg
  rcases Tool.invoke_error hf with hf | ⟨e', ms, he', hf⟩
  · exact absurd hreg (before f hf)
  · obtain rfl : e = e' := Except.ok.inj (he.symm.trans he')
    exact (Executor.execute_error hf).answers hreg

set_option maxRecDepth 10000 in
/-- A call put into shadow mode at registration, with its endpoint tried once before. -/
theorem ToolDeclaration.invoke_of_build_shadow :
    let registry := Registry.empty.register (.http Http.Client.offline)
    let later := registry.after [.send ⟨.post, "https://x.example", [], none⟩]
    ∃ t, (({ name := "notify", binding := .ofPairs [("type", .str "http"),
          ("method", .str "post"), ("url", .str "https://x.example")] } : ToolDeclaration).build
            registry.types { forceShadow := true }).2 = .ok t
      ∧ later.types = registry.types
      ∧ (t.binding.report t.validation).errors = []
      ∧ (∀ f, (t.prepare later {} .null).2 = .error f → ¬ f.IsRegistration)
      ∧ ∃ e, later.get t.binding.typeName = .ok e
        ∧ ∀ f, (t.invoke later {} .null).outcome = .error f → f.IsRegistration → e.Answers f := by
  intro registry later
  refine ⟨{ name := "notify", description := "",
            schema := .obj [("properties", .obj []), ("type", .str "object")],
            binding := { protocol := .http { method := .post, url := "https://x.example" },
                         mode := .shadow } }, ?built, ?types, invoke_of_build ?built ?types {} .null⟩
  · rfl
  · exact Registry.types_after registry _

end Toolwire
