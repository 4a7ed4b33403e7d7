import Mathlib
import Toolwire.Cli.Run
import Toolwire.Proofs.Manifest.Agreement
/-!
# Checks of a manifest

Strict validation takes for errors what lenient validation warns of, and those are the findings of
a scan. So a manifest passes strict validation exactly when it passes lenient validation and the
scan: `strict_iff_lenient_and_scan`.
-/
namespace Toolwire

/-! ## Declarations -/

namespace Binding

variable {raw : Json}

/-- Strict validation adds the warnings of lenient validation to its errors. -/
theorem check_strict (raw : Json) :
    check raw .strict =
      { errors := (check raw .lenient).errors ++ (check raw .lenient).warnings } := by
  cases raw <;> rfl

theorem warnings_lenient (ms : Members) :
    (check (.obj ms) .lenient).warnings = Leak.findings (.obj ms) := rfl

/-- A declaration that is no object is in error either way, so its findings do not matter. -/
theorem errors_strict_eq_nil :
    (check raw .strict).errors = [] ↔
      (check raw .lenient).errors = [] ∧ Leak.findings raw = [] := by
  rw [check_strict, List.append_eq_nil_iff]
  cases raw with
  | obj ms => rw [warnings_lenient]
  | _ => exact iff_of_false (fun h => List.cons_ne_nil _ _ h.1) fun h => List.cons_ne_nil _ _ h.1

end Binding

theorem ToolDeclaration.sound_strict {d : ToolDeclaration} :
    d.Sound .strict ↔ d.Sound .lenient ∧ Leak.findings d.binding = [] := by
  constructor
  · rintro ⟨name, parameters, binding⟩
    obtain ⟨lenient, clean⟩ := Binding.errors_strict_eq_nil.1 binding
    exact ⟨⟨name, parameters, lenient⟩, clean⟩
  · rintro ⟨⟨name, parameters, lenient⟩, clean⟩
    exact ⟨name, parameters, Binding.errors_strict_eq_nil.2 ⟨lenient, clean⟩⟩

/-! ## Manifests -/

namespace Manifest

/-- Every report on a manifest is valid. -/
def Passes (m : Manifest) (mode : Validation) : Prop := ∀ r ∈ m.check mode, r.2.isValid = true

/-- A scan of a manifest finds nothing. -/
def Clean (m : Manifest) : Prop := ∀ d ∈ m.tools, Leak.findings d.binding = []

theorem reportsFrom_strict (earlier : List String) (ds : List ToolDeclaration) :
    (∀ r ∈ reportsFrom .strict earlier ds, r.2.isValid = true) ↔
      (∀ r ∈ reportsFrom .lenient earlier ds, r.2.isValid = true)
        ∧ ∀ d ∈ ds, Leak.findings d.binding = [] := by
  induction ds generalizing earlier with
  | nil => simp [reportsFrom]
  | cons d rest ih =>
    simp only [reportsFrom, List.forall_mem_cons, ih, ToolDeclaration.report_isValid,
      ToolDeclaration.sound_strict]
    tauto

theorem passes_strict {m : Manifest} : m.Passes .strict ↔ m.Passes .lenient ∧ m.Clean :=
  reportsFrom_strict [] m.tools

end Manifest

/-! ## Commands -/

namespace Cli

theorem exitCode_eq_zero {a : Answer} : a.exitCode = 0 ↔ a.failure = none := by
  unfold Answer.exitCode
  cases a.failure <;> simp

theorem validate_exitCode {path : String} {lenient : Bool} {m : Manifest} :
    (validate path lenient m).exitCode = 0 ↔
      m.Passes (if lenient then .lenient else .strict) := by
  rw [exitCode_eq_zero, Manifest.Passes]
  by_cases hempty : m.tools = []
  · simp [validate, Manifest.check, Manifest.reportsFrom, hempty]
  · have hall : ((m.check (if lenient then .lenient else .strict)).filter
        fun r => !r.2.isValid).length = 0 ↔
        ∀ r ∈ m.check (if lenient then .lenient else .strict), r.2.isValid = true := by
      simp [List.filter_eq_nil_iff]
    rw [← hall]
    simp only [validate, List.isEmpty_iff, hempty, if_false]
    split
    · rename_i hzero
      exact iff_of_true rfl hzero
    · rename_i hne
      exact iff_of_false nofun hne

theorem scan_exitCode {path : String} {m : Manifest} :
    (scan path m).exitCode = 0 ↔ m.Clean := by
  have hnone : flagged m = [] ↔ m.Clean := by
    simp [flagged, Manifest.Clean, List.filter_eq_nil_iff]
  rw [exitCode_eq_zero, ← hnone]
  simp only [scan, List.isEmpty_iff]
  split
  · rename_i hempty
    exact iff_of_true rfl hempty
  · rename_i hsome
    exact iff_of_false nofun hsome

/-- A manifest that cannot be loaded fails every command on it. -/
theorem withManifest_exitCode {v : View} {path : String} {f : Manifest → Answer} :
    (withManifest v path f).exitCode = 0 ↔
      ∃ m, loadManifest path v.manifest = .ok m ∧ (f m).exitCode = 0 := by
  unfold withManifest
  cases loadManifest path v.manifest with
  | ok m => simp
  | error chain => simp [Answer.fail, Answer.exitCode]

/-- Strict validation of a manifest succeeds exactly when lenient validation and the scan do,
whatever stands at its path. Strict validation of a declaration has the errors of lenient
validation and behind them its warnings, and none of its own; the warnings about a declaration
that is an object are the findings of the scan. -/
theorem strict_iff_lenient_and_scan :
    (∀ (v : View) (path : String), (run v (.validate path false)).exitCode = 0 ↔
      (run v (.validate path true)).exitCode = 0 ∧ (run v (.scan path)).exitCode = 0)
    ∧ (∀ (m : Manifest) (path : String), (validate path false m).exitCode = 0 ↔
      (validate path true m).exitCode = 0 ∧ (scan path m).exitCode = 0)
    ∧ ∀ raw : Json,
      (Binding.check raw .strict).errors =
          (Binding.check raw .lenient).errors ++ (Binding.check raw .lenient).warnings
        ∧ (Binding.check raw .strict).warnings = []
        ∧ ∀ ms : Members, (Binding.check (.obj ms) .lenient).warnings = Leak.findings (.obj ms) := by
  have declared : ∀ (m : Manifest) (path : String), (validate path false m).exitCode = 0 ↔
      (validate path true m).exitCode = 0 ∧ (scan path m).exitCode = 0 := by
    intro m path
    rw [validate_exitCode, validate_exitCode, scan_exitCode]
    exact Manifest.passes_strict
  refine ⟨fun v path => ?_, declared, fun raw => ?_⟩
  · simp only [run, withManifest_exitCode]
    constructor
    · rintro ⟨m, hm, hs⟩
      obtain ⟨hl, hf⟩ := (declared m path).1 hs
      exact ⟨⟨m, hm, hl⟩, m, hm, hf⟩
    · rintro ⟨⟨m, hm, hl⟩, m', hm', hf⟩
      obtain rfl : m = m' := Except.ok.inj (hm.symm.trans hm')
      exact ⟨m, hm, (declared m path).2 ⟨hl, hf⟩⟩
  · rw [Binding.check_strict]
    exact ⟨rfl, rfl, Binding.warnings_lenient⟩

end Cli
end Toolwire
