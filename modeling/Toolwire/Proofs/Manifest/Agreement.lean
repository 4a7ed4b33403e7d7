import Mathlib
import Toolwire.Manifest.Build
import Toolwire.Proofs.Binding.RoundTrip
/-!
# Checking and building agree

A check reports on every declaration of a manifest, building stops at the first that cannot
become a tool. `builds` sums up what building one declaration comes to; from it, building a
manifest succeeds when all reports are valid and all types have an executor, and otherwise
fails at the first declaration for which that is not so: `build_agrees_check`.
-/
namespace Toolwire

/-! ## Accepted declarations -/

theorem Protocol.typeName_of_readFields {ms : Members} {name : String} {p : Protocol}
    (ht : Members.get? ms "type" = some (.str name)) (h : readFields ms = .ok p) :
    p.typeName = name := by
  obtain ⟨type, hr, h⟩ := bind_eq_ok.1 h
  simp only [readType, ht] at hr
  split at hr
  · rename_i hn
    cases hr
    split at h
    · rename_i hn
      obtain ⟨b, -, rfl⟩ := map_eq_ok.1 h
      exact hn.symm
    · split at h
      · rename_i hn
        obtain ⟨b, -, rfl⟩ := map_eq_ok.1 h
        exact hn.symm
      · split at h
        · rename_i hn
          obtain ⟨b, -, rfl⟩ := map_eq_ok.1 h
          exact hn.symm
        · obtain ⟨b, -, rfl⟩ := map_eq_ok.1 h
          -- Of the four names only the last is left.
          simp_all [typeNames, typeName]
  · cases hr

namespace Binding

variable {raw : Json} {mode : Validation} {b : Binding} {warnings : List String}

theorem typeName_of_read {ms : Members} {name : String}
    (ht : Members.get? ms "type" = some (.str name)) (h : read (.obj ms) = .ok b) :
    b.typeName = name := by
  simp only [read, bind_eq_ok, pure, Except.pure, Except.ok.injEq] at h
  obtain ⟨_, -, _, -, _, -, protocol, hp, rfl⟩ := h
  exact Protocol.typeName_of_readFields ht hp

theorem declaredType_eq_ok {ms : Members} {type : String} (h : declaredType ms = .ok type) :
    Members.get? ms "type" = some (.str type) := by
  unfold declaredType at h
  split at h
  · cases h
  · rename_i t ht
    split at h
    · cases h
      exact ht
    · cases h
  · cases h

/-- An accepted declaration names its type and has no field that nobody reads. -/
theorem known_of_parse {ms : Members} (h : parse (.obj ms) mode = .ok (b, warnings)) :
    declaredType ms = .ok b.typeName ∧ unknownFields b.typeName ms = [] := by
  obtain ⟨r, ha, he, -⟩ := parse_eq_ok.1 h
  simp only [analyze, Prod.mk.injEq] at ha
  obtain ⟨hb, rfl⟩ := ha
  rw [Report.errors_addFindings, List.append_eq_nil_iff] at he
  have hnil : (analyzeMembers ms).2 = [] := he.1
  unfold analyzeMembers at hb hnil
  split at hb
  · cases hb
  · rename_i type hd
    rw [hd] at hnil
    split at hb
    · rename_i b' hr
      cases hb
      rw [typeName_of_read (declaredType_eq_ok hd) hr]
      simp only [hr, List.append_eq_nil_iff] at hnil
      exact ⟨hd, hnil.1⟩
    · cases hb

/-- An accepted binding is of the type that its declaration names. -/
theorem declared_of_parse (h : parse raw mode = .ok (b, warnings)) :
    raw.get? "type" = some (.str b.typeName) := by
  cases raw with
  | obj ms => exact declaredType_eq_ok (known_of_parse h).1
  | _ =>
    obtain ⟨r, ha, -, -⟩ := parse_eq_ok.1 h
    cases ha

/-- A declaration that cannot be read as a binding has a problem that says so. -/
theorem errors_of_analyze_none (h : (analyze raw mode).1 = none) :
    (check raw mode).errors ≠ [] := by
  unfold check
  cases raw with
  | obj ms =>
    have hn : (analyzeMembers ms).1 = none := h
    have he : (analyzeMembers ms).2 ≠ [] := by
      unfold analyzeMembers at hn ⊢
      split
      · simp
      · rename_i type hd
        simp only [hd] at hn
        split
        · rename_i b hr
          simp [hr] at hn
        · simp
    intro hnil
    apply he
    cases mode with
    | strict => exact (List.append_eq_nil_iff.1 hnil).1
    | lenient => exact hnil
  | _ => simp [analyze]

/-- A declaration is accepted when its check finds nothing. -/
theorem parse_of_check (h : (check raw mode).errors = []) :
    ∃ b warnings, parse raw mode = .ok (b, warnings) := by
  cases ho : (analyze raw mode).1 with
  | none => exact absurd h (errors_of_analyze_none ho)
  | some b => exact ⟨b, _, parse_eq_ok.2 ⟨_, Prod.ext ho rfl, h, rfl⟩⟩

theorem check_of_parse_error {e : ConfigurationError} (h : parse raw mode = .error e) :
    (check raw mode).errors ≠ [] := by
  intro hnil
  obtain ⟨b, warnings, hp⟩ := parse_of_check hnil
  rw [h] at hp
  cases hp

end Binding

/-! ## One declaration -/

namespace ToolDeclaration

/-- The name, the parameters and the binding of a declaration are in order. -/
structure Sound (d : ToolDeclaration) (mode : Validation) : Prop where
  name : nameProblem? d.name = none
  parameters : d.parameters.isObj = true
  binding : (Binding.check d.binding mode).errors = []

/-- The type that a declaration names has an executor. -/
def HasExecutor (d : ToolDeclaration) (types : List String) : Prop :=
  ∃ type, d.binding.get? "type" = some (.str type) ∧ type ∈ types

/-- The report on a declaration is valid when nothing before it has its name and it is sound. -/
theorem report_isValid {d : ToolDeclaration} {mode : Validation} {earlier : List String} :
    (d.report mode earlier).isValid = true ↔ d.name ∉ earlier ∧ d.Sound mode := by
  have hdup : ∀ m : String, (if earlier.contains d.name then [m] else []) = [] ↔
      d.name ∉ earlier := by
    intro m
    by_cases h : d.name ∈ earlier <;> simp [h]
  have hparams : (if d.parameters.isObj then [] else [parametersProblem]) = [] ↔
      d.parameters.isObj = true := by
    cases d.parameters.isObj <;> simp
  have hname : (nameProblem? d.name).toList = [] ↔ nameProblem? d.name = none := by
    cases nameProblem? d.name <;> simp
  simp only [report, Report.isValid, List.isEmpty_iff, List.append_eq_nil_iff, hdup, hparams, hname]
  constructor
  · rintro ⟨⟨⟨hd, hn⟩, hb⟩, hp⟩
    exact ⟨hd, hn, hp, hb⟩
  · rintro ⟨hd, hn, hp, hb⟩
    exact ⟨⟨⟨hd, hn⟩, hb⟩, hp⟩

/-- What building a tool comes to: the tool when the declaration is sound and its type has an
executor, and otherwise an error that names the declaration. -/
inductive Builds (d : ToolDeclaration) (types : List String) (mode : Validation) :
    Except ManifestError Tool → Prop where
  | tool {t : Tool} (sound : d.Sound mode) (runs : d.HasExecutor types) (name : t.name = d.name) :
    Builds d types mode (.ok t)
  | invalid {reason : ConfigurationError} (unsound : ¬ d.Sound mode) :
    Builds d types mode (.error (.invalidTool d.name reason))
  | noExecutor {type : String} (sound : d.Sound mode) (runs : ¬ d.HasExecutor types) :
    Builds d types mode (.error (.noExecutor d.name type types))

theorem builds (d : ToolDeclaration) (types : List String) (o : BuildOptions) :
    d.Builds types o.validation (d.build types o).2 := by
  unfold build
  split
  · rename_i problem hn
    refine .invalid fun h => ?_
    rw [h.name] at hn
    cases hn
  · rename_i hn
    split
    · rename_i hp
      refine .invalid fun h => ?_
      rw [h.parameters] at hp
      cases hp
    · rename_i hp
      split
      · rename_i e he
        exact .invalid fun h => Binding.check_of_parse_error he h.binding
      · rename_i b warnings hb
        have declared : d.binding.get? "type" = some (.str b.typeName) :=
          Binding.declared_of_parse hb
        have sound : d.Sound o.validation := by
          obtain ⟨r, ha, he, -⟩ := Binding.parse_eq_ok.1 hb
          refine ⟨hn, by simpa using hp, ?_⟩
          rw [Binding.check, ha]
          exact he
        -- Forcing shadow mode leaves the type as it is.
        have type : (if o.forceShadow then ({ b with mode := .shadow } : Binding) else b).typeName =
            b.typeName := by
          split <;> rfl
        simp only [type]
        split
        · rename_i ht
          exact .tool sound ⟨_, declared, List.contains_iff_mem.1 ht⟩ rfl
        · rename_i ht
          refine .noExecutor sound ?_
          rintro ⟨name, hname, hmem⟩
          rw [declared] at hname
          cases hname
          exact ht (List.contains_iff_mem.2 hmem)

end ToolDeclaration

/-! ## Manifests -/

/-- The name of the tool that an error is about. -/
def ManifestError.tool? : ManifestError → Option String
  | .duplicateTool name => some name
  | .invalidTool name _ => some name
  | .noExecutor name .. => some name
  | _ => none

namespace Manifest

variable {types : List String} {o : BuildOptions}

/-- A declaration and its report let a tool be built. -/
def Fits (types : List String) (d : ToolDeclaration) (r : Report) : Prop :=
  r.isValid = true ∧ d.HasExecutor types

/-- At an index stands the first declaration that, with its report, lets no tool be built. -/
structure FirstUnfit (types : List String) (ds : List ToolDeclaration)
    (reports : List (String × Report)) (i : Nat) (d : ToolDeclaration) (r : Report) : Prop where
  declared : ds[i]? = some d
  reported : reports[i]? = some (d.name, r)
  unfit : ¬ Fits types d r
  before : ∀ j < i, ∃ d' r', ds[j]? = some d' ∧ reports[j]? = some (d'.name, r') ∧ Fits types d' r'

theorem FirstUnfit.cons {ds : List ToolDeclaration} {reports : List (String × Report)} {i : Nat}
    {d e : ToolDeclaration} {r s : Report} (h : FirstUnfit types ds reports i d r)
    (hf : Fits types e s) : FirstUnfit types (e :: ds) ((e.name, s) :: reports) (i + 1) d r := by
  refine ⟨h.declared, h.reported, h.unfit, ?_⟩
  intro j hj
  cases j with
  | zero => exact ⟨e, s, rfl, rfl, hf⟩
  | succ j => exact h.before j (Nat.lt_of_succ_lt_succ hj)

/-- Building a declaration that stands behind others of the names `earlier`. -/
theorem buildFrom_cons (earlier : List String) (d : ToolDeclaration)
    (rest : List ToolDeclaration) :
    let r := d.report o.validation earlier
    (∃ t, t.name = d.name ∧ Fits types d r
        ∧ buildFrom types o earlier (d :: rest) =
          (buildFrom types o (d.name :: earlier) rest).map (t :: ·))
      ∨ ∃ e, buildFrom types o earlier (d :: rest) = .error e ∧ ¬ Fits types d r
        ∧ e.tool? = some d.name
        ∧ (r.isValid = true ↔ ∃ type, e = .noExecutor d.name type types) := by
  intro r
  have valid : r.isValid = true ↔ d.name ∉ earlier ∧ d.Sound o.validation :=
    ToolDeclaration.report_isValid
  rw [buildFrom]
  by_cases hdup : d.name ∈ earlier
  · have invalid : ¬ r.isValid = true := fun h => (valid.1 h).1 hdup
    refine .inr ⟨.duplicateTool d.name, ?_, fun h => invalid h.1, rfl, ?_⟩
    · rw [if_pos (List.contains_iff_mem.2 hdup)]
    · exact iff_of_false invalid (by rintro ⟨type, h⟩; cases h)
  · rw [if_neg (mt List.contains_iff_mem.1 hdup)]
    have hb := d.builds types o
    generalize (d.build types o).2 = built at hb ⊢
    cases hb with
    | tool sound runs name => exact .inl ⟨_, name, ⟨valid.2 ⟨hdup, sound⟩, runs⟩, rfl⟩
    | invalid unsound =>
      have invalid : ¬ r.isValid = true := fun h => unsound (valid.1 h).2
      refine .inr ⟨_, rfl, fun h => invalid h.1, rfl, ?_⟩
      exact iff_of_false invalid (by rintro ⟨type, h⟩; cases h)
    | noExecutor sound runs =>
      exact .inr ⟨_, rfl, fun h => runs h.2, rfl, iff_of_true (valid.2 ⟨hdup, sound⟩) ⟨_, rfl⟩⟩

/-- Tools that are built are one of each declaration, and every report is valid and every type
has an executor. -/
theorem buildFrom_ok {earlier : List String} {ds : List ToolDeclaration} {tools : List Tool}
    (h : buildFrom types o earlier ds = .ok tools) :
    (∀ r ∈ reportsFrom o.validation earlier ds, r.2.isValid = true)
      ∧ (∀ d ∈ ds, d.HasExecutor types) ∧ tools.map (·.name) = ds.map (·.name) := by
  induction ds generalizing earlier tools with
  | nil =>
    cases h
    exact ⟨nofun, nofun, rfl⟩
  | cons d rest ih =>
    rcases buildFrom_cons earlier d rest with ⟨t, ht, ⟨valid, runs⟩, hb⟩ | ⟨e, hb, -⟩
    · rw [hb] at h
      obtain ⟨more, hm, rfl⟩ := map_eq_ok.1 h
      obtain ⟨valids, allRun, names⟩ := ih hm
      refine ⟨List.forall_mem_cons.2 ⟨valid, valids⟩, List.forall_mem_cons.2 ⟨runs, allRun⟩, ?_⟩
      rw [List.map_cons, List.map_cons, ht, names]
    · rw [hb] at h
      cases h

/-- Building fails at the first declaration that lets no tool be built. -/
theorem buildFrom_error {earlier : List String} {ds : List ToolDeclaration} {e : ManifestError}
    (h : buildFrom types o earlier ds = .error e) :
    ∃ i d r, FirstUnfit types ds (reportsFrom o.validation earlier ds) i d r
      ∧ e.tool? = some d.name
      ∧ (r.isValid = true ↔ ∃ type, e = .noExecutor d.name type types) := by
  induction ds generalizing earlier with
  | nil => cases h
  | cons d rest ih =>
    rcases buildFrom_cons earlier d rest with ⟨t, ht, hf, hb⟩ | ⟨e', hb, hf, hn, hv⟩
    · rw [hb] at h
      obtain ⟨i, d', r', first, hn, hv⟩ := ih (map_eq_error.1 h)
      exact ⟨i + 1, d', r', first.cons hf, hn, hv⟩
    · rw [hb] at h
      cases h
      exact ⟨0, d, _, ⟨rfl, rfl, hf, fun j hj => absurd hj (Nat.not_lt_zero j)⟩, hn, hv⟩

end Manifest

/-- Building the tools of a manifest succeeds exactly when every report of its check is valid and
every declaration is of a type that has an executor. The tools then are one of each declaration,
in order and of its name. Otherwise the error names the first declaration whose report is not
valid or whose type has no executor, and says that an executor is missing exactly when the report
is valid. -/
theorem Manifest.build_agrees_check (m : Manifest) (registry : Registry) (o : BuildOptions) :
    ((∃ tools, m.build registry.types o = .ok tools) ↔
      (∀ r ∈ m.check o.validation, r.2.isValid = true)
        ∧ ∀ d ∈ m.tools, d.HasExecutor registry.types)
    ∧ (∀ tools, m.build registry.types o = .ok tools →
      tools.map (·.name) = m.tools.map (·.name))
    ∧ ∀ e, m.build registry.types o = .error e →
      ∃ i d r, FirstUnfit registry.types m.tools (m.check o.validation) i d r
        ∧ e.tool? = some d.name
        ∧ (r.isValid = true ↔ ∃ type, e = .noExecutor d.name type registry.types) := by
  refine ⟨⟨?_, ?_⟩, ?_, ?_⟩
  · rintro ⟨tools, h⟩
    obtain ⟨valid, runs, -⟩ := buildFrom_ok h
    exact ⟨valid, runs⟩
  · rintro ⟨valid, runs⟩
    cases h : m.build registry.types o with
    | ok tools => exact ⟨tools, rfl⟩
    | error e =>
      obtain ⟨i, d, r, first, -⟩ := buildFrom_error h
      have fits : Fits registry.types d r :=
        ⟨valid _ (List.mem_of_getElem? first.reported),
          runs _ (List.mem_of_getElem? first.declared)⟩
      exact absurd fits first.unfit
  · exact fun tools h => (buildFrom_ok h).2.2
  · exact fun e h => buildFrom_error h

end Toolwire
