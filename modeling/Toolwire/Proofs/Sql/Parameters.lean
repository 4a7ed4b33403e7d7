import Mathlib
import Toolwire.Executor
import Toolwire.Proofs.Query.Appearance
/-!
# Parameters of statements

A binding without problems maps each placeholder of its query and maps nothing else, so what a
statement lacks can only be an argument: `bind_of_structuralErrors`.
-/
namespace Toolwire.Sql

open Query

/-! ## Checked bindings -/

/-- What the check of a binding says about its query. -/
structure Checked (q : SqlBinding) : Prop where
  unmarked : (scan q.query).markers = []
  mapped : ∀ name ∈ (scan q.query).placeholders, Members.has q.parameters name = true
  used : ∀ entry ∈ q.parameters, entry.1 ∈ (scan q.query).placeholders
  reads : q.readOnly = true → (scan q.query).isMutating = false

theorem mem_placeholders_of_parameterErrors {s : Scan} {name argument : String}
    (h : Binding.parameterErrors s name argument = []) : name ∈ s.placeholders := by
  have hname := (List.append_eq_nil_iff.1 h).1
  split_ifs at hname with hc
  exact List.contains_iff_mem.1 hc

theorem checked_of_queryErrors {q : SqlBinding} (h : Binding.queryErrors q = []) : Checked q := by
  simp only [Binding.queryErrors, List.append_eq_nil_iff, List.map_eq_nil_iff,
    List.filter_eq_nil_iff, List.flatMap_eq_nil_iff] at h
  obtain ⟨⟨⟨hmarkers, hmapped⟩, hused⟩, hreads⟩ := h
  refine ⟨hmarkers, fun name hn => by simpa using hmapped name hn,
    fun entry he => mem_placeholders_of_parameterErrors (hused entry he), fun hr => ?_⟩
  simpa [hr] using hreads

theorem checked_of_structuralErrors {b : Binding} {q : SqlBinding} (hp : b.protocol = .sql q)
    (h : b.structuralErrors = []) : Checked q := by
  simp only [Binding.structuralErrors, hp, Binding.protocolErrors, Binding.sqlErrors,
    List.append_eq_nil_iff] at h
  obtain ⟨-, -, hquery⟩ := h
  -- A blank query is a problem of its own, and is not scanned.
  split_ifs at hquery
  exact checked_of_queryErrors hquery

/-- The placeholders of a checked query are the keys of its mapping. -/
theorem Checked.mem_placeholders {q : SqlBinding} (h : Checked q) {name : String} :
    name ∈ (scan q.query).placeholders ↔ name ∈ Members.keys q.parameters := by
  constructor
  · intro hn
    obtain ⟨argument, ha⟩ := Option.isSome_iff_exists.1 (h.mapped name hn)
    exact List.mem_map.2 ⟨(name, argument), Members.get?_mem ha, rfl⟩
  · intro hn
    obtain ⟨entry, he, rfl⟩ := List.mem_map.1 hn
    exact h.used entry he

/-! ## Values -/

section
variable {q : SqlBinding} {args : Members}

/-- The value of the argument that a placeholder is mapped to. -/
def value? (q : SqlBinding) (args : Members) (name : String) : Option Json :=
  (Members.get? q.parameters name).bind (Members.get? args)

theorem bindOne_eq_ok {name : String} {entry : String × Json} :
    bindOne q args name = .ok entry ↔ entry.1 = name ∧ value? q args name = some entry.2 := by
  unfold bindOne value?
  cases Members.get? q.parameters name with
  | none => simp
  | some argument =>
    cases hv : Members.get? args argument with
    | none => simp [hv]
    | some value => simp [hv, Prod.ext_iff, eq_comm]

theorem bindAll_cons_ne_nil {name : String} {rest : List String} :
    bindAll q args (name :: rest) ≠ .ok [] := by
  intro h
  rw [bindAll] at h
  split at h
  · cases h
  · obtain ⟨more, -, hmore⟩ := map_eq_ok.1 h
    cases hmore

theorem bindAll_cons {name : String} {rest : List String} {entry : String × Json}
    {more : List (String × Json)} :
    bindAll q args (name :: rest) = .ok (entry :: more) ↔
      bindOne q args name = .ok entry ∧ bindAll q args rest = .ok more := by
  rw [bindAll]
  cases bindOne q args name with
  | error e => simp
  | ok first => cases bindAll q args rest <;> simp [Except.map]

/-- Placeholders are bound in their order, each to its own value. -/
theorem bindAll_eq_ok {names : List String} {bound : List (String × Json)} :
    bindAll q args names = .ok bound ↔
      bound.map Prod.fst = names ∧ ∀ entry ∈ bound, value? q args entry.1 = some entry.2 := by
  induction names generalizing bound with
  | nil =>
    cases bound with
    | nil => simp [bindAll]
    | cons entry more => simp [bindAll]
  | cons name rest ih =>
    cases bound with
    | nil => simp [bindAll_cons_ne_nil]
    | cons entry more =>
      rw [bindAll_cons, bindOne_eq_ok, ih, List.map_cons, List.cons.injEq, List.forall_mem_cons,
        and_and_and_comm]
      exact and_congr_right fun heads => by rw [heads.1]

theorem exists_bindAll {names : List String} :
    (∃ bound, bindAll q args names = .ok bound) ↔
      ∀ name ∈ names, ∃ value, value? q args name = some value := by
  constructor
  · rintro ⟨bound, hb⟩ name hn
    obtain ⟨rfl, hvalues⟩ := bindAll_eq_ok.1 hb
    obtain ⟨entry, he, rfl⟩ := List.mem_map.1 hn
    exact ⟨entry.2, hvalues entry he⟩
  · intro h
    choose! value hvalue using h
    have values : ∀ entry ∈ names.map fun name => (name, value name),
        value? q args entry.1 = some entry.2 := by
      intro entry he
      obtain ⟨name, hn, rfl⟩ := List.mem_map.1 he
      exact hvalue name hn
    exact ⟨_, bindAll_eq_ok.2 ⟨by simp [Function.comp_def], values⟩⟩

/-- Where each placeholder has a mapping, only the mapped arguments matter. -/
theorem bindAll_congr {args' : Members} (h : ∀ name argument,
      Members.get? q.parameters name = some argument →
      Members.get? args argument = Members.get? args' argument) (names : List String) :
    bindAll q args names = bindAll q args' names := by
  have hone : ∀ name, bindOne q args name = bindOne q args' name := by
    intro name
    unfold bindOne
    cases hm : Members.get? q.parameters name with
    | none => rfl
    | some argument => simp only [h name argument hm]
  induction names with
  | nil => rfl
  | cons name rest ih => simp only [bindAll, hone, ih]

end

/-! ## Statements -/

/-- A statement binds the placeholders of a query to the arguments that they are mapped to. -/
structure Binds (q : SqlBinding) (args : Members) (s : Statement) : Prop where
  text : s.text = q.query
  distinct : (s.parameters.map Prod.fst).Nodup
  mapped : ∀ name, name ∈ s.parameters.map Prod.fst ↔ name ∈ Members.keys q.parameters
  placed : ∀ name ∈ s.parameters.map Prod.fst,
    ∃ place, firstPlace? q.query name = some place ∧ StandsAt q.query.toList name place
  ordered : (s.parameters.map Prod.fst).Pairwise fun m n =>
    ∃ i j, firstPlace? q.query m = some i ∧ firstPlace? q.query n = some j ∧ i < j
  bound : ∀ entry ∈ s.parameters, ∃ argument,
    Members.get? q.parameters entry.1 = some argument ∧ Members.get? args argument = some entry.2

theorem Checked.binds {q : SqlBinding} (h : Checked q) {args : Members} {s : Statement}
    (hs : bind q args = .ok s) : Binds q args s := by
  obtain ⟨bound, hb, rfl⟩ := map_eq_ok.1 hs
  obtain ⟨hnames, hvalues⟩ := bindAll_eq_ok.1 hb
  obtain ⟨hnodup, hplaced, hordered⟩ := placeholders_ordered q.query
  have hmapped : ∀ name, name ∈ (scan q.query).placeholders ↔ name ∈ Members.keys q.parameters :=
    fun name => h.mem_placeholders
  -- The bound names are the placeholders that the scan finds, in its order.
  rw [← hnames] at hnodup hplaced hordered hmapped
  refine ⟨rfl, hnodup, hmapped, fun name hn => ?_, hordered, fun entry he => ?_⟩
  · obtain ⟨place, hplace⟩ := (hplaced name).1 hn
    exact ⟨place, hplace, standsAt_firstPlace hplace⟩
  · exact Option.bind_eq_some_iff.1 (hvalues entry he)

theorem Checked.exists_bind {q : SqlBinding} (h : Checked q) (args : Members) :
    (∃ s, bind q args = .ok s) ↔ ∀ name argument,
      Members.get? q.parameters name = some argument → Members.has args argument = true := by
  have hbound : (∃ s, bind q args = .ok s) ↔
      ∃ bound, bindAll q args (scan q.query).placeholders = .ok bound := by
    simp only [bind, map_eq_ok]
    exact ⟨fun ⟨_, bound, hb, _⟩ => ⟨bound, hb⟩, fun ⟨bound, hb⟩ => ⟨_, bound, hb, rfl⟩⟩
  rw [hbound, exists_bindAll]
  constructor
  · intro hvalues name argument ha
    have hname : name ∈ (scan q.query).placeholders :=
      h.used (name, argument) (Members.get?_mem ha)
    obtain ⟨value, hvalue⟩ := hvalues name hname
    rw [value?, ha, Option.bind_some] at hvalue
    exact Option.isSome_iff_exists.2 ⟨value, hvalue⟩
  · intro hargs name hn
    obtain ⟨argument, ha⟩ := Option.isSome_iff_exists.1 (h.mapped name hn)
    obtain ⟨value, hvalue⟩ := Option.isSome_iff_exists.1 (hargs name argument ha)
    exact ⟨value, Option.bind_eq_some_iff.2 ⟨argument, ha, hvalue⟩⟩

/-- A binding without problems makes a statement of all arguments that have the mapped ones. The
statement is the declared query, with each placeholder bound to its own argument, and no other
argument has a part in it. -/
theorem bind_of_structuralErrors {b : Binding} {q : SqlBinding} (hp : b.protocol = .sql q)
    (h : b.structuralErrors = []) :
    (∀ args, (∃ s, bind q args = .ok s) ↔ ∀ name argument,
        Members.get? q.parameters name = some argument → Members.has args argument = true)
      ∧ (∀ args s, bind q args = .ok s → Binds q args s)
      ∧ ∀ args args', (∀ name argument, Members.get? q.parameters name = some argument →
          Members.get? args argument = Members.get? args' argument) →
        bind q args = bind q args' := by
  have checked : Checked q := checked_of_structuralErrors hp h
  refine ⟨checked.exists_bind, fun args s => checked.binds, fun args args' hsame => ?_⟩
  rw [bind, bindAll_congr hsame, bind]

/-- A placeholder that appears twice, with casts, a literal and a comment around. -/
theorem bind_of_structuralErrors_repeated :
    ∃ q : SqlBinding,
      q.query = "SELECT :b::int, ':c' FROM t WHERE x = :a AND y = :b -- :d"
      ∧ ({ protocol := .sql q } : Binding).structuralErrors = []
      ∧ (¬ ∃ s, bind q [("from", .int 1)] = .ok s)
      ∧ Binds q [("from", .int 1), ("to", .int 2)] ⟨q.query, [("b", .int 2), ("a", .int 1)]⟩
      ∧ bind q [("from", .int 1), ("to", .int 2), ("user", .null)] =
        bind q [("from", .int 1), ("to", .int 2)] := by
  let q : SqlBinding :=
    { connection := "$\x7bDB\x7d"
      query := "SELECT :b::int, ':c' FROM t WHERE x = :a AND y = :b -- :d"
      parameters := [("a", "from"), ("b", "to")] }
  have sound : ({ protocol := .sql q } : Binding).structuralErrors = [] := by decide +kernel
  have found : (scan q.query).placeholders = ["b", "a"] := by decide +kernel
  have made : bind q [("from", .int 1), ("to", .int 2)] =
      .ok ⟨q.query, [("b", .int 2), ("a", .int 1)]⟩ := by
    rw [bind, found]
    rfl
  obtain ⟨total, binds, own⟩ := bind_of_structuralErrors rfl sound
  refine ⟨q, rfl, sound, fun hs => ?_, binds _ _ made, own _ _ fun name argument ha => ?_⟩
  · have lacks := (total _).1 hs "b" "to" rfl
    cases lacks
  · have mapped : (name, argument) ∈ [("a", "from"), ("b", "to")] := Members.get?_mem ha
    simp only [List.mem_cons, Prod.mk.injEq, List.not_mem_nil, or_false] at mapped
    rcases mapped with ⟨-, rfl⟩ | ⟨-, rfl⟩ <;> rfl

end Toolwire.Sql
