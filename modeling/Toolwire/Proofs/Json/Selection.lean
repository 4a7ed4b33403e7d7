import Mathlib
import Toolwire.Proofs.Json.Leaf
import Toolwire.Proofs.Json.Spelling
/-!
# Values at written paths

A path that is written for a place in a value selects what is there, unless a step in it is read as
another one. `extract_spell_iff` says for which paths that cannot happen, whatever the value.
-/
namespace Toolwire.Json.Path

/-! ## Steps that are read as they are meant -/

/-- The step is read as the one that is meant. With no index attached to it a key is taken for a
number if it spells one, so it has to be the digits of that number. With one attached to it an index
as digits is taken for a key. -/
def Written.IsMeant (followed : Bool) : Written → Prop
  | .key name => followed = true ∨ ∀ n, SpellsNumber name.toList n → name = toString n
  | .digits n => n < 2 ^ 64 ∧ followed = false
  | .brackets n => n < 2 ^ 64

/-- Every step of the path is read as the one that is meant. -/
def Faithful : List Written → Prop
  | [] => True
  | w :: ws => w.IsMeant (attached ws) ∧ Faithful ws

theorem read_key (followed : Bool) (name : String) :
    (Written.key name).read followed =
      some (if followed then .field name else lone name.toList) := by
  simp [Written.read, Written.text]

theorem read_digits (followed : Bool) (n : Nat) :
    (Written.digits n).read followed =
      some (if followed then .field (toString n) else lone (Nat.toDigits 10 n)) := by
  simp [Written.read, Written.text, Nat.repr_eq_ofList_toDigits]

theorem lone_toDigits (n : Nat) :
    lone (Nat.toDigits 10 n) = if n < 2 ^ 64 then .index n else .field (toString n) := by
  rw [lone, index?_toDigits]
  by_cases hn : n < 2 ^ 64
  · rw [if_pos hn, if_pos hn]
  · rw [if_neg hn, if_neg hn]
    rfl

theorem lone_eq_index {name : String} {n : Nat} (h : SpellsNumber name.toList n) :
    lone name.toList = .index n := by
  rw [lone, index?_eq_some.2 h]

theorem child?_field (v : Json) (name : String) : v.child? (.field name) = v.get? name := by
  cases v <;> rfl

theorem select_index {v u : Json} {n : Nat} (h : v.child? (.index n) = some u) :
    Step.select v (.index n) = some u := by
  cases v with
  | arr items => exact h
  | _ => cases h

/-- A number selects the member of an object under its digits. -/
theorem select_member {v u : Json} {n : Nat} (h : v.child? (.field (toString n)) = some u) :
    Step.select v (.index n) = some u := by
  cases v with
  | obj ms => exact h
  | _ => cases h

theorem select_isMeant {w : Written} {followed : Bool} (h : w.IsMeant followed) {v u : Json}
    (hu : v.child? w.step = some u) :
    ∃ step, w.read followed = some step ∧ Step.select v step = some u := by
  cases w with
  | key name =>
    have field : Step.select v (.field name) = some u := by
      rw [← hu]
      exact (child?_field v name).symm
    refine ⟨_, read_key followed name, ?_⟩
    by_cases hf : followed = true
    · rwa [if_pos hf]
    · rw [if_neg hf]
      by_cases hnumber : ∃ n, SpellsNumber name.toList n
      · obtain ⟨n, hn⟩ := hnumber
        rw [lone_eq_index hn]
        apply select_member
        rwa [← h.resolve_left hf n hn]
      · rwa [lone_of_distinct (not_exists.1 hnumber)]
  | digits n =>
    obtain ⟨hn, rfl⟩ := h
    refine ⟨.index n, ?_, select_index hu⟩
    simp only [read_digits, lone_toDigits, if_pos hn, Bool.false_eq_true, if_false]
  | brackets n => exact ⟨.index n, if_pos h, select_index hu⟩

/-- A path whose steps are read as they are meant leads where it is meant to lead. -/
theorem select_of_faithful {ws : List Written} (h : Faithful ws) {v w : Json}
    (hv : v.at? (ws.map Written.step) = some w) :
    ∃ steps, read ws = some steps ∧ select v steps = some w := by
  induction ws generalizing v with
  | nil => exact ⟨[], rfl, hv⟩
  | cons x ws ih =>
    obtain ⟨u, hu, hv⟩ := Option.bind_eq_some_iff.1 hv
    obtain ⟨step, hread, hstep⟩ := select_isMeant h.1 hu
    obtain ⟨steps, hreads, hsteps⟩ := ih h.2 hv
    exact ⟨step :: steps, by simp [read, hread, hreads], by simp [select, hstep, hsteps]⟩

/-! ## Steps that are read as others -/

/-- The value in which there is nothing but a path. -/
def along : List Step → Json
  | [] => .null
  | .field name :: path => .obj [(name, along path)]
  | .index n :: path => .arr (List.replicate n .null ++ [along path])

theorem get?_along {name key : String} {path : List Step} {u : Json}
    (h : (along (.field name :: path)).get? key = some u) : key = name ∧ u = along path := by
  rw [along, get?, Members.get?, lookup_cons_ite] at h
  split at h
  · rename_i hkey
    exact ⟨hkey, (Option.some.inj h).symm⟩
  · cases h

theorem getElem?_along (n : Nat) (path : List Step) :
    (List.replicate n Json.null ++ [along path])[n]? = some (along path) := by
  simp

theorem at?_along (path : List Step) : (along path).at? path = some .null := by
  induction path with
  | nil => rfl
  | cons step path ih =>
    cases step with
    | field name => simpa [along, at?, child?, Members.get?] using ih
    | index n => simpa [along, at?, child?] using ih

theorem isMeant_of_select {w : Written} {followed : Bool} {step : Step} {path : List Step} {u : Json}
    (hread : w.read followed = some step)
    (h : Step.select (along (w.step :: path)) step = some u) :
    w.IsMeant followed ∧ u = along path := by
  cases w with
  | key name =>
    rw [read_key, Option.some.injEq] at hread
    subst hread
    by_cases hf : followed = true
    · rw [if_pos hf] at h
      exact ⟨.inl hf, (get?_along h).2⟩
    · rw [if_neg hf] at h
      by_cases hnumber : ∃ n, SpellsNumber name.toList n
      · obtain ⟨n, hn⟩ := hnumber
        rw [lone_eq_index hn] at h
        obtain ⟨hname, hu⟩ := get?_along h
        refine ⟨.inr fun m hm => ?_, hu⟩
        have same := (lone_eq_index hm).symm.trans (lone_eq_index hn)
        cases same
        exact hname.symm
      · rw [lone_of_distinct (not_exists.1 hnumber)] at h
        exact ⟨.inr fun m hm => absurd ⟨m, hm⟩ hnumber, (get?_along h).2⟩
  | digits n =>
    -- No key selects anything in an array.
    rw [read_digits, Option.some.injEq, lone_toDigits] at hread
    subst hread
    cases followed with
    | true => cases h
    | false =>
      simp only [Bool.false_eq_true, if_false] at h
      split at h
      · rename_i hn
        exact ⟨⟨hn, rfl⟩, Option.some.inj (h.symm.trans (getElem?_along n path))⟩
      · cases h
  | brackets n =>
    simp only [Written.read, Option.ite_none_right_eq_some, Option.some.injEq] at hread
    obtain ⟨hn, rfl⟩ := hread
    exact ⟨hn, Option.some.inj (h.symm.trans (getElem?_along n path))⟩

theorem faithful_of_select {ws : List Written} {steps : List Step} (hread : read ws = some steps)
    (h : select (along (ws.map Written.step)) steps = some .null) : Faithful ws := by
  induction ws generalizing steps with
  | nil => trivial
  | cons w ws ih =>
    obtain ⟨step, hstep, hread⟩ := Option.bind_eq_some_iff.1 hread
    obtain ⟨rest, hrest, rfl⟩ := Option.map_eq_some_iff.1 hread
    obtain ⟨u, hu, h⟩ := Option.bind_eq_some_iff.1 h
    obtain ⟨hmeant, rfl⟩ := isMeant_of_select hstep hu
    exact ⟨hmeant, ih hrest h⟩

/-! ## Extraction -/

theorem extract_spell {ws : List Written} (h : ∀ w ∈ ws, w.Fits) (v : Json) :
    extract v (spell ws) =
      match read ws with
      | none => .error (errorMessage (spell ws))
      | some steps => .ok (select v steps) := by
  cases hread : read ws <;> simp only [extract, parse_spell h, hread]

/-- A written path selects what its steps lead to, in every value in which they lead somewhere,
exactly when each step is read as it is meant: a key without an index attached to it is not another
way to write a number, no index as digits has one attached to it, and every index is below
`2 ^ 64`. -/
theorem extract_spell_iff {ws : List Written} (h : ∀ name, .key name ∈ ws → Spellable name) :
    (∀ v w, v.at? (ws.map Written.step) = some w → extract v (spell ws) = .ok (some w)) ↔
      Faithful ws := by
  have fits : ∀ w ∈ ws, w.Fits := by
    rintro w hw name rfl
    exact h name hw
  constructor
  · intro hall
    have here := hall _ _ (at?_along (ws.map Written.step))
    rw [extract_spell fits] at here
    cases hread : read ws with
    | none => simp [hread] at here
    | some steps =>
      simp only [hread, Except.ok.injEq] at here
      exact faithful_of_select hread here
  · intro hws v w hv
    obtain ⟨steps, hread, hselect⟩ := select_of_faithful hws hv
    rw [extract_spell fits, hread]
    exact congrArg Except.ok hselect

/-- Two indexes in brackets behind a key that spells a number, and an index as digits behind them. -/
theorem extract_spell_iff_grid :
    let ws : List Written := [.key "007", .brackets 1, .brackets 0, .key "b", .digits 2]
    let b : Json := .obj [("b", .arr [.null, .null, .str "x"])]
    let v : Json := .obj [("007", .arr [.null, .arr [b]])]
    (∀ name, .key name ∈ ws → Spellable name) ∧ Faithful ws
    ∧ v.at? (ws.map Written.step) = some (.str "x")
    ∧ extract v "$.007[1][0].b.2" = .ok (some (.str "x")) := by
  intro ws b v
  have keys : ∀ name, .key name ∈ ws → Spellable name := by
    intro name hname
    simp only [ws, List.mem_cons, Written.key.injEq, reduceCtorEq, List.not_mem_nil, or_false,
      false_or] at hname
    rcases hname with rfl | rfl
    · exact ⟨by decide, by decide, by decide, by simp; decide⟩
    · exact ⟨by decide, by decide, by decide, by simp; decide⟩
  have faithful : Faithful ws := by
    have word : ∀ n, ¬ SpellsNumber "b".toList n := index?_eq_none.1 (by decide)
    have small : ∀ n < 10, n < 2 ^ 64 := by omega
    exact ⟨.inl rfl, small 1 (by decide), small 0 (by decide),
      .inr fun n hn => absurd hn (word n), ⟨small 2 (by decide), rfl⟩, trivial⟩
  have leads : v.at? (ws.map Written.step) = some (.str "x") := rfl
  exact ⟨keys, faithful, leads,
    (extract_spell_iff keys).2 faithful v _ leads⟩

/-- A key of digits with zeros before them, and an index in brackets behind one as digits. -/
theorem extract_spell_misread :
    let object : Json := .obj [("007", .str "bond")]
    let grid : Json := .arr [.arr [.int 1, .int 2]]
    object.at? [.field "007"] = some (.str "bond")
    ∧ spell [.key "007"] = "$.007" ∧ extract object "$.007" = .ok none
    ∧ grid.at? [.index 0, .index 1] = some (.int 2)
    ∧ spell [.digits 0, .brackets 1] = "$.0[1]" ∧ extract grid "$.0[1]" = .ok none :=
  ⟨rfl, rfl, rfl, rfl, rfl, rfl⟩

end Toolwire.Json.Path
