import Mathlib
import Toolwire.Json.Path
import Toolwire.Proofs.Json.Reading
/-!
# The strings in a value

A value is walked through items in order and members by their keys, and each string is handled on
its own. Such a walk succeeds when every string does, fails as the first one that does not, and
changes nothing but strings: `pointwise_mapStrings`.
-/
namespace Toolwire.Json

/-! ## Places in a value -/

/-- The value one step down. -/
def child? : Json → Step → Option Json
  | .obj ms, .field key => Members.get? ms key
  | .arr items, .index n => items[n]?
  | _, _ => none

/-- The value at a place. -/
def at? (v : Json) : List Step → Option Json
  | [] => some v
  | step :: path => (v.child? step).bind fun w => w.at? path

/-- A value that is no string and holds no others. -/
def isScalar : Json → Bool
  | .null | .bool _ | .int _ | .float _ => true
  | _ => false

/-- A place comes before another: by the order of keys or of items where the ways part. -/
inductive Before : List Step → List Step → Prop
  | field {k l : String} (h : k < l) (p q : List Step) : Before (.field k :: p) (.field l :: q)
  | index {m n : Nat} (h : m < n) (p q : List Step) : Before (.index m :: p) (.index n :: q)
  | under (step : Step) {p q : List Step} (h : Before p q) : Before (step :: p) (step :: q)

/-- The members of every object in a value stand in ascending order of their keys. -/
def Ordered (v : Json) : Prop := ∀ path ms, v.at? path = some (.obj ms) → Members.Sorted ms

/-- Strings with their places, one step further down. -/
def down (step : Step) (leaves : List (List Step × String)) : List (List Step × String) :=
  leaves.map fun l => (step :: l.1, l.2)

mutual

/-- The strings in a value with their places, in the order in which they are visited. -/
def leaves : Json → List (List Step × String)
  | .str s => [([], s)]
  | .arr items => itemLeaves 0 items
  | .obj ms => memberLeaves ms
  | _ => []

/-- The strings in items that are counted from `n`. -/
def itemLeaves (n : Nat) : List Json → List (List Step × String)
  | [] => []
  | x :: xs => down (.index n) (leaves x) ++ itemLeaves (n + 1) xs

/-- The strings in the values of members. -/
def memberLeaves : List (String × Json) → List (List Step × String)
  | [] => []
  | (k, x) :: ms => down (.field k) (leaves x) ++ memberLeaves ms

end

/-! ## The order of the strings -/

theorem mem_down {step : Step} {ls : List (List Step × String)} {path : List Step} {s : String} :
    (path, s) ∈ down step ls ↔ ∃ rest, path = step :: rest ∧ (rest, s) ∈ ls := by
  simp only [down, List.mem_map, Prod.mk.injEq, Prod.exists]
  constructor
  · rintro ⟨rest, t, hl, rfl, rfl⟩
    exact ⟨rest, rfl, hl⟩
  · rintro ⟨rest, rfl, hl⟩
    exact ⟨rest, s, hl, rfl, rfl⟩

theorem mem_itemLeaves {n : Nat} {items : List Json} {path : List Step} {s : String} :
    (path, s) ∈ itemLeaves n items ↔
      ∃ i x rest, items[i]? = some x ∧ path = .index (n + i) :: rest ∧ (rest, s) ∈ x.leaves := by
  induction items generalizing n with
  | nil => simp [itemLeaves]
  | cons y ys ih =>
    rw [itemLeaves, List.mem_append, mem_down, ih]
    constructor
    · rintro (⟨rest, rfl, hl⟩ | ⟨i, x, rest, hx, rfl, hl⟩)
      · exact ⟨0, y, rest, rfl, rfl, hl⟩
      · exact ⟨i + 1, x, rest, hx, by rw [Nat.add_right_comm, Nat.add_assoc], hl⟩
    · rintro ⟨i, x, rest, hx, rfl, hl⟩
      cases i with
      | zero =>
        cases hx
        exact .inl ⟨rest, rfl, hl⟩
      | succ i => exact .inr ⟨i, x, rest, hx, by rw [Nat.add_right_comm, Nat.add_assoc], hl⟩

theorem mem_memberLeaves {ms : List (String × Json)} {path : List Step} {s : String} :
    (path, s) ∈ memberLeaves ms ↔
      ∃ k x rest, (k, x) ∈ ms ∧ path = .field k :: rest ∧ (rest, s) ∈ x.leaves := by
  induction ms with
  | nil => simp [memberLeaves]
  | cons m ms ih =>
    obtain ⟨l, y⟩ := m
    rw [memberLeaves, List.mem_append, mem_down, ih]
    constructor
    · rintro (⟨rest, rfl, hl⟩ | ⟨k, x, rest, hm, rfl, hl⟩)
      · exact ⟨l, y, rest, List.mem_cons_self, rfl, hl⟩
      · exact ⟨k, x, rest, List.mem_cons_of_mem _ hm, rfl, hl⟩
    · rintro ⟨k, x, rest, hm, rfl, hl⟩
      rcases List.mem_cons.1 hm with h | hm
      · cases h
        exact .inl ⟨rest, rfl, hl⟩
      · exact .inr ⟨k, x, rest, hm, rfl, hl⟩

theorem ordered_iff {v : Json} :
    v.Ordered ↔ (∀ ms, v = .obj ms → Members.Sorted ms)
      ∧ ∀ step x, v.child? step = some x → x.Ordered := by
  constructor
  · intro h
    refine ⟨fun ms hv => h [] ms (congrArg some hv), fun step x hx path ms hm => ?_⟩
    exact h (step :: path) ms (by rw [at?, hx]; exact hm)
  · rintro ⟨here, down⟩ path ms hm
    cases path with
    | nil => exact here ms (Option.some.inj hm)
    | cons step path =>
      obtain ⟨x, hx, hbelow⟩ := Option.bind_eq_some_iff.1 hm
      exact down step x hx path ms hbelow

theorem ordered_arr {items : List Json} : (arr items).Ordered ↔ ∀ x ∈ items, x.Ordered := by
  rw [ordered_iff]
  constructor
  · rintro ⟨-, h⟩ x hx
    obtain ⟨n, hn⟩ := List.mem_iff_getElem?.1 hx
    exact h (.index n) x hn
  · intro h
    refine ⟨nofun, fun step x hx => ?_⟩
    cases step with
    | field k => cases hx
    | index n => exact h x (List.mem_of_getElem? hx)

theorem ordered_obj {ms : List (String × Json)} :
    (obj ms).Ordered ↔ Members.Sorted ms ∧ ∀ m ∈ ms, m.2.Ordered := by
  rw [ordered_iff]
  constructor
  · rintro ⟨sorted, h⟩
    refine ⟨sorted ms rfl, fun m hm => h (.field m.1) m.2 ?_⟩
    exact (sorted ms rfl).get?_eq_some.2 hm
  · rintro ⟨sorted, h⟩
    refine ⟨fun ns hn => by cases hn; exact sorted, fun step x hx => ?_⟩
    cases step with
    | field k => exact h (k, x) (Members.get?_mem hx)
    | index n => cases hx

theorem ordered_str (s : String) : (str s).Ordered :=
  ordered_iff.2 ⟨nofun, fun step x hx => by cases step <;> cases hx⟩

theorem ordered_of_isScalar {v : Json} (h : v.isScalar = true) : v.Ordered := by
  refine ordered_iff.2 ⟨?_, fun step x hx => ?_⟩
  · rintro ms rfl
    cases h
  · cases v <;> cases step <;> first | cases hx | cases h

/-- The strings are those at the places of the value. -/
theorem mem_leaves {v : Json} (h : v.Ordered) {path : List Step} {s : String} :
    (path, s) ∈ v.leaves ↔ v.at? path = some (.str s) := by
  induction path generalizing v with
  | nil =>
    rw [at?, Option.some.injEq]
    cases v with
    | str t => simp [leaves, eq_comm]
    | arr items => simp [leaves, mem_itemLeaves]
    | obj ms => simp [leaves, mem_memberLeaves]
    | _ => simp [leaves]
  | cons step path ih =>
    -- A key leads to one child only because the keys are sorted.
    have main : (step :: path, s) ∈ v.leaves ↔
        ∃ x, v.child? step = some x ∧ (path, s) ∈ x.leaves := by
      cases v with
      | arr items =>
        rw [leaves, mem_itemLeaves]
        cases step <;> simp [child?]
      | obj ms =>
        rw [leaves, mem_memberLeaves]
        cases step with
        | index n => simp [child?]
        | field k =>
          constructor
          · rintro ⟨l, x, rest, hm, hp, hl⟩
            cases hp
            exact ⟨x, (ordered_obj.1 h).1.get?_eq_some.2 hm, hl⟩
          · rintro ⟨x, hx, hl⟩
            exact ⟨k, x, path, (ordered_obj.1 h).1.get?_eq_some.1 hx, rfl, hl⟩
      | _ => cases step <;> simp [leaves, child?]
    rw [main, at?, Option.bind_eq_some_iff]
    exact exists_congr fun x => and_congr_right fun hx => ih ((ordered_iff.1 h).2 step x hx)

mutual

/-- Strings are visited in the order of their places. -/
theorem pairwise_leaves : (v : Json) → v.Ordered → v.leaves.Pairwise fun l m => Before l.1 m.1
  | .arr items, h => pairwise_itemLeaves 0 items (ordered_arr.1 h)
  | .obj ms, h => pairwise_memberLeaves ms (ordered_obj.1 h).1 (ordered_obj.1 h).2
  | .str _, _ => List.pairwise_singleton _ _
  | .null, _ => .nil
  | .bool _, _ => .nil
  | .int _, _ => .nil
  | .float _, _ => .nil

theorem pairwise_itemLeaves (n : Nat) :
    (items : List Json) → (∀ x ∈ items, x.Ordered) →
      (itemLeaves n items).Pairwise fun l m => Before l.1 m.1
  | [], _ => .nil
  | x :: xs, h => by
    rw [itemLeaves, List.pairwise_append]
    refine ⟨?_, pairwise_itemLeaves (n + 1) xs fun y hy => h y (List.mem_cons_of_mem x hy), ?_⟩
    · have := pairwise_leaves x (h x List.mem_cons_self)
      exact List.pairwise_map.2 (this.imp fun hb => .under _ hb)
    · rintro ⟨p, s⟩ hl ⟨q, t⟩ hm
      obtain ⟨p, rfl, -⟩ := mem_down.1 hl
      obtain ⟨i, y, q, -, rfl, -⟩ := mem_itemLeaves.1 hm
      exact .index (by omega) p q

theorem pairwise_memberLeaves :
    (ms : List (String × Json)) → Members.Sorted ms → (∀ m ∈ ms, m.2.Ordered) →
      (memberLeaves ms).Pairwise fun l m => Before l.1 m.1
  | [], _, _ => .nil
  | (k, x) :: ms, hs, h => by
    obtain ⟨hk, hs⟩ := List.pairwise_cons.1 hs
    rw [memberLeaves, List.pairwise_append]
    refine ⟨?_, pairwise_memberLeaves ms hs fun m hm => h m (List.mem_cons_of_mem _ hm), ?_⟩
    · have := pairwise_leaves x (h (k, x) List.mem_cons_self)
      exact List.pairwise_map.2 (this.imp fun hb => .under _ hb)
    · rintro ⟨p, s⟩ hl ⟨q, t⟩ hm
      obtain ⟨p, rfl, -⟩ := mem_down.1 hl
      obtain ⟨l, y, q, hy, rfl, -⟩ := mem_memberLeaves.1 hm
      exact .field (hk _ hy) p q

end

/-! ## Walks -/

section
variable {ε : Type}

mutual

/-- A value with every string in it replaced. -/
def mapStrings (f : String → Except ε Json) : Json → Except ε Json
  | .str s => f s
  | .arr items => (mapItems f items).map .arr
  | .obj ms => (mapMembers f ms).map .obj
  | v => .ok v

/-- Items with every string in them replaced. -/
def mapItems (f : String → Except ε Json) : List Json → Except ε (List Json)
  | [] => .ok []
  | x :: xs =>
    match mapStrings f x with
    | .error e => .error e
    | .ok y => (mapItems f xs).map (y :: ·)

/-- Members with every string in their values replaced. -/
def mapMembers (f : String → Except ε Json) :
    List (String × Json) → Except ε (List (String × Json))
  | [] => .ok []
  | (k, x) :: ms =>
    match mapStrings f x with
    | .error e => .error e
    | .ok y => (mapMembers f ms).map ((k, y) :: ·)

end

/-- `w` is `v` but for what stands in the places of strings, which `R` says. -/
structure Fits (R : String → Json → Prop) (v w : Json) : Prop where
  string : ∀ path s, v.at? path = some (.str s) → ∃ x, w.at? path = some x ∧ R s x
  keys : ∀ path ms, v.at? path = some (.obj ms) →
    ∃ ns, w.at? path = some (.obj ns) ∧ Members.keys ns = Members.keys ms
  length : ∀ path xs, v.at? path = some (.arr xs) →
    ∃ ys, w.at? path = some (.arr ys) ∧ ys.length = xs.length
  scalar : ∀ path x, v.at? path = some x → x.isScalar = true → w.at? path = some x

/-- A walk through `v` that handles each string as `leaf` does comes to `result`. -/
structure Pointwise (leaf : String → Except ε Json) (R : String → Json → Prop) (v : Json)
    (result : Except ε Json) : Prop where
  succeeds : (∃ w, result = .ok w) ↔ ∀ l ∈ v.leaves, ∃ x, leaf l.2 = .ok x
  fails : ∀ e, result = .error e ↔
    ∃ before l after, v.leaves = before ++ l :: after
      ∧ (∀ m ∈ before, ∃ x, leaf m.2 = .ok x) ∧ leaf l.2 = .error e
  fits : ∀ w, result = .ok w → Fits R v w

/-! ### What fails first -/

/-- The failure that an outcome is. -/
def failure? {α : Type} : Except ε α → Option ε
  | .ok _ => none
  | .error e => some e

theorem failure?_eq_none {α : Type} {x : Except ε α} : failure? x = none ↔ ∃ a, x = .ok a := by
  cases x <;> simp [failure?]

theorem failure?_eq_some {α : Type} {x : Except ε α} {e : ε} :
    failure? x = some e ↔ x = .error e := by
  cases x <;> simp [failure?]

theorem failure?_map {α β : Type} (x : Except ε α) (g : α → β) :
    failure? (x.map g) = failure? x := by
  cases x <;> rfl

variable {f : String → Except ε Json}

/-- The failure of the first string that fails. -/
def firstFailure (f : String → Except ε Json) (ls : List (List Step × String)) : Option ε :=
  ls.findSome? fun l => failure? (f l.2)

theorem firstFailure_append (xs ys : List (List Step × String)) :
    firstFailure f (xs ++ ys) = (firstFailure f xs).or (firstFailure f ys) :=
  List.findSome?_append

theorem firstFailure_down (step : Step) (ls : List (List Step × String)) :
    firstFailure f (down step ls) = firstFailure f ls := by
  simp [firstFailure, down, List.findSome?_map, Function.comp_def]

mutual

/-- A walk fails as the first string does that fails. -/
theorem failure?_mapStrings : (v : Json) → failure? (v.mapStrings f) = firstFailure f v.leaves
  | .str s => by cases h : f s <;> simp [mapStrings, leaves, firstFailure, failure?, h]
  | .arr items => (failure?_map _ _).trans (failure?_mapItems 0 items)
  | .obj ms => (failure?_map _ _).trans (failure?_mapMembers ms)
  | .null => rfl
  | .bool _ => rfl
  | .int _ => rfl
  | .float _ => rfl

theorem failure?_mapItems (n : Nat) :
    (items : List Json) → failure? (mapItems f items) = firstFailure f (itemLeaves n items)
  | [] => rfl
  | x :: xs => by
    rw [itemLeaves, firstFailure_append, firstFailure_down, ← failure?_mapStrings x,
      ← failure?_mapItems (n + 1) xs, mapItems]
    cases h : x.mapStrings f with
    | error e => rfl
    | ok y => exact failure?_map _ _

theorem failure?_mapMembers :
    (ms : List (String × Json)) → failure? (mapMembers f ms) = firstFailure f (memberLeaves ms)
  | [] => rfl
  | (k, x) :: ms => by
    rw [memberLeaves, firstFailure_append, firstFailure_down, ← failure?_mapStrings x,
      ← failure?_mapMembers ms, mapMembers]
    cases h : x.mapStrings f with
    | error e => rfl
    | ok y => exact failure?_map _ _

end

/-! ### What stays -/

theorem get?_mapMembers {ms ns : List (String × Json)} {key : String} {x : Json}
    (h : mapMembers f ms = .ok ns) (hx : Members.get? ms key = some x) :
    ∃ y, Members.get? ns key = some y ∧ x.mapStrings f = .ok y := by
  induction ms generalizing ns with
  | nil => cases hx
  | cons m rest ih =>
    obtain ⟨k, v⟩ := m
    rw [mapMembers] at h
    cases hv : v.mapStrings f with
    | error e => simp [hv] at h
    | ok u =>
      simp only [hv] at h
      obtain ⟨more, hm, rfl⟩ := map_eq_ok.1 h
      rw [Members.get?, lookup_cons_ite] at hx ⊢
      split at hx
      · cases hx
        exact ⟨u, if_pos ‹_›, hv⟩
      · obtain ⟨y, hy, hf⟩ := ih hm hx
        exact ⟨y, by rwa [if_neg ‹_›], hf⟩

theorem keys_mapMembers {ms ns : List (String × Json)} (h : mapMembers f ms = .ok ns) :
    Members.keys ns = Members.keys ms := by
  induction ms generalizing ns with
  | nil => cases h; rfl
  | cons m rest ih =>
    obtain ⟨k, v⟩ := m
    rw [mapMembers] at h
    split at h
    · cases h
    · obtain ⟨more, hm, rfl⟩ := map_eq_ok.1 h
      exact congrArg (k :: ·) (ih hm)

theorem forall₂_mapItems {xs ys : List Json} (h : mapItems f xs = .ok ys) :
    List.Forall₂ (fun x y => x.mapStrings f = .ok y) xs ys := by
  induction xs generalizing ys with
  | nil => cases h; exact .nil
  | cons x rest ih =>
    rw [mapItems] at h
    split at h
    · cases h
    · rename_i y hy
      obtain ⟨more, hm, rfl⟩ := map_eq_ok.1 h
      exact .cons hy (ih hm)

theorem child?_mapStrings {v w x : Json} {step : Step} (h : v.mapStrings f = .ok w)
    (hx : v.child? step = some x) : ∃ y, w.child? step = some y ∧ x.mapStrings f = .ok y := by
  unfold child? at hx
  split at hx
  · rename_i ms key
    obtain ⟨ns, hm, rfl⟩ := map_eq_ok.1 h
    exact get?_mapMembers hm hx
  · rename_i items n
    obtain ⟨ys, hm, rfl⟩ := map_eq_ok.1 h
    obtain ⟨hn, rfl⟩ := List.getElem?_eq_some_iff.1 hx
    have all := forall₂_mapItems hm
    have hn' : n < ys.length := all.length_eq ▸ hn
    exact ⟨ys[n], List.getElem?_eq_getElem hn', all.get hn hn'⟩
  · cases hx

/-- A walk goes to every place. -/
theorem at?_mapStrings {v w x : Json} {path : List Step} (h : v.mapStrings f = .ok w)
    (hx : v.at? path = some x) : ∃ y, w.at? path = some y ∧ x.mapStrings f = .ok y := by
  -- What is below a step is walked through on its own, so the path is followed in both values.
  induction path generalizing v w with
  | nil =>
    cases hx
    exact ⟨w, rfl, h⟩
  | cons step path ih =>
    obtain ⟨u, hu, hx⟩ := Option.bind_eq_some_iff.1 hx
    obtain ⟨u', hu', hm⟩ := child?_mapStrings h hu
    obtain ⟨y, hy, hf⟩ := ih hm hx
    exact ⟨y, by rw [at?, hu']; exact hy, hf⟩

theorem fits_mapStrings {v w : Json} (h : v.mapStrings f = .ok w) :
    Fits (fun s x => f s = .ok x) v w where
  string path s hs := at?_mapStrings h hs
  keys path ms hm := by
    obtain ⟨y, hy, hf⟩ := at?_mapStrings h hm
    obtain ⟨ns, hn, rfl⟩ := map_eq_ok.1 hf
    exact ⟨ns, hy, keys_mapMembers hn⟩
  length path xs hx := by
    obtain ⟨y, hy, hf⟩ := at?_mapStrings h hx
    obtain ⟨ys, hys, rfl⟩ := map_eq_ok.1 hf
    exact ⟨ys, hy, (forall₂_mapItems hys).length_eq.symm⟩
  scalar path x hx hs := by
    obtain ⟨y, hy, hf⟩ := at?_mapStrings h hx
    have same : x.mapStrings f = .ok x := by cases x <;> first | rfl | cases hs
    rw [same] at hf
    cases hf
    exact hy

theorem Fits.imp {R Q : String → Json → Prop} {v w : Json} (h : Fits R v w)
    (himp : ∀ s x, R s x → Q s x) : Fits Q v w where
  string path s hs := by
    obtain ⟨x, hx, hr⟩ := h.string path s hs
    exact ⟨x, hx, himp s x hr⟩
  keys := h.keys
  length := h.length
  scalar := h.scalar

section
variable {ε' : Type} {g : String → Except ε' Json} {h : ε → ε'}

mutual

/-- Walks that handle the strings in a value alike come to the same. -/
theorem mapStrings_congr : (v : Json) → (∀ l ∈ v.leaves, (f l.2).mapError h = g l.2) →
    (v.mapStrings f).mapError h = v.mapStrings g
  | .str s, hl => hl ([], s) List.mem_cons_self
  | .arr items, hl => by
    rw [mapStrings, mapStrings, ← mapItems_congr 0 items hl]
    cases mapItems f items <;> rfl
  | .obj ms, hl => by
    rw [mapStrings, mapStrings, ← mapMembers_congr ms hl]
    cases mapMembers f ms <;> rfl
  | .null, _ => rfl
  | .bool _, _ => rfl
  | .int _, _ => rfl
  | .float _, _ => rfl

theorem mapItems_congr (n : Nat) :
    (items : List Json) → (∀ l ∈ itemLeaves n items, (f l.2).mapError h = g l.2) →
      (mapItems f items).mapError h = mapItems g items
  | [], _ => rfl
  | x :: xs, hl => by
    obtain ⟨hx, hxs⟩ := List.forall_mem_append.1 hl
    rw [mapItems, mapItems, ← mapStrings_congr x (List.forall_mem_map.1 hx),
      ← mapItems_congr (n + 1) xs hxs]
    cases x.mapStrings f with
    | error e => rfl
    | ok y => cases mapItems f xs <;> rfl

theorem mapMembers_congr :
    (ms : List (String × Json)) → (∀ l ∈ memberLeaves ms, (f l.2).mapError h = g l.2) →
      (mapMembers f ms).mapError h = mapMembers g ms
  | [], _ => rfl
  | (k, x) :: ms, hl => by
    obtain ⟨hx, hms⟩ := List.forall_mem_append.1 hl
    rw [mapMembers, mapMembers, ← mapStrings_congr x (List.forall_mem_map.1 hx),
      ← mapMembers_congr ms hms]
    cases x.mapStrings f with
    | error e => rfl
    | ok y => cases mapMembers f ms <;> rfl

end

end

/-- A walk is pointwise: it comes to what its handling of the strings comes to. -/
theorem pointwise_mapStrings {R : String → Json → Prop} (hR : ∀ s x, f s = .ok x → R s x)
    (v : Json) : Pointwise f R v (v.mapStrings f) where
  succeeds := by
    rw [← failure?_eq_none, failure?_mapStrings, firstFailure, List.findSome?_eq_none_iff]
    simp only [failure?_eq_none]
  fails e := by
    rw [← failure?_eq_some, failure?_mapStrings, firstFailure, List.findSome?_eq_some_iff]
    simp only [failure?_eq_none, failure?_eq_some]
    refine exists_congr fun before => exists_congr fun l => exists_congr fun after => ?_
    rw [and_comm (a := f l.2 = .error e)]
  fits w h := (fits_mapStrings h).imp hR

end

end Toolwire.Json
