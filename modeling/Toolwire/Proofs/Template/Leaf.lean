import Mathlib
import Toolwire.Proofs.Json.Leaf
import Toolwire.Proofs.Template.Argument
/-!
# Rendering strings in place

A JSON template is rendered string by string. A string that is nothing but an argument gives the
argument itself, any other one a string, and either way the text of what it gives is the string
rendered as text. Resolving the strings of a value is the same walk, and where no argument is named
the two come to the same: `renderJson_pointwise`.
-/
namespace Toolwire

open Text

/-! ## Strings -/

namespace Template

variable {args : Members} {c : Credentials}

theorem render_whole {name : String} (hn : Reference.isName name = true) :
    render (spellArgument name) args c = (argument args name).map textOf := by
  have empty : render "" args c = .ok "" := rfl
  have h := render_spellArgument hn (show "".toList.getLast? ≠ some '$' by decide) "" args c
  rw [empty, String.empty_append, String.append_empty] at h
  rw [h]
  cases argument args name <;> simp [Except.map, bind, Except.bind, pure, Except.pure]

/-- The text of what a string is rendered to is the string rendered as text. -/
theorem textOf_renderJson (s : String) :
    (renderJson args c (.str s)).map textOf = render s args c := by
  unfold renderJson
  split
  · rename_i name h
    obtain ⟨hn, rfl⟩ := wholeArgument?_eq_some.1 h
    rw [render_whole hn]
  · cases render s args c <;> rfl

theorem renderJson_whole {name : String} (hn : Reference.isName name = true) :
    renderJson args c (.str (spellArgument name)) = argument args name := by
  simp only [renderJson, wholeArgument?_eq_some.2 ⟨hn, rfl⟩]

theorem renderJson_text {s : String} (h : ¬ IsArgument s) :
    renderJson args c (.str s) = (render s args c).map .str := by
  cases hw : wholeArgument? s with
  | none => simp only [renderJson, hw]
  | some name => exact absurd ⟨name, wholeArgument?_eq_some.1 hw⟩ h

/-- What stands in the place of a string once it is rendered: the argument that the string is
nothing but, or else a string, and in either case the text is the string rendered as text. -/
structure Stands (args : Members) (c : Credentials) (s : String) (v : Json) : Prop where
  whole : ∀ name, Reference.isName name = true → s = spellArgument name →
    Members.get? args name = some v
  text : ¬ IsArgument s → ∃ t, v = .str t
  rendered : render s args c = .ok (textOf v)

theorem stands_of_renderJson {s : String} {v : Json} (h : renderJson args c (.str s) = .ok v) :
    Stands args c s v where
  whole name hn hs := by
    rw [hs, renderJson_whole hn] at h
    cases hg : Members.get? args name <;> simp [argument, hg] at h
    rw [h]
  text hs := by
    rw [renderJson_text hs] at h
    obtain ⟨t, -, ht⟩ := map_eq_ok.1 h
    exact ⟨t, ht.symm⟩
  rendered := by rw [← textOf_renderJson, h]; rfl

/-! ## Both walks -/

mutual

theorem renderJson_eq : (v : Json) →
    renderJson args c v = v.mapStrings fun s => renderJson args c (.str s)
  | .str _ => rfl
  | .arr items => congrArg (Except.map Json.arr) (renderItems_eq items)
  | .obj ms => congrArg (Except.map Json.obj) (renderMembers_eq ms)
  | .null => rfl
  | .bool _ => rfl
  | .int _ => rfl
  | .float _ => rfl

theorem renderItems_eq : (items : List Json) →
    renderItems args c items = Json.mapItems (fun s => renderJson args c (.str s)) items
  | [] => rfl
  | x :: xs => by
    rw [renderItems, Json.mapItems, ← renderJson_eq x, ← renderItems_eq xs]
    cases renderJson args c x <;> rfl

theorem renderMembers_eq : (ms : List (String × Json)) →
    renderMembers args c ms = Json.mapMembers (fun s => renderJson args c (.str s)) ms
  | [] => rfl
  | (k, x) :: ms => by
    rw [renderMembers, Json.mapMembers, ← renderJson_eq x, ← renderMembers_eq ms]
    cases renderJson args c x <;> rfl

end

end Template

namespace Resolver

variable {r : Resolver}

mutual

theorem resolveJson_eq : (v : Json) →
    r.resolveJson v = v.mapStrings fun s => (r.resolve s).map .str
  | .str _ => rfl
  | .arr items => congrArg (Except.map Json.arr) (resolveItems_eq items)
  | .obj ms => congrArg (Except.map Json.obj) (resolveMembers_eq ms)
  | .null => rfl
  | .bool _ => rfl
  | .int _ => rfl
  | .float _ => rfl

theorem resolveItems_eq : (items : List Json) →
    r.resolveItems items = Json.mapItems (fun s => (r.resolve s).map .str) items
  | [] => rfl
  | x :: xs => by
    rw [resolveItems, Json.mapItems, ← resolveJson_eq x, ← resolveItems_eq xs]
    cases r.resolveJson x <;> rfl

theorem resolveMembers_eq : (ms : List (String × Json)) →
    r.resolveMembers ms = Json.mapMembers (fun s => (r.resolve s).map .str) ms
  | [] => rfl
  | (k, x) :: ms => by
    rw [resolveMembers, Json.mapMembers, ← resolveJson_eq x, ← resolveMembers_eq ms]
    cases r.resolveJson x <;> rfl

end

end Resolver

/-! ## The laws -/

namespace Template

/-- A JSON template is rendered, and a value is resolved, string by string: it succeeds when every
string does, fails as the first one that fails, and changes nothing but strings, each to what
`Stands` for it. The strings are those of the value, in the order of its keys and items. Where no
string names an argument, rendering with a resolver and resolving come to the same. -/
theorem renderJson_pointwise (v : Json) (args : Members) (c : Credentials) (r : Resolver) :
    v.Pointwise (fun s => renderJson args c (.str s)) (Stands args c) (renderJson args c v)
    ∧ v.Pointwise (fun s => (r.resolve s).map .str)
        (fun s w => ∃ text, r.resolve s = .ok text ∧ w = .str text) (r.resolveJson v)
    ∧ ((∀ l ∈ v.leaves, OnlyReferences l.2) →
        renderJson args (.resolve r) v = (r.resolveJson v).mapError .credential)
    ∧ (v.Ordered →
        (∀ path s, (path, s) ∈ v.leaves ↔ v.at? path = some (.str s))
          ∧ v.leaves.Pairwise fun l m => Json.Before l.1 m.1) := by
  refine ⟨?_, ?_, ?_, fun h => ⟨fun _ _ => Json.mem_leaves h, Json.pairwise_leaves v h⟩⟩
  · rw [renderJson_eq]
    exact Json.pointwise_mapStrings (fun _ _ => stands_of_renderJson) v
  · rw [Resolver.resolveJson_eq]
    refine Json.pointwise_mapStrings (fun s w h => ?_) v
    obtain ⟨text, ht, rfl⟩ := map_eq_ok.1 h
    exact ⟨text, ht, rfl⟩
  · intro h
    rw [renderJson_eq, Resolver.resolveJson_eq]
    refine (Json.mapStrings_congr v fun l hl => ?_).symm
    rw [renderJson_text (h l hl).not_isArgument, render_of_onlyReferences (h l hl)]
    cases r.resolve l.2 <;> rfl

/-- Strings at two depths, one of which comes out like an argument. -/
theorem renderJson_pointwise_nested :
    let v : Json := .obj [("auth", .str "Bearer ${A}"), ("list", .arr [.str "$${B}", .int 3])]
    let r : Resolver := { overrides := [("A", "t"), ("B", "\x7bn\x7d")] }
    (∀ l ∈ v.leaves, OnlyReferences l.2) ∧ v.Ordered
    ∧ v.at? [.field "list", .index 0] = some (.str "$${B}")
    ∧ renderJson [] (.resolve r) v =
      .ok (.obj [("auth", .str "Bearer t"), ("list", .arr [.str "$\x7bn\x7d", .int 3])]) := by
  intro v r
  have only : ∀ l ∈ v.leaves, OnlyReferences l.2 := by
    have auth : tokens "Bearer ${A}" = [.credential "A"] := by decide +kernel
    have item : tokens "$${B}" = [.credential "B"] := by decide +kernel
    have leaves : v.leaves =
      [([.field "auth"], "Bearer ${A}"), ([.field "list", .index 0], "$${B}")] := rfl
    simp [leaves, onlyReferences_iff, auth, item]
  have ordered : v.Ordered := by
    have three : (Json.int 3).Ordered := Json.ordered_of_isScalar rfl
    refine Json.ordered_obj.2 ⟨List.pairwise_pair.2 (by decide +kernel), ?_⟩
    simp [Json.ordered_str, Json.ordered_arr, three]
  obtain ⟨-, -, same, places⟩ := renderJson_pointwise v [] .redact r
  refine ⟨only, ordered, ?_, (same only).trans (by rfl)⟩
  exact ((places ordered).1 _ _).1 (by decide)

end Template
end Toolwire
