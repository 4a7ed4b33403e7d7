import Mathlib
import Toolwire.Proofs.Binding.RoundTrip
import Toolwire.Proofs.Json.Leaf
import Toolwire.Proofs.Secret.Preview
/-!
# Findings, string by string

What is found in a declaration is what is found in each string of it, told with its place, in the
order of the document: `findings_leafwise`. A string that is a member of an object is looked at with
its key as long as no section of placeholders or labels is on the way to it. A message shows the
beginning of what was flagged, and `findings_mask` says when that is all of it.
-/
namespace Toolwire.Leak

open Secret Json

/-! ## One string -/

/-- A step into a section whose keys are no credential names. -/
def isUnkeyed : Step → Bool
  | .field key => unkeyedSections.contains key
  | .index _ => false

/-- The key of a string that is a member of an object where keys count. -/
def countedKey? (keyed : Bool) (path : List Step) : Option String :=
  match path.getLast? with
  | some (.field key) => if keyed && !path.any isUnkeyed then some key else none
  | _ => none

/-- What a string gives away by itself, or else as the value of its key. -/
def leafFinding (keyed : Bool) (path : List Step) (s : String) : Option Finding :=
  (detect s).or ((countedKey? keyed path).bind fun key => detectField key s)

/-- A place with one more step. -/
def extendPlace (at_ : String) : Step → String
  | .field key => memberPath at_ key
  | .index n => at_ ++ "[" ++ toString n ++ "]"

/-- The place of a string in a value at a place: keys behind dots and indexes in brackets. A string
that is the whole declaration has no place and is called a value. -/
def place (at_ : String) (path : List Step) : String :=
  if at_ = "" ∧ path = [] then "value" else path.foldl extendPlace at_

/-- The finding in a string, in words. -/
def leafMessage (at_ : String) (keyed : Bool) (l : List Step × String) : Option String :=
  (leafFinding keyed l.1 l.2).map fun f => place at_ l.1 ++ ": " ++ f.describe

/-- A string is flagged for what it is, or as the value of a credential. -/
inductive Flagged (path : List Step) (s : String) : Prop
  | literal (h : (detect s).isSome)
  | credential (key : String) (member : path.getLast? = some (.field key))
      (sensitive : isSensitiveKey key = true) (found : (detectField key s).isSome)
      (keyed : ∀ k, .field k ∈ path → k ≠ "parameter_mapping" ∧ k ≠ "response_mapping")

variable {at_ key s : String} {keyed : Bool} {path : List Step}

theorem detectField_of_detect {f : Finding} (h : detect s = some f) (key : String) :
    detectField key s = some f := by
  obtain ⟨m, hm, rfl⟩ := Option.map_eq_some_iff.1 h
  simp [detectField, detectFieldChars, hm]

theorem isSensitiveKey_of_detectField (hd : detect s = none) (hf : (detectField key s).isSome) :
    isSensitiveKey key = true := by
  by_contra hkey
  have hnone : detectChars s.toList = none := Option.map_eq_none_iff.1 hd
  simp [detectField, detectFieldChars, hnone, hkey] at hf

theorem detect_or_detectField (key s : String) :
    (detect s).or (detectField key s) = detectField key s := by
  cases h : detect s with
  | none => rfl
  | some f => rw [detectField_of_detect h]; rfl

theorem any_isUnkeyed : path.any isUnkeyed = false ↔
    ∀ k, .field k ∈ path → k ≠ "parameter_mapping" ∧ k ≠ "response_mapping" := by
  rw [List.any_eq_false]
  constructor
  · intro h k hk
    simpa [isUnkeyed, unkeyedSections] using h _ hk
  · intro h step hstep
    cases step with
    | field k => simpa [isUnkeyed, unkeyedSections] using h k hstep
    | index n => simp [isUnkeyed]

theorem countedKey?_eq_some : countedKey? true path = some key ↔
    path.getLast? = some (.field key)
      ∧ ∀ k, .field k ∈ path → k ≠ "parameter_mapping" ∧ k ≠ "response_mapping" := by
  rw [← any_isUnkeyed]
  unfold countedKey?
  split
  · rename_i k hk
    cases path.any isUnkeyed <;> simp [hk]
  · rename_i hnone
    simp only [reduceCtorEq, false_iff, not_and]
    intro hlast
    exact absurd hlast (hnone key)

theorem isSome_leafFinding : (leafFinding true path s).isSome ↔ Flagged path s := by
  unfold leafFinding
  cases hd : detect s with
  | some f => exact iff_of_true rfl (.literal (by rw [hd]; rfl))
  | none =>
    rw [Option.none_or]
    constructor
    · intro h
      obtain ⟨f, hf⟩ := Option.isSome_iff_exists.1 h
      obtain ⟨key, hkey, hfound⟩ := Option.bind_eq_some_iff.1 hf
      obtain ⟨member, keyed⟩ := countedKey?_eq_some.1 hkey
      have found : (detectField key s).isSome := by rw [hfound]; rfl
      exact .credential key member (isSensitiveKey_of_detectField hd found) found keyed
    · rintro (h | ⟨key, member, -, found, keyed⟩)
      · rw [hd] at h
        cases h
      · rw [countedKey?_eq_some.2 ⟨member, keyed⟩]
        exact found

/-! ## The walk -/

theorem leafMessage_index (n : Nat) (path : List Step) (s : String) :
    leafMessage at_ keyed (.index n :: path, s) =
      leafMessage (at_ ++ "[" ++ toString n ++ "]") keyed (path, s) := by
  have counted : countedKey? keyed (.index n :: path) = countedKey? keyed path := by
    cases path with
    | nil => rfl
    | cons step path => simp [countedKey?, isUnkeyed]
  have named : place at_ (.index n :: path) = place (at_ ++ "[" ++ toString n ++ "]") path := by
    simp [place, extendPlace]
  rw [leafMessage, leafMessage, leafFinding, leafFinding, counted, named]

theorem leafMessage_field (hpath : path ≠ []) (s : String) :
    leafMessage at_ keyed (.field key :: path, s) =
      leafMessage (memberPath at_ key) (keyed && !unkeyedSections.contains key) (path, s) := by
  have counted : countedKey? keyed (.field key :: path) =
      countedKey? (keyed && !unkeyedSections.contains key) path := by
    obtain ⟨step, path, rfl⟩ := List.exists_cons_of_ne_nil hpath
    simp [countedKey?, isUnkeyed, Bool.and_assoc]
  have named : place at_ (.field key :: path) = place (memberPath at_ key) path := by
    simp [place, extendPlace, hpath]
  rw [leafMessage, leafMessage, leafFinding, leafFinding, counted, named]

theorem describe_eq (at_ : String) (o : Option Finding) :
    describe at_ o = (o.map fun f => at_ ++ ": " ++ f.describe).toList := by
  cases o <;> rfl

theorem memberFindings_str (at_ : String) (keyed : Bool) (key s : String) :
    memberFindings at_ keyed key (.str s) =
      (leafMessage at_ keyed ([.field key], s)).toList := by
  have found : leafFinding keyed [.field key] s =
      if keyed && !unkeyedSections.contains key then detectField key s else detect s := by
    simp only [leafFinding, countedKey?, List.getLast?_singleton, List.any_cons, List.any_nil,
      Bool.or_false, isUnkeyed]
    split
    · exact detect_or_detectField key s
    · exact Option.or_none
  have named : place at_ [.field key] = memberPath at_ key := by simp [place, extendPlace]
  rw [memberFindings, describe_eq, leafMessage, found, named]

theorem memberFindings_of_ne_str {v : Json} (hv : ∀ s, v ≠ .str s) :
    memberFindings at_ keyed key v =
      walk (memberPath at_ key) (keyed && !unkeyedSections.contains key) v := by
  cases v with
  | str s => exact absurd rfl (hv s)
  | _ => rfl

theorem filterMap_down {α : Type} (f : List Step × String → Option α) (step : Step)
    (ls : List (List Step × String)) :
    (down step ls).filterMap f = ls.filterMap fun l => f (step :: l.1, l.2) := by
  rw [down, List.filterMap_map]
  rfl

theorem ne_nil_of_mem_leaves {v : Json} (hv : ∀ s, v ≠ .str s) {l : List Step × String}
    (hl : l ∈ v.leaves) : l.1 ≠ [] := by
  obtain ⟨path, s⟩ := l
  cases v with
  | str t => exact absurd rfl (hv t)
  | arr items =>
    obtain ⟨i, x, rest, -, rfl, -⟩ := mem_itemLeaves.1 hl
    exact List.cons_ne_nil _ _
  | obj ms =>
    obtain ⟨k, x, rest, -, rfl, -⟩ := mem_memberLeaves.1 hl
    exact List.cons_ne_nil _ _
  | _ => cases hl

mutual

theorem walk_eq (at_ : String) (keyed : Bool) :
    (v : Json) → walk at_ keyed v = v.leaves.filterMap (leafMessage at_ keyed)
  | .str s => by
    rw [walk, describe_eq]
    cases h : detect s <;> simp [leaves, leafMessage, leafFinding, countedKey?, place, h]
  | .arr items => walkItems_eq at_ keyed 0 items
  | .obj ms => walkMembers_eq at_ keyed ms
  | .null | .bool _ | .int _ | .float _ => rfl

theorem walkItems_eq (at_ : String) (keyed : Bool) (n : Nat) : (items : List Json) →
    walkItems at_ keyed n items = (itemLeaves n items).filterMap (leafMessage at_ keyed)
  | [] => rfl
  | x :: xs => by
    rw [walkItems, itemLeaves, List.filterMap_append, walk_eq _ keyed x,
      walkItems_eq at_ keyed (n + 1) xs, filterMap_down]
    simp only [leafMessage_index]

theorem walkMembers_eq (at_ : String) (keyed : Bool) : (ms : List (String × Json)) →
    walkMembers at_ keyed ms = (memberLeaves ms).filterMap (leafMessage at_ keyed)
  | [] => rfl
  | (key, x) :: ms => by
    rw [walkMembers_cons, memberLeaves, List.filterMap_append, walkMembers_eq at_ keyed ms,
      filterMap_down]
    refine congrArg (· ++ _) ?_
    by_cases hx : ∃ s, x = .str s
    · obtain ⟨s, rfl⟩ := hx
      rw [memberFindings_str]
      cases h : leafMessage at_ keyed ([.field key], s) <;> simp [leaves, h]
    · have hx : ∀ s, x ≠ .str s := fun s hs => hx ⟨s, hs⟩
      rw [memberFindings_of_ne_str hx, walk_eq _ _ x]
      refine List.filterMap_congr fun l hl => ?_
      rw [leafMessage_field (ne_nil_of_mem_leaves hx hl)]

end

/-- A scan tells of every flagged string of a value, once and with its place, in the order of keys
and items, and of no other. The strings are those of the value. So no string of a declaration that
is accepted in strict mode gives itself away. -/
theorem findings_leafwise (v : Json) :
    findings v = v.leaves.filterMap (fun l =>
      (leafFinding true l.1 l.2).map fun f => place "" l.1 ++ ": " ++ f.describe)
    ∧ (∀ path s, (leafFinding true path s).isSome ↔ Flagged path s)
    ∧ (v.Ordered →
        (∀ path s, (path, s) ∈ v.leaves ↔ v.at? path = some (.str s))
          ∧ v.leaves.Pairwise fun l m => Before l.1 m.1)
    ∧ ∀ a, Binding.parse v .strict = .ok a → ∀ l ∈ v.leaves, detect l.2 = none := by
  have all : findings v = v.leaves.filterMap (leafMessage "" true) := walk_eq "" true v
  refine ⟨all, fun path s => isSome_leafFinding, fun h => ⟨fun _ _ => mem_leaves h,
    pairwise_leaves v h⟩, ?_⟩
  rintro ⟨b, warnings⟩ hparse l hl
  obtain ⟨-, -, hnone⟩ := Binding.parse_ok hparse
  rw [all, List.filterMap_eq_nil_iff] at hnone
  have quiet : leafFinding true l.1 l.2 = none := Option.map_eq_none_iff.1 (hnone rfl l hl)
  exact (Option.or_eq_none_iff.1 quiet).1

set_option maxRecDepth 10000 in
/-- An item, a member and a member below placeholders, and a declaration that is accepted. -/
theorem findings_leafwise_nested :
    let token : Json := .obj [("token", .str "abc")]
    let v : Json := .obj
      [("body", .arr [.str "Bearer 0123456789", token]), ("response_mapping", token)]
    let accepted : Json := .obj
      [("body_template", .obj [("items", .arr [.obj [("token", .str "\x7bt\x7d")]])]),
        ("method", .str "POST"), ("type", .str "http"), ("url", .str "https://x.example")]
    v.Ordered ∧ v.at? [.field "body", .index 1, .field "token"] = some (.str "abc")
    ∧ findings v =
      ["body[0]: literal bearer token (Bear****); use a $\x7bVAR\x7d reference instead",
        "body[1].token: literal value for credential field 'token' (abc****); " ++
          "use a $\x7bVAR\x7d reference instead"]
    ∧ ∃ a, Binding.parse accepted .strict = .ok a ∧ ∀ l ∈ accepted.leaves, detect l.2 = none := by
  intro token v accepted
  have ordered : v.Ordered := by
    have htoken : token.Ordered :=
      ordered_obj.2 ⟨List.pairwise_singleton _ _, by simp [ordered_str]⟩
    refine ordered_obj.2 ⟨List.pairwise_pair.2 (by decide +kernel), ?_⟩
    simp [ordered_arr, ordered_str, htoken]
  obtain ⟨told, -, places, -⟩ := findings_leafwise v
  obtain ⟨-, -, -, quiet⟩ := findings_leafwise accepted
  have hparse : Binding.parse accepted .strict = .ok _ := rfl
  exact ⟨ordered, ((places ordered).1 _ _).1 (by decide), told.trans (by decide +kernel), _,
    hparse, quiet _ hparse⟩

/-! ## What a message shows -/

theorem leafFinding_true {f : Finding} (h : leafFinding true path s = some f) :
    detect s = some f ∨ ∃ key, path.getLast? = some (.field key) ∧ detectField key s = some f := by
  rcases Option.or_eq_some_iff.1 h with h | ⟨-, h⟩
  · exact .inl h
  · obtain ⟨key, hkey, hf⟩ := Option.bind_eq_some_iff.1 h
    exact .inr ⟨key, (countedKey?_eq_some.1 hkey).1, hf⟩

/-- A finding shows the beginning of the text that it is about, and all of that text only when it is
what is literal in the value of a credential field and has at most four characters. A secret that is
found in a text is never shown in full. A message about a declaration says no more than the finding
in one of its strings. -/
theorem findings_mask (key value text : String) (v : Json) :
    (∀ f, detectField key value = some f →
      ∃ literal shown, About key value f.kind literal ∧ Previews f literal shown
        ∧ (shown ≠ literal ↔ 4 < literal.length))
    ∧ (∀ f, detect text = some f →
      ∃ literal shown, detectChars text.toList = some (f.kind, literal)
        ∧ literal <:+: Reference.stripChars text.toList ∧ Previews f literal shown
        ∧ shown ≠ literal)
    ∧ ∀ message ∈ findings v, ∃ path s f, (path, s) ∈ v.leaves
      ∧ message = place "" path ++ ": " ++ f.describe
      ∧ (detect s = some f ∨ ∃ key, path.getLast? = some (.field key) ∧ detectField key s = some f) := by
  refine ⟨fun f h => detectField_previews h, ?_, ?_⟩
  · intro f h
    obtain ⟨literal, shown, hcaught, hwithin, -, hshown, hne⟩ := detect_previews h
    exact ⟨literal, shown, hcaught, hwithin, hshown, hne⟩
  · intro message h
    have all : findings v = v.leaves.filterMap (leafMessage "" true) := walk_eq "" true v
    rw [all] at h
    obtain ⟨⟨path, s⟩, hl, hm⟩ := List.mem_filterMap.1 h
    obtain ⟨f, hf, rfl⟩ := Option.map_eq_some_iff.1 hm
    exact ⟨path, s, f, hl, rfl, leafFinding_true hf⟩

/-- A header, a token in a text, and the message about the header. -/
theorem findings_mask_header :
    let header : Finding := ⟨.sensitiveField "X-Api-Key", "letm****"⟩
    let token : Finding := ⟨.bearerToken, "Bear****"⟩
    let v : Json := .obj [("headers", .obj [("X-Api-Key", .str "letmein")])]
    detectField "X-Api-Key" "letmein" = some header
    ∧ (∃ literal shown, About "X-Api-Key" "letmein" header.kind literal
      ∧ Previews header literal shown ∧ (shown ≠ literal ↔ 4 < literal.length))
    ∧ detect "Bearer 0123456789" = some token
    ∧ (∃ literal shown, detectChars "Bearer 0123456789".toList = some (token.kind, literal)
      ∧ literal <:+: Reference.stripChars "Bearer 0123456789".toList
      ∧ Previews token literal shown ∧ shown ≠ literal)
    ∧ findings v = ["headers.X-Api-Key: " ++ header.describe]
    ∧ ∀ message ∈ findings v, ∃ path s f, (path, s) ∈ v.leaves
      ∧ message = place "" path ++ ": " ++ f.describe
      ∧ (detect s = some f
        ∨ ∃ key, path.getLast? = some (.field key) ∧ detectField key s = some f) := by
  intro header token v
  obtain ⟨field, text, told⟩ := findings_mask "X-Api-Key" "letmein" "Bearer 0123456789" v
  have hheader : detectField "X-Api-Key" "letmein" = some header := by decide +kernel
  have htoken : detect "Bearer 0123456789" = some token := by decide +kernel
  exact ⟨hheader, field _ hheader, htoken, text _ htoken, by decide +kernel, told⟩

/-- A password of three characters, in the finding and in the message about it. -/
theorem detectField_short_shown :
    let f : Finding := ⟨.sensitiveField "password", "abc****"⟩
    detectField "password" "abc" = some f
    ∧ detectFieldChars "password" "abc".toList = some (f.kind, "abc".toList)
    ∧ Previews f "abc".toList "abc".toList
    ∧ findings (.obj [("password", .str "abc")]) =
      ["password: literal value for credential field 'password' (abc****); " ++
        "use a $\x7bVAR\x7d reference instead"] := by
  intro f
  exact ⟨by decide +kernel, by decide +kernel, previews_mask _ "abc".toList, by decide +kernel⟩

end Toolwire.Leak
