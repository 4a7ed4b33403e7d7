import Mathlib
import Toolwire.Proofs.Json.Reading
import Toolwire.Proofs.Query.Token
/-!
# Appearances of placeholders

A placeholder can appear at several places of a query. What a scan finds are the names of all that
appear, each of them once, in the order of their first places: `placeholders_ordered`.
-/
namespace Toolwire.Query

open Text

/-! ## Places -/

namespace Token

/-- The mode behind a token. -/
def modeBehind (mode : Mode) : Token → Mode
  | .enter mode' => mode'
  | _ => mode

/-- The name of a placeholder. -/
def placeholder? : Token → Option String
  | .placeholder name => some name
  | _ => none

end Token

/-- The placeholders of a text as often as they appear, with their places. -/
def appearances (mode : Mode) (skip place : Nat) : List Char → List (String × Nat)
  | [] => []
  | c :: rest =>
    match skip with
    | k + 1 => appearances mode k (place + 1) rest
    | 0 =>
      let (token, k) := lex mode c rest
      let later := appearances (token.modeBehind mode) k (place + 1) rest
      match token.placeholder? with
      | some name => (name, place) :: later
      | none => later

/-- The first place at which a placeholder appears in a query. -/
def firstPlace? (query name : String) : Option Nat :=
  (appearances .code 0 0 query.toList).lookup name

/-- A placeholder stands at a place of a text: a colon, and a name that does not go on. -/
def StandsAt (text : List Char) (name : String) (place : Nat) : Prop :=
  ∃ before after, text = before ++ ':' :: (name.toList ++ after) ∧ before.length = place
    ∧ isWord name.toList = true ∧ EndsWord after

theorem StandsAt.cons {text : List Char} {name : String} {place : Nat}
    (h : StandsAt text name place) (c : Char) : StandsAt (c :: text) name (place + 1) := by
  obtain ⟨before, after, rfl, hlength, hword, hends⟩ := h
  exact ⟨c :: before, after, rfl, congrArg Nat.succ hlength, hword, hends⟩

theorem endsWord_dropWhile (cs : List Char) : EndsWord (cs.dropWhile isIdentChar) := by
  intro c hc
  have h := List.head?_dropWhile_not isIdentChar cs
  rw [Option.mem_def.1 hc] at h
  exact h

theorem isWord_takeWhile {cs : List Char} (h : (cs.head?.map isIdentStart).getD false = true) :
    isWord (cs.takeWhile isIdentChar) = true := by
  cases cs with
  | nil => cases h
  | cons c cs =>
    have hc : isIdentStart c = true := h
    rw [List.takeWhile_cons_of_pos (isIdentChar_of_isIdentStart hc), isWord, hc, Bool.true_and,
      List.all_eq_true]
    exact fun d hd => List.mem_takeWhile_imp hd

/-- A placeholder is read where it stands. -/
theorem standsAt_of_lex {mode : Mode} {c : Char} {rest : List Char} {name : String}
    (h : (lex mode c rest).1.placeholder? = some name) : StandsAt (c :: rest) name 0 := by
  cases hk : marker? c rest with
  | some marker => rw [lex_of_marker hk] at h; cases h
  | none =>
    rcases lex_cases hk mode with ⟨-, course⟩ | ⟨-, course⟩
    · generalize lex mode c rest = token at course h
      cases course with
      | placeholder hc hstart =>
        obtain rfl := Option.some.inj h
        refine ⟨[], rest.dropWhile isIdentChar, ?_, rfl, ?_, endsWord_dropWhile rest⟩
        · rw [hc, String.toList_ofList, List.takeWhile_append_dropWhile]
          rfl
        · rw [String.toList_ofList]
          exact isWord_takeWhile hstart
      | _ => cases h
    · generalize lex mode c rest = token at course h
      cases course <;> cases h

theorem appearances_cons (mode : Mode) (place : Nat) (c : Char) (rest : List Char) :
    appearances mode 0 place (c :: rest) =
      (lex mode c rest).1.placeholder?.toList.map (·, place)
      ++ appearances ((lex mode c rest).1.modeBehind mode) (lex mode c rest).2 (place + 1)
        rest := by
  simp only [appearances]
  cases (lex mode c rest).1.placeholder? <;> rfl

theorem mem_appearances_cons {mode : Mode} {place : Nat} {c : Char} {rest : List Char}
    {a : String × Nat} (h : a ∈ appearances mode 0 place (c :: rest)) :
    (lex mode c rest).1.placeholder? = some a.1 ∧ a.2 = place
      ∨ a ∈ appearances ((lex mode c rest).1.modeBehind mode) (lex mode c rest).2 (place + 1)
        rest := by
  rw [appearances_cons, List.mem_append, List.mem_map] at h
  rcases h with ⟨name, hname, rfl⟩ | h
  · exact .inl ⟨Option.mem_toList.1 hname, rfl⟩
  · exact .inr h

/-- Placeholders stand where they appear. -/
theorem standsAt_of_mem {mode : Mode} {skip place : Nat} {cs : List Char} {a : String × Nat}
    (h : a ∈ appearances mode skip place cs) : ∃ i, a.2 = place + i ∧ StandsAt cs a.1 i := by
  induction cs generalizing mode skip place with
  | nil => cases h
  | cons c cs ih =>
    have later : ∀ {mode : Mode} {skip : Nat}, a ∈ appearances mode skip (place + 1) cs →
        ∃ i, a.2 = place + i ∧ StandsAt (c :: cs) a.1 i := by
      intro mode skip h
      obtain ⟨i, hi, hstands⟩ := ih h
      exact ⟨i + 1, by omega, hstands.cons c⟩
    cases skip with
    | succ skip => exact later h
    | zero =>
      rcases mem_appearances_cons h with ⟨hname, hplace⟩ | h
      · exact ⟨0, hplace, standsAt_of_lex hname⟩
      · exact later h

/-- One appears behind another. -/
theorem pairwise_appearances (mode : Mode) (skip place : Nat) (cs : List Char) :
    (appearances mode skip place cs).Pairwise fun a b => a.2 < b.2 := by
  induction cs generalizing mode skip place with
  | nil => exact .nil
  | cons c cs ih =>
    cases skip with
    | succ skip => exact ih mode skip (place + 1)
    | zero =>
      rw [appearances_cons]
      cases (lex mode c cs).1.placeholder? with
      | none => exact ih _ _ _
      | some name =>
        refine List.pairwise_cons.2 ⟨fun a ha => ?_, ih _ _ _⟩
        obtain ⟨i, hi, -⟩ := standsAt_of_mem ha
        change place < a.2
        omega

/-! ## Names -/

theorem Scanner.mode_pass (s : Scanner) (t : Token) : (s.pass t).mode = t.modeBehind s.mode := by
  cases t <;> rfl

theorem Scanner.placeholders_pass (s : Scanner) (t : Token) :
    (s.pass t).found.placeholders = t.placeholder?.toList.foldl addNew s.found.placeholders := by
  cases t <;> rfl

/-- A scan adds the placeholders that appear, one after another. -/
theorem placeholders_run (s : Scanner) (skip place : Nat) (cs : List Char) :
    (run s skip cs).found.placeholders =
      ((appearances s.mode skip place cs).map Prod.fst).foldl addNew s.found.placeholders := by
  induction cs generalizing s skip place with
  | nil => rfl
  | cons c cs ih =>
    cases skip with
    | succ skip => exact ih s skip (place + 1)
    | zero =>
      rw [run_cons, appearances_cons, ih _ _ (place + 1), Scanner.mode_pass,
        Scanner.placeholders_pass, List.map_append, List.foldl_append, List.map_map]
      simp only [Function.comp_def, List.map_id']

theorem mem_addNew {items : List String} {item other : String} :
    other ∈ addNew items item ↔ other ∈ items ∨ other = item := by
  unfold addNew
  split_ifs with h
  · exact ⟨.inl, fun hother => hother.elim id fun he => he ▸ List.contains_iff_mem.1 h⟩
  · simp

theorem lookup_append_of_isSome {places : List (String × Nat)} {name : String}
    (h : (places.lookup name).isSome) (more : List (String × Nat)) :
    (places ++ more).lookup name = places.lookup name := by
  rw [List.lookup_append, Option.or_of_isSome h]

/-- Names in the order of the places that a list has for them. -/
def InOrder (places : List (String × Nat)) (names : List String) : Prop :=
  names.Pairwise fun m n => ∃ i j, places.lookup m = some i ∧ places.lookup n = some j ∧ i < j

/-- The distinct names of a list of places. -/
structure Distinct (places : List (String × Nat)) (names : List String) : Prop where
  nodup : names.Nodup
  mem : ∀ name, name ∈ names ↔ (places.lookup name).isSome
  order : InOrder places names

/-- A further place comes last if its name is new, and does not matter otherwise. -/
theorem Distinct.addNew {places : List (String × Nat)} {names : List String}
    (h : Distinct places names) {last : String} {place : Nat}
    (hlast : ∀ a ∈ places, a.2 < place) :
    Distinct (places ++ [(last, place)]) (addNew names last) := by
  have mem : ∀ name, name ∈ Query.addNew names last ↔
      ((places ++ [(last, place)]).lookup name).isSome := by
    intro name
    rw [mem_addNew, h.mem, List.lookup_append, Option.isSome_or, Bool.or_eq_true]
    exact or_congr_right (by simp [List.lookup_isSome_iff])
  have order : InOrder (places ++ [(last, place)]) names := by
    refine h.order.imp_of_mem fun hm hn hmn => ?_
    rwa [lookup_append_of_isSome ((h.mem _).1 hm), lookup_append_of_isSome ((h.mem _).1 hn)]
  -- A known name keeps its first place, a new one has the last of all places.
  by_cases hnew : last ∈ names
  · have same : Query.addNew names last = names := if_pos (List.contains_iff_mem.2 hnew)
    rw [same] at mem ⊢
    exact ⟨h.nodup, mem, order⟩
  · have longer : Query.addNew names last = names ++ [last] :=
      if_neg fun hc => hnew (List.contains_iff_mem.1 hc)
    have hlookup : (places ++ [(last, place)]).lookup last = some place := by
      have hnone : places.lookup last = none :=
        Option.not_isSome_iff_eq_none.1 fun hsome => hnew ((h.mem _).2 hsome)
      simp [List.lookup_append, hnone]
    rw [longer] at mem ⊢
    refine ⟨List.nodup_append.2 ⟨h.nodup, by simp, ?_⟩, mem, ?_⟩
    · rintro name hn _ hlast rfl
      exact hnew (List.mem_singleton.1 hlast ▸ hn)
    · refine List.pairwise_append.2 ⟨order, by simp, fun name hn _ hl => ?_⟩
      obtain rfl := List.mem_singleton.1 hl
      obtain ⟨i, hi⟩ := Option.isSome_iff_exists.1 ((h.mem name).1 hn)
      refine ⟨i, place, ?_, hlookup, hlast _ (mem_of_lookup hi)⟩
      rw [lookup_append_of_isSome ((h.mem name).1 hn), hi]

theorem distinct_names {places : List (String × Nat)} (h : places.Pairwise fun a b => a.2 < b.2) :
    Distinct places ((places.map Prod.fst).foldl addNew []) := by
  induction places using List.reverseRecOn with
  | nil => exact ⟨.nil, by simp, .nil⟩
  | append_singleton places last ih =>
    obtain ⟨hplaces, -, hlast⟩ := List.pairwise_append.1 h
    rw [List.map_append, List.foldl_append]
    exact (ih hplaces).addNew fun a ha => hlast a ha last (List.mem_singleton_self last)

/-- Each placeholder is found once, and the one before the other that appears first. -/
theorem placeholders_ordered (query : String) :
    (scan query).placeholders.Nodup
      ∧ (∀ name, name ∈ (scan query).placeholders ↔
        ∃ place, firstPlace? query name = some place)
      ∧ (scan query).placeholders.Pairwise fun m n =>
        ∃ i j, firstPlace? query m = some i ∧ firstPlace? query n = some j ∧ i < j := by
  obtain ⟨hnodup, hmem, horder⟩ := distinct_names (pairwise_appearances .code 0 0 query.toList)
  have hscan : (scan query).placeholders = _ := placeholders_run {} 0 0 query.toList
  rw [hscan]
  exact ⟨hnodup, fun name => (hmem name).trans Option.isSome_iff_exists, horder⟩

theorem standsAt_firstPlace {query name : String} {place : Nat}
    (h : firstPlace? query name = some place) : StandsAt query.toList name place := by
  obtain ⟨i, hi, hstands⟩ := standsAt_of_mem (mem_of_lookup h)
  obtain rfl : place = i := hi.trans (Nat.zero_add i)
  exact hstands

end Toolwire.Query
