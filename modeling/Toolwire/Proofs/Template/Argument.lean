import Mathlib
import Toolwire.Proofs.Substitution
/-!
# Arguments in templates

An argument is a name in braces with no dollar before them, wherever it stands. A template that
names none is rendered as its references are resolved: `render_of_onlyReferences`.
-/
namespace Toolwire

open Text

namespace Template

/-- The string is nothing but an argument. -/
def IsArgument (s : String) : Prop := ∃ name, Reference.isName name = true ∧ s = spellArgument name

theorem wholeArgument?_eq_some {s name : String} :
    wholeArgument? s = some name ↔ Reference.isName name = true ∧ s = spellArgument name := by
  unfold wholeArgument?
  constructor
  · intro h
    split at h
    · rename_i chars hb
      split at h
      · rename_i hlen
        cases h
        obtain ⟨hn, rest, hs⟩ := Reference.braced?_eq_some.1 hb
        -- The length leaves no room behind the closing brace.
        have hrest : rest = [] := by
          rw [← String.length_toList, hs, List.length_cons, List.length_append,
            List.length_cons] at hlen
          exact List.length_eq_zero_iff.1 (by omega)
        refine ⟨by rwa [Reference.isName, String.toList_ofList], ?_⟩
        rw [← String.toList_inj, hs, hrest, toList_spellArgument, String.toList_ofList]
      · cases h
    · cases h
  · rintro ⟨hn, rfl⟩
    have hb : Reference.braced? (spellArgument name).toList = some name.toList := by
      simpa using reads_spellArgument.read_spell hn []
    simp [hb, length_spellArgument]

/-! ## Texts that name no argument -/

/-- Every name in braces is that of a reference. -/
def OnlyReferences (text : String) : Prop :=
  ∀ before name behind, Reference.isName name = true →
    text = before ++ spellArgument name ++ behind → before.toList.getLast? = some '$'

theorem OnlyReferences.not_isArgument {s : String} (h : OnlyReferences s) : ¬ IsArgument s := by
  rintro ⟨name, hn, rfl⟩
  exact absurd (h "" name "" hn (by simp)) (by decide)

/-- How a token is written. -/
def Token.spell : Token → String
  | .credential name => Reference.spell name
  | .argument name => spellArgument name

theorem getLast?_spell (t : Token) : t.spell.toList.getLast? = some '}' := by
  cases t <;> simp [Token.spell, Reference.toList_spell, toList_spellArgument, List.getLast?_cons]

theorem spell_ne_nil (t : Token) : t.spell.toList ≠ [] := by
  intro h
  have := getLast?_spell t
  simp [h] at this

/-- A token is recognised where it is written. -/
theorem recognizer_eq_some {s : List Char} {t : Token} {n : Nat}
    (h : recognizer none s = some (t, n)) :
    ∃ rest, s = t.spell.toList ++ rest ∧ n = t.spell.toList.length
      ∧ ∀ name, t = .argument name → Reference.isName name = true := by
  unfold recognizer at h
  split at h
  · rename_i name hname
    obtain ⟨-, rest, rfl⟩ := Reference.reads_spell.1 hname
    cases h
    exact ⟨rest, rfl, by simp [Token.spell, Reference.toList_spell], nofun⟩
  · obtain ⟨name, hname, hm⟩ := Option.map_eq_some_iff.1 h
    obtain ⟨hn, rest, rfl⟩ := reads_spellArgument.1 hname
    cases hm
    refine ⟨rest, rfl, by simp [Token.spell, toList_spellArgument], ?_⟩
    rintro other hother
    cases hother
    rwa [Reference.isName, String.toList_ofList]

/-- An argument is found only where no dollar stands before its brace. -/
theorem argument_mem_cut {s : List Char} {name : String}
    (h : .found (.argument name) ∈ recognizer.cut s) :
    Reference.isName name = true ∧ ∃ before behind,
      s = before ++ ((spellArgument name).toList ++ behind) ∧ before.getLast? ≠ some '$' := by
  induction s using Recognizer.search_induction recognizer with
  | nil => cases h
  | found c rest t k hm ih =>
    obtain ⟨tail, hs, rfl, hn⟩ := recognizer_eq_some hm
    have hdrop : rest.drop (t.spell.toList.length - 1) = tail := by
      obtain ⟨d, token, htoken⟩ := List.exists_cons_of_ne_nil (spell_ne_nil t)
      rw [htoken, List.cons_append] at hs
      obtain ⟨-, rfl⟩ := List.cons.inj hs
      simp [htoken]
    rw [Recognizer.cut_found looksAhead_recognizer hm, hdrop] at h
    rcases List.mem_cons.1 h with h | h
    · cases h
      exact ⟨hn name rfl, [], tail, hs, by simp⟩
    · obtain ⟨hname, before, behind, htail, hb⟩ := ih (hdrop ▸ h)
      refine ⟨hname, t.spell.toList ++ before, behind, ?_, ?_⟩
      · rw [hs, ← hdrop, htail, List.append_assoc]
      · rw [List.getLast?_append, getLast?_spell]
        cases hl : before.getLast? with
        | none => simp
        | some d => simpa [hl] using hb
  | char c rest hm ih =>
    rw [Recognizer.cut_char looksAhead_recognizer hm] at h
    obtain ⟨hname, before, behind, rfl, hb⟩ := ih ((List.mem_cons.1 h).resolve_left nofun)
    refine ⟨hname, c :: before, behind, rfl, ?_⟩
    cases before with
    | nil =>
      -- Behind a dollar it would have been a reference.
      rintro hc
      obtain rfl : c = '$' := by simpa using hc
      have found := recognizer_spell hname behind
      rw [Reference.toList_spell] at found
      rw [toList_spellArgument] at hm
      exact absurd (hm.symm.trans found) nofun
    | cons d before => rwa [List.getLast?_cons_cons]

theorem mem_tokens {s : String} {t : Token} : t ∈ tokens s ↔ .found t ∈ recognizer.cut s.toList := by
  simp only [tokens, Recognizer.findAll, List.mem_filterMap]
  constructor
  · rintro ⟨p, hp, hf⟩
    cases p with
    | char c => cases hf
    | found u =>
      cases hf
      exact hp
  · intro h
    exact ⟨_, h, rfl⟩

theorem onlyReferences_iff {s : String} :
    OnlyReferences s ↔ ∀ name, .argument name ∉ tokens s := by
  simp only [mem_tokens]
  constructor
  · intro h name hm
    obtain ⟨hn, before, behind, hs, hb⟩ := argument_mem_cut hm
    refine hb ?_
    have := h (String.ofList before) name (String.ofList behind) hn
      (by rw [← String.toList_inj, hs]; simp)
    rwa [String.toList_ofList] at this
  · rintro h before name behind hn rfl
    by_contra hb
    refine h name ?_
    have settled : recognizer.SettledBefore before.toList
        ((spellArgument name).toList ++ behind.toList) := by
      rw [toList_spellArgument]
      exact settledBefore (by decide) (by decide) fun _ => hb
    have here := recognizer_spellArgument hn behind.toList
    rw [← String.length_toList] at here
    rw [String.toList_append, String.toList_append, List.append_assoc,
      Recognizer.cut_append looksAhead_recognizer within_recognizer settled,
      Recognizer.cut_token looksAhead_recognizer (by simp [toList_spellArgument]) here]
    simp

end Template

/-- What a match stands for, said anew. -/
def Text.Piece.map {α β : Type} (g : α → β) : Piece α → Piece β
  | .char c => .char c
  | .found a => .found (g a)

theorem Text.fill_map {α β ε ε' : Type} {f : α → Except ε String} {f' : β → Except ε' String}
    {g : α → β} {h : ε → ε'} (hf : ∀ a, f' (g a) = (f a).mapError h) (ps : List (Piece α)) :
    fill f' (ps.map (Piece.map g)) = (fill f ps).mapError h := by
  induction ps with
  | nil => rfl
  | cons p ps ih =>
    cases p with
    | char c =>
      rw [List.map_cons, Piece.map, fill, ih, fill]
      cases fill f ps <;> rfl
    | found a =>
      rw [List.map_cons, Piece.map, fill, ih, hf, fill]
      cases f a <;> cases fill f ps <;> rfl

namespace Template

/-- Without an argument, the tokens of a template are cut as the references of a text are. -/
theorem cut_of_no_argument {s : List Char} (h : ∀ name, .found (.argument name) ∉ recognizer.cut s) :
    recognizer.cut s = (Reference.recognizer.cut s).map (Piece.map Token.credential) := by
  have one : ∀ p ∈ recognizer.cut s, (referencesIn p).map (Piece.map Token.credential) = [p] := by
    rintro (c | name | name) hp
    · rfl
    · rfl
    · exact absurd hp (h name)
  rw [cut_references, List.map_flatMap, List.flatMap_congr one, List.flatMap_singleton']

variable {args : Members} {r : Resolver}

theorem render_of_onlyReferences {s : String} (h : OnlyReferences s) :
    render s args (.resolve r) = (r.resolve s).mapError .credential := by
  have hcut := cut_of_no_argument fun name hm => onlyReferences_iff.1 h name (mem_tokens.2 hm)
  rw [render_eq, r.resolve_eq, Recognizer.substitute, Recognizer.substitute, hcut,
    fill_map (g := Token.credential) (substitute_resolve r)]
  cases fill r.lookup (Reference.recognizer.cut s.toList) <;> rfl

end Template

end Toolwire
