import Mathlib
import Toolwire.Binding.Check
import Toolwire.Proofs.Json.Reading
import Toolwire.Proofs.Text.Search
import Toolwire.Template
/-!
# Why templates fail

The credentials among the tokens of a template are the references in its text: a name in
braces never hides one. Rendering fails at the first token that has no text, so the reason
is an argument that is missing or a reference that the lookup refuses.
-/
namespace Toolwire.Template

open Text

/-! ## Tokens and references -/

/-- What a template refers to, from left to right. -/
def tokens (s : String) : List Token := recognizer.findAll s.toList

/-- The name of the credential that a token is. -/
def Token.credential? : Token → Option String
  | .credential name => some name
  | .argument _ => none

theorem looksAhead_recognizer : recognizer.LooksAhead := fun _ _ => rfl

/-- What a search for references reads in a piece of a template. -/
def referencesIn : Piece Token → List (Piece String)
  | .char c => [.char c]
  | .found (.credential name) => [.found name]
  | .found (.argument name) => ('{' :: name.toList ++ ['}']).map .char

/-- A template skips a name in braces, a search for references goes through it. -/
theorem cut_references (s : List Char) :
    Reference.recognizer.cut s = (recognizer.cut s).flatMap referencesIn := by
  induction s using Recognizer.search_induction recognizer with
  | nil => rfl
  | found c rest t n hm ih =>
    rw [Recognizer.cut_found looksAhead_recognizer hm, List.flatMap_cons, ← ih]
    cases hname : Reference.name? (c :: rest) with
    | some name =>
      have hr : Reference.recognizer none (c :: rest) =
          some (String.ofList name, name.length + 3) := by
        simp only [Reference.recognizer, hname, Option.map_some]
      simp only [recognizer, hname] at hm
      cases hm
      rw [Recognizer.cut_found Reference.looksAhead_recognizer hr]
      rfl
    | none =>
      simp only [recognizer, hname] at hm
      obtain ⟨name, hbraced, hm⟩ := Option.map_eq_some_iff.1 hm
      cases hm
      obtain ⟨hn, tail, htext⟩ := Reference.braced?_eq_some.1 hbraced
      obtain ⟨rfl, rfl⟩ := List.cons.inj htext
      have hdrop : (name ++ '}' :: tail).drop (name.length + 2 - 1) = tail := by
        simp [List.drop_append]
      rw [Reference.cut_braced hn, hdrop]
      simp [referencesIn]
  | char c rest hm ih =>
    have hr : Reference.recognizer none (c :: rest) = none := by
      cases hname : Reference.name? (c :: rest) with
      | some name => simp [recognizer, hname] at hm
      | none => simp only [Reference.recognizer, hname, Option.map_none]
    rw [Recognizer.cut_char looksAhead_recognizer hm,
      Recognizer.cut_char Reference.looksAhead_recognizer hr, ih]
    rfl

/-- The credentials among the tokens of a text are its references, in the same order. -/
theorem credentials_tokens (s : String) :
    (tokens s).filterMap Token.credential? = Reference.names s := by
  unfold tokens Reference.names Recognizer.findAll
  rw [cut_references, List.filterMap_filterMap, List.filterMap_flatMap,
    List.filterMap_eq_flatMap_toList]
  refine congrArg (List.flatMap · _) (funext fun p => ?_)
  rcases p with c | (name | name)
  · rfl
  · rfl
  · exact (Recognizer.found_chars _).symm

/-! ## The first token without a text -/

/-- The first of the tokens without a text has none for a reason. -/
def FailsAt (args : Members) (c : Credentials) (f : Failure) (ts : List Token) : Prop :=
  ∃ before token after, ts = before ++ token :: after
    ∧ (∀ t ∈ before, ∃ text, t.text args c = .ok text) ∧ token.text args c = .error f

section
variable {args : Members} {c : Credentials} {f : Failure}

theorem not_failsAt_nil : ¬ FailsAt args c f [] := by
  rintro ⟨before, token, after, h, -, -⟩
  exact absurd h (by simp)

theorem failsAt_cons_error {t : Token} {ts : List Token} {g : Failure}
    (ht : t.text args c = .error g) : FailsAt args c f (t :: ts) ↔ g = f := by
  constructor
  · rintro ⟨before, token, after, h, hb, hf⟩
    cases before with
    | nil =>
      obtain ⟨rfl, rfl⟩ := List.cons.inj h
      rw [ht] at hf
      exact Except.error.inj hf
    | cons b before =>
      obtain ⟨rfl, -⟩ := List.cons.inj h
      obtain ⟨text, hx⟩ := hb t (by simp)
      rw [ht] at hx
      cases hx
  · rintro rfl
    exact ⟨[], t, ts, rfl, by simp, ht⟩

theorem failsAt_cons_ok {t : Token} {ts : List Token} {text : String}
    (ht : t.text args c = .ok text) : FailsAt args c f (t :: ts) ↔ FailsAt args c f ts := by
  constructor
  · rintro ⟨before, token, after, h, hb, hf⟩
    cases before with
    | nil =>
      obtain ⟨rfl, rfl⟩ := List.cons.inj h
      rw [ht] at hf
      cases hf
    | cons b before =>
      obtain ⟨-, rfl⟩ := List.cons.inj h
      exact ⟨before, token, after, rfl, fun u hu => hb u (by simp [hu]), hf⟩
  · rintro ⟨before, token, after, rfl, hb, hf⟩
    refine ⟨t :: before, token, after, rfl, ?_, hf⟩
    intro u hu
    rcases List.mem_cons.1 hu with rfl | hu
    · exact ⟨text, ht⟩
    · exact hb u hu

theorem renderPieces_error (ps : List (Piece Token)) (done : List Char) :
    renderPieces args c done ps = .error f ↔ FailsAt args c f (ps.filterMap Piece.found?) := by
  induction ps generalizing done with
  | nil => exact iff_of_false (by simp [renderPieces]) not_failsAt_nil
  | cons p ps ih =>
    cases p with
    | char d => exact ih (d :: done)
    | found t =>
      change _ ↔ FailsAt args c f (t :: ps.filterMap Piece.found?)
      unfold renderPieces
      cases ht : t.text args c with
      | error g =>
        rw [failsAt_cons_error ht]
        exact iff_of_eq (Except.error.injEq _ _)
      | ok text =>
        rw [failsAt_cons_ok ht]
        exact ih _

/-- Rendering fails at the first token that has no text, with the reason for that. -/
theorem render_error {s : String} : render s args c = .error f ↔ FailsAt args c f (tokens s) := by
  unfold render tokens Recognizer.findAll
  rw [← renderPieces_error _ []]
  cases renderPieces args c [] (recognizer.cut s.toList) <;> simp [Except.map]

/-! ## Reasons -/

/-- The reasons for which a template that refers to the credentials `names` can fail. -/
def Fails (c : Credentials) (names : List String) (f : Failure) : Prop :=
  (∃ m, f = .invalidParameters m) ∨ ∃ name ∈ names, c.substitute name = .error f

theorem Fails.mono {names more : List String} (h : Fails c names f) (hs : names ⊆ more) :
    Fails c more f :=
  h.imp_right fun ⟨name, hn, he⟩ => ⟨name, hs hn, he⟩

theorem substitute_error {name : String} (h : c.substitute name = .error f) :
    ∃ r e, c = .resolve r ∧ r.lookup name = .error e ∧ f = .credential e := by
  unfold Credentials.substitute at h
  split at h
  · rename_i r
    split at h
    · cases h
    · rename_i e he
      cases h
      exact ⟨r, e, rfl, he, rfl⟩
  · cases h

theorem argument_error {name : String} (h : argument args name = .error f) :
    ∃ m, f = .invalidParameters m := by
  unfold argument at h
  split at h
  · cases h
  · cases h
    exact ⟨_, rfl⟩

theorem render_fails {s : String} (h : render s args c = .error f) :
    Fails c (Reference.names s) f := by
  obtain ⟨before, token, after, hs, -, hf⟩ := render_error.1 h
  cases token with
  | argument name =>
    rw [Token.text, map_eq_error] at hf
    exact .inl (argument_error hf)
  | credential name =>
    refine .inr ⟨name, ?_, hf⟩
    rw [← credentials_tokens, hs]
    simp [Token.credential?]

theorem renderHeaders_fails {hs : List (String × String)}
    (h : renderHeaders args c hs = .error f) :
    Fails c (hs.flatMap fun h => Reference.names h.2) f := by
  induction hs with
  | nil => cases h
  | cons header rest ih =>
    unfold renderHeaders at h
    rw [List.flatMap_cons]
    split at h
    · rename_i g hg
      cases h
      exact (render_fails hg).mono (List.subset_append_left _ _)
    · rw [map_eq_error] at h
      exact (ih h).mono (List.subset_append_right _ _)

open Binding

mutual

/-- A JSON template fails for the reasons of the strings in it. -/
theorem renderJson_fails :
    (v : Json) → renderJson args c v = .error f → Fails c (namesIn v) f
  | .str s, h => by
    unfold renderJson at h
    split at h
    · exact .inl (argument_error h)
    · rw [map_eq_error] at h
      exact render_fails h
  | .arr items, h => renderItems_fails items (map_eq_error.1 h)
  | .obj ms, h => renderMembers_fails ms (map_eq_error.1 h)

theorem renderItems_fails :
    (items : List Json) → renderItems args c items = .error f → Fails c (namesInItems items) f
  | x :: xs, h => by
    unfold renderItems at h
    unfold namesInItems
    split at h
    · rename_i g hg
      cases h
      exact (renderJson_fails x hg).mono (List.subset_append_left _ _)
    · exact (renderItems_fails xs (map_eq_error.1 h)).mono (List.subset_append_right _ _)

theorem renderMembers_fails :
    (ms : List (String × Json)) → renderMembers args c ms = .error f →
      Fails c (namesInMembers ms) f
  | (k, x) :: ms, h => by
    unfold renderMembers at h
    unfold namesInMembers
    split at h
    · rename_i g hg
      cases h
      exact (renderJson_fails x hg).mono (List.subset_append_left _ _)
    · exact (renderMembers_fails ms (map_eq_error.1 h)).mono (List.subset_append_right _ _)

end

end

end Toolwire.Template
