import Mathlib
import Toolwire.Proofs.Credential.Preflight
import Toolwire.Proofs.Secret.Reference
/-!
# References and their values

A text resolves when the names that it lists do, and fails as the first of them that does not.
Rendering asks for these names and for arguments, so it needs no more than that: what lists names,
what resolves and what renders read the same references in every text, `Reference.readers_agree`.
-/
namespace Toolwire

open Text

/-- Pieces are filled when every match among them has a text. -/
theorem Text.fill_ok {α ε : Type} {f : α → Except ε String} {ps : List (Piece α)} :
    (∃ s, fill f ps = .ok s) ↔ ∀ a ∈ ps.filterMap Piece.found?, ∃ text, f a = .ok text := by
  induction ps with
  | nil => simp [fill]
  | cons p ps ih =>
    cases p with
    | char c =>
      simp only [fill, map_eq_ok, List.filterMap_cons, Piece.found?]
      rw [← ih]
      constructor
      · rintro ⟨-, s, hs, -⟩
        exact ⟨s, hs⟩
      · rintro ⟨s, hs⟩
        exact ⟨c :: s, s, hs, rfl⟩
    | found a =>
      simp only [fill, bind_eq_ok, List.filterMap_cons, Piece.found?, List.forall_mem_cons]
      rw [← ih]
      constructor
      · rintro ⟨-, text, ht, s, hs, -⟩
        exact ⟨⟨text, ht⟩, s, hs⟩
      · rintro ⟨⟨text, ht⟩, s, hs⟩
        exact ⟨_, text, ht, s, hs, rfl⟩

/-! ## Resolving -/

namespace Resolver

variable {r : Resolver}

/-- Matches are looked up from the left, so the first that is refused is the failure. -/
theorem fill_lookup (ps : List (Piece String)) :
    (fill r.lookup ps).map (fun _ => ()) = r.ensure (ps.filterMap Piece.found?) := by
  induction ps with
  | nil => rfl
  | cons p ps ih =>
    cases p with
    | char c =>
      rw [fill, List.filterMap_cons, Piece.found?, ← ih]
      cases fill r.lookup ps <;> rfl
    | found name =>
      rw [fill, List.filterMap_cons, Piece.found?, ensure]
      cases r.lookup name with
      | error e => rfl
      | ok value =>
        rw [← ih]
        cases fill r.lookup ps <;> rfl

/-- A text fails to resolve as the names that it lists do. -/
theorem resolve_ensure (text : String) :
    (r.resolve text).map (fun _ => ()) = r.ensure (Reference.names text) := by
  rw [resolve_eq, Recognizer.substitute, Reference.names, Recognizer.findAll, ← fill_lookup]
  cases fill r.lookup (Reference.recognizer.cut text.toList) <;> rfl

end Resolver

/-! ## Rendering -/

namespace Template

variable {args : Members} {r : Resolver}

theorem render_ok {c : Credentials} {s : String} :
    (∃ text, render s args c = .ok text) ↔ ∀ t ∈ tokens s, ∃ text, t.text args c = .ok text := by
  rw [tokens, Recognizer.findAll, ← fill_ok, render_eq, Recognizer.substitute]
  simp only [map_eq_ok]
  constructor
  · rintro ⟨-, chars, hc, -⟩
    exact ⟨chars, hc⟩
  · rintro ⟨chars, hc⟩
    exact ⟨_, chars, hc, rfl⟩

/-- With a resolver a token needs what it needs without one, and a value if it is a credential. -/
theorem text_resolve_ok {t : Token} :
    (∃ text, t.text args (.resolve r) = .ok text) ↔
      (∃ text, t.text args .redact = .ok text)
        ∧ ∀ name, t.credential? = some name → ∃ value, r.lookup name = .ok value := by
  cases t with
  | argument name => simp [Token.text, Token.credential?]
  | credential name =>
    simp only [Token.text, substitute_resolve, Token.credential?, Option.some.injEq, forall_eq']
    simp only [Credentials.substitute, Except.ok.injEq, exists_eq', true_and]
    cases r.lookup name <;> simp [Except.mapError]

theorem render_resolve_ok {s : String} :
    (∃ text, render s args (.resolve r) = .ok text) ↔
      (∃ text, render s args .redact = .ok text) ∧ r.Knows (Reference.names s) := by
  simp only [render_ok, text_resolve_ok, imp_and, forall_and]
  rw [← credentials_tokens]
  refine and_congr_right fun _ => ?_
  simp only [Resolver.Knows, List.mem_filterMap]
  constructor
  · rintro h name ⟨t, ht, hn⟩
    exact h t ht name hn
  · intro h t ht name hn
    exact h name ⟨t, ht, hn⟩

end Template

/-- What lists the names in a text, what resolves it and what renders it agree on the references
in it. Resolving comes to what looking the names up in turn comes to, with the same failure;
rendering with a resolver succeeds when rendering without one does and all the names have values;
and a text has a reference when it lists a name. -/
theorem Reference.readers_agree (text : String) (args : Members) (r : Resolver) :
    (r.resolve text).map (fun _ => ()) = r.ensure (names text)
    ∧ ((∃ rendered, Template.render text args (.resolve r) = .ok rendered) ↔
      (∃ rendered, Template.render text args .redact = .ok rendered)
        ∧ r.ensure (names text) = .ok ())
    ∧ (containedIn text = true ↔ names text ≠ [])
    ∧ (Template.tokens text).filterMap Template.Token.credential? = names text := by
  refine ⟨r.resolve_ensure text, ?_, ?_, Template.credentials_tokens text⟩
  · rw [Template.render_resolve_ok, Resolver.ensure_eq_ok]
  · rw [containedIn_iff, names_ne_nil]

end Toolwire
