import Mathlib
import Toolwire.Http.Request
import Toolwire.Proofs.Template
import Toolwire.Queue.Message
/-!
# Credentials that stand for themselves

A resolver may answer every name with the reference to it. What it renders is what is rendered
with the references left as written: `request_of_quotes` and `message_of_quotes`.
-/
namespace Toolwire

/-- Every name has the reference to it for a value. -/
def Resolver.Quotes (r : Resolver) : Prop :=
  ∀ name, Reference.isName name = true → r.lookup name = .ok (Reference.spell name)

/-- A resolver whose environment answers every name with the reference to it. -/
def Resolver.quoting : Resolver := { environment := fun name => .ok (some (Reference.spell name)) }

theorem Resolver.quotes_quoting : quoting.Quotes := by
  intro name hn
  rw [lookup, if_pos hn]
  rfl

namespace Template

open Text

variable {args : Members} {c c' : Credentials}

/-! ## Credentials that render texts alike -/

theorem renderPieces_congr {ps : List (Piece Token)} (done : List Char)
    (h : ∀ t, .found t ∈ ps → t.text args c = t.text args c') :
    renderPieces args c done ps = renderPieces args c' done ps := by
  induction ps generalizing done with
  | nil => rfl
  | cons p ps ih =>
    have rest := fun done => ih done fun t ht => h t (List.mem_cons_of_mem p ht)
    cases p with
    | char d => exact rest (d :: done)
    | found t =>
      unfold renderPieces
      rw [h t List.mem_cons_self]
      cases t.text args c' with
      | error f => rfl
      | ok text => exact rest _

theorem renderHeaders_congr (h : ∀ s, render s args c = render s args c')
    (hs : List (String × String)) : renderHeaders args c hs = renderHeaders args c' hs := by
  induction hs with
  | nil => rfl
  | cons header rest ih =>
    unfold renderHeaders
    rw [h, ih]

mutual

/-- A JSON template is rendered alike if the strings in it are. -/
theorem renderJson_congr (h : ∀ s, render s args c = render s args c') :
    (v : Json) → renderJson args c v = renderJson args c' v
  | .str s => by
    unfold renderJson
    rw [h]
  | .arr items => congrArg (Except.map _) (renderItems_congr h items)
  | .obj ms => congrArg (Except.map _) (renderMembers_congr h ms)
  | .null => rfl
  | .bool _ => rfl
  | .int _ => rfl
  | .float _ => rfl

theorem renderItems_congr (h : ∀ s, render s args c = render s args c') :
    (items : List Json) → renderItems args c items = renderItems args c' items
  | [] => rfl
  | x :: xs => by
    unfold renderItems
    rw [renderJson_congr h x, renderItems_congr h xs]

theorem renderMembers_congr (h : ∀ s, render s args c = render s args c') :
    (ms : List (String × Json)) → renderMembers args c ms = renderMembers args c' ms
  | [] => rfl
  | (k, x) :: ms => by
    unfold renderMembers
    rw [renderJson_congr h x, renderMembers_congr h ms]

end

/-- Headers keep their names and their order. -/
theorem keys_renderHeaders {hs rendered : List (String × String)}
    (h : renderHeaders args c hs = .ok rendered) : Members.keys rendered = Members.keys hs := by
  induction hs generalizing rendered with
  | nil => cases h; rfl
  | cons header rest ih =>
    obtain ⟨name, value⟩ := header
    unfold renderHeaders at h
    split at h
    · cases h
    · obtain ⟨more, hm, rfl⟩ := map_eq_ok.1 h
      exact congrArg (name :: ·) (ih hm)

/-! ## Quoted credentials -/

theorem isName_of_found {s : List Char} {name : String}
    (h : .found (.credential name) ∈ recognizer.cut s) : Reference.isName name = true := by
  obtain ⟨u, n, -, hu⟩ := Recognizer.recognized_of_mem_cut looksAhead_recognizer h
  unfold recognizer at hu
  split at hu
  · rename_i chars hchars
    cases hu
    rw [Reference.isName, String.toList_ofList]
    exact (Reference.name?_eq_some.1 hchars).1
  · obtain ⟨chars, -, hm⟩ := Option.map_eq_some_iff.1 hu
    cases hm

variable {r : Resolver}

theorem render_of_quotes (hr : r.Quotes) (s : String) :
    render s args (.resolve r) = render s args .redact := by
  unfold render
  rw [renderPieces_congr [] fun t ht => ?_]
  cases t with
  | argument name => rfl
  | credential name =>
    have hl : r.lookup name = .ok (Reference.spell name) := hr name (isName_of_found ht)
    simp only [Token.text, Credentials.substitute, hl]

end Template

section
variable {args : Members} {r : Resolver}

theorem Http.requestBody_of_quotes (hr : r.Quotes) (h : HttpBinding) :
    requestBody h args (.resolve r) = requestBody h args .redact := by
  unfold requestBody
  simp only [Template.renderJson_congr (Template.render_of_quotes hr)]

/-- The parts of a request in which credentials stand for themselves are those of its description. -/
theorem Http.request_of_quotes (hr : r.Quotes) {h : HttpBinding} {request : Request}
    (hq : Http.request h args r = .ok request) :
    request.method = h.method
      ∧ Template.render h.url args .redact = .ok request.url
      ∧ Members.keys request.headers = Members.keys h.headers
      ∧ requestBody h args .redact = .ok request.body := by
  obtain ⟨url, hu, hq⟩ := bind_eq_ok.1 hq
  obtain ⟨headers, hh, hq⟩ := bind_eq_ok.1 hq
  obtain ⟨body, hb, hq⟩ := bind_eq_ok.1 hq
  cases hq
  rw [Template.render_of_quotes hr] at hu
  rw [requestBody_of_quotes hr] at hb
  exact ⟨rfl, hu, Template.keys_renderHeaders hh, hb⟩

/-- A message in which credentials stand for themselves is the message that is described. -/
theorem Queue.message_of_quotes (hr : r.Quotes) (q : QueueBinding) :
    message q args (.resolve r) = message q args .redact := by
  unfold message
  rw [Template.render_of_quotes hr, Template.renderHeaders_congr (Template.render_of_quotes hr)]

end

end Toolwire
