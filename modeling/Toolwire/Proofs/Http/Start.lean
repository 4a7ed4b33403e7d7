import Mathlib
import Toolwire.Proofs.Binding.RoundTrip
import Toolwire.Proofs.Substitution
/-!
# How a rendered URL starts

The check of a declaration asks how its URL starts, and rendering leaves that start alone or puts
the value of a credential there: `render_url_start`. An opening brace behind a dollar passes the
check even where no reference stands, and then it is what the rendered URL starts with.
-/
namespace Toolwire

open Text

/-! ## Text that no match starts in -/

namespace Text.Recognizer

variable {α ε : Type} {r : Recognizer α}

theorem cut_passed (hr : r.LooksAhead) {t s : List Char}
    (h : ∀ u, u ≠ [] → u <:+ t → r none (u ++ s) = none) :
    r.cut (t ++ s) = t.map .char ++ r.cut s := by
  induction t with
  | nil => rfl
  | cons c t ih =>
    have hc : r none (c :: (t ++ s)) = none := h (c :: t) (by simp) List.suffix_rfl
    rw [List.cons_append, cut_char hr hc, ih fun u hu hut => h u hu (hut.trans (t.suffix_cons c))]
    rfl

/-- A text that no match starts in stays in front of what follows it. -/
theorem substitute_passed (hr : r.LooksAhead) (f : α → Except ε String) {t s : String}
    (h : ∀ u, u ≠ [] → u <:+ t.toList → r none (u ++ s.toList) = none) :
    r.substitute f (t ++ s) = (r.substitute f s).map (t ++ ·) := by
  unfold substitute
  rw [String.toList_append, cut_passed hr h, fill_append, fill_chars]
  cases fill f (r.cut s.toList) <;>
    simp [Except.map, bind, pure, Except.bind, Except.pure, String.ofList_append]

end Text.Recognizer

namespace Template

variable {args : Members} {c : Credentials} {text : String}

theorem recognizer_of_ne {d : Char} (hd : d ≠ '$') (hb : d ≠ '{') (s : List Char) :
    recognizer none (d :: s) = none := by
  have hname : Reference.name? (d :: s) = none := by
    unfold Reference.name?
    split
    · rename_i h
      exact absurd (List.cons.inj h).1 hd
    · rfl
  have hbraced : Reference.braced? (d :: s) = none := by
    unfold Reference.braced?
    split
    · rename_i h
      exact absurd (List.cons.inj h).1 hb
    · rfl
  simp only [recognizer, hname, hbraced, Option.map_none]

/-- Text without a dollar and an opening brace is rendered as it is. -/
theorem render_plain_append {t : String} (ht : ∀ d ∈ t.toList, d ≠ '$' ∧ d ≠ '{') {s : String}
    (h : render (t ++ s) args c = .ok text) :
    ∃ more, render s args c = .ok more ∧ text = t ++ more := by
  rw [render_eq, Recognizer.substitute_passed looksAhead_recognizer, ← render_eq] at h
  · obtain ⟨more, hmore, htext⟩ := map_eq_ok.1 h
    exact ⟨more, hmore, htext.symm⟩
  · intro u hu hsuffix
    obtain ⟨d, u, rfl⟩ := List.exists_cons_of_ne_nil hu
    obtain ⟨hd, hb⟩ := ht d (hsuffix.subset List.mem_cons_self)
    exact recognizer_of_ne hd hb _

/-- So is an opening brace behind a dollar that opens no reference. -/
theorem render_unopened {s : String} (hs : Reference.braced? ('{' :: s.toList) = none)
    (h : render ("$\x7b" ++ s) args c = .ok text) : ∃ more, text = "$\x7b" ++ more := by
  rw [render_eq, Recognizer.substitute_passed looksAhead_recognizer] at h
  · obtain ⟨more, -, htext⟩ := map_eq_ok.1 h
    exact ⟨more, htext.symm⟩
  · intro u hu hsuffix
    have hcases : u = ['$', '{'] ∨ u = ['{'] := by
      have hmem : u ∈ ['$', '{'].tails := (List.mem_tails _ _).2 hsuffix
      simpa [hu] using hmem
    rcases hcases with rfl | rfl
    · have hdollar : Reference.braced? ('$' :: '{' :: s.toList) = none := rfl
      simp [recognizer, Reference.name?, hs, hdollar]
    · simp [recognizer, Reference.name?, hs]

end Template

/-! ## Starts of URLs -/

/-- A text has another one in front. -/
def StartsWith (text start : String) : Prop := ∃ more, text = start ++ more

theorem startsWith_of_isPrefixOf {s t : List Char} {head : String}
    (h : Binding.startsWith s head = true) (ht : s <+: t) : StartsWith (String.ofList t) head := by
  obtain ⟨more, rfl⟩ := (List.isPrefixOf_iff_prefix.1 h).trans ht
  exact ⟨String.ofList more, by rw [String.ofList_append, String.ofList_toList]⟩

theorem StartsWith.head? {text start : String} (h : StartsWith text start) {c : Char}
    (hc : start.toList.head? = some c) : text.toList.head? = some c := by
  obtain ⟨more, rfl⟩ := h
  rw [String.toList_append, List.head?_append, hc, Option.some_or]

theorem prefix_of_trim (s : List Char) : trim s <+: trimStart s := by
  have h := List.reverse_prefix.2 (List.dropWhile_suffix isBlank (l := (trimStart s).reverse))
  rwa [List.reverse_reverse] at h

namespace Http

/-- A URL without its leading blanks. -/
def urlStart (url : String) : String := String.ofList (trimStart url.toList)

/-- How the URL of a declaration without problems starts. -/
theorem urlStart_of_urlErrors {url : String} (h : Binding.urlErrors url = []) :
    StartsWith (urlStart url) "http://" ∨ StartsWith (urlStart url) "https://"
      ∨ StartsWith (urlStart url) "$\x7b" := by
  unfold Binding.urlErrors at h
  dsimp only at h
  split at h
  · cases h
  · split at h
    · rename_i hs
      simp only [Bool.or_eq_true] at hs
      rcases hs with (hs | hs) | hs
      · exact .inl (startsWith_of_isPrefixOf hs (prefix_of_trim _))
      · exact .inr (.inl (startsWith_of_isPrefixOf hs (prefix_of_trim _)))
      · exact .inr (.inr (startsWith_of_isPrefixOf hs (prefix_of_trim _)))
    · cases h

/-- The start of a rendered URL is settled: it is that of an address, or the value of the credential
that the template starts with a reference to. -/
def Settled (r : Resolver) (template rendered : String) : Prop :=
  StartsWith rendered "http://" ∨ StartsWith rendered "https://"
  ∨ ∃ name value, Reference.isName name = true ∧ StartsWith template (Reference.spell name)
    ∧ r.lookup name = .ok value ∧ StartsWith rendered value

/-- A template starts with an opening brace behind a dollar, and no reference stands there. -/
def Unopened (template : String) : Prop :=
  StartsWith template "$\x7b"
  ∧ ∀ name, Reference.isName name = true → ¬ StartsWith template (Reference.spell name)

section
variable {args : Members} {r : Resolver} {u text : String}

/-- The letters of a scheme are in no token. -/
theorem startsWith_of_scheme {scheme : String} (hs : ∀ d ∈ scheme.toList, d ≠ '$' ∧ d ≠ '{')
    (hu : StartsWith u scheme) (h : Template.render u args (.resolve r) = .ok text) :
    StartsWith text scheme := by
  obtain ⟨rest, rfl⟩ := hu
  obtain ⟨more, -, rfl⟩ := Template.render_plain_append hs h
  exact ⟨more, rfl⟩

theorem settled_of_reference {name : String} (hn : Reference.isName name = true)
    (hu : StartsWith u (Reference.spell name))
    (h : Template.render u args (.resolve r) = .ok text) : Settled r u text := by
  obtain ⟨rest, rfl⟩ := hu
  have hsplit := Template.render_spell hn "" rest args (.resolve r)
  rw [String.empty_append, h] at hsplit
  obtain ⟨x, hx, hsplit⟩ := bind_eq_ok.1 hsplit.symm
  obtain ⟨value, hvalue, hsplit⟩ := bind_eq_ok.1 hsplit
  obtain ⟨more, -, hsplit⟩ := bind_eq_ok.1 hsplit
  obtain rfl : "" = x := Except.ok.inj hx
  refine .inr (.inr ⟨name, value, hn, ⟨rest, rfl⟩, ?_, more, ?_⟩)
  · rw [Template.substitute_resolve] at hvalue
    cases hl : r.lookup name with
    | ok v =>
      rw [hl] at hvalue
      exact congrArg Except.ok (Except.ok.inj hvalue)
    | error e =>
      rw [hl] at hvalue
      cases hvalue
  · rw [← Except.ok.inj hsplit, String.empty_append]

theorem startsWith_of_unopened (hu : Unopened u)
    (h : Template.render u args (.resolve r) = .ok text) : StartsWith text "$\x7b" := by
  obtain ⟨⟨rest, rfl⟩, hno⟩ := hu
  apply Template.render_unopened _ h
  cases hb : Reference.braced? ('{' :: rest.toList) with
  | none => rfl
  | some name =>
    obtain ⟨hn, more, hmore⟩ := Reference.braced?_eq_some.1 hb
    have hname : Reference.isName (String.ofList name) = true := by
      rwa [Reference.isName, String.toList_ofList]
    refine absurd ⟨String.ofList more, ?_⟩ (hno _ hname)
    rw [← String.toList_inj, String.toList_append, String.toList_append, Reference.toList_spell]
    simpa using hmore

/-- Exactly where an opened brace closes no reference is the start not settled. -/
theorem settled_iff (hu : StartsWith u "http://" ∨ StartsWith u "https://" ∨ StartsWith u "$\x7b")
    (h : Template.render u args (.resolve r) = .ok text) :
    Settled r u text ↔ ¬ Unopened u := by
  constructor
  · rintro (hs | hs | ⟨name, -, hn, hspell, -⟩) hopen
    · have hdollar := (startsWith_of_unopened hopen h).head? (c := '$') rfl
      rw [hs.head? (c := 'h') rfl] at hdollar
      cases hdollar
    · have hdollar := (startsWith_of_unopened hopen h).head? (c := '$') rfl
      rw [hs.head? (c := 'h') rfl] at hdollar
      cases hdollar
    · exact hopen.2 name hn hspell
  · intro hopen
    rcases hu with hu | hu | hu
    · exact .inl (startsWith_of_scheme (by simp) hu h)
    · exact .inr (.inl (startsWith_of_scheme (by simp) hu h))
    · obtain ⟨name, hn, hspell⟩ : ∃ name, Reference.isName name = true
          ∧ StartsWith u (Reference.spell name) := by
        by_contra hno
        exact hopen ⟨hu, fun name hn hspell => hno ⟨name, hn, hspell⟩⟩
      exact settled_of_reference hn hspell h

end

/-- The start of a rendered URL. Whenever the URL of an accepted declaration is rendered, its
leading blanks stay in front of what the rest is rendered as. The start of that is settled by the
declaration and the credential that it names there, unless the declaration opens a brace behind a
dollar and no reference stands there: then these two characters are the start. -/
theorem render_url_start {raw : Json} {mode : Validation} {b : Binding} {warnings : List String}
    (hp : Binding.parse raw mode = .ok (b, warnings)) {h : HttpBinding}
    (hh : b.protocol = .http h) {args : Members} {r : Resolver} {text : String}
    (hr : Template.render h.url args (.resolve r) = .ok text) :
    ∃ rendered blanks, Template.render (urlStart h.url) args (.resolve r) = .ok rendered
      ∧ h.url = blanks ++ urlStart h.url ∧ text = blanks ++ rendered
      ∧ (Settled r (urlStart h.url) rendered ↔ ¬ Unopened (urlStart h.url))
      ∧ (Unopened (urlStart h.url) → StartsWith rendered "$\x7b") := by
  have hurl : Binding.urlErrors h.url = [] := by
    have hs := (Binding.parse_ok hp).2.1
    simp only [Binding.structuralErrors, List.append_eq_nil_iff, hh, Binding.protocolErrors,
      Binding.httpErrors] at hs
    exact hs.2.1.1.1.1.1
  have hsplit : h.url = String.ofList (h.url.toList.takeWhile isBlank) ++ urlStart h.url := by
    rw [urlStart, trimStart, ← String.ofList_append, List.takeWhile_append_dropWhile,
      String.ofList_toList]
  have hblank : ∀ d ∈ (String.ofList (h.url.toList.takeWhile isBlank)).toList,
      d ≠ '$' ∧ d ≠ '{' := by
    intro d hd
    rw [String.toList_ofList] at hd
    have hd : isBlank d = true := List.mem_takeWhile_imp hd
    constructor <;> (rintro rfl; exact absurd hd (by decide))
  rw [hsplit] at hr
  obtain ⟨rendered, hrendered, htext⟩ := Template.render_plain_append hblank hr
  exact ⟨rendered, _, hrendered, hsplit, htext, settled_iff (urlStart_of_urlErrors hurl) hrendered,
    fun hopen => startsWith_of_unopened hopen hrendered⟩

set_option maxRecDepth 10000 in
/-- A reference behind blanks, with a reference in the argument that is put in behind it. -/
theorem render_url_start_reference :
    let url := "  $\x7bBASE\x7d/\x7bid\x7d"
    let r : Resolver := { overrides := [("BASE", "https://api.test")] }
    let args : Members := [("id", .str "$\x7bBASE\x7d")]
    Binding.parse (.ofPairs [("type", .str "http"), ("url", .str url)]) .lenient =
      .ok ({ protocol := .http { url := url } }, [])
    ∧ Template.render url args (.resolve r) = .ok "  https://api.test/$\x7bBASE\x7d"
    ∧ ∃ rendered blanks, Template.render (urlStart url) args (.resolve r) = .ok rendered
      ∧ url = blanks ++ urlStart url ∧ "  https://api.test/$\x7bBASE\x7d" = blanks ++ rendered
      ∧ (Settled r (urlStart url) rendered ↔ ¬ Unopened (urlStart url))
      ∧ (Unopened (urlStart url) → StartsWith rendered "$\x7b") := by
  have accepted : Binding.parse (.ofPairs [("type", .str "http"),
      ("url", .str "  $\x7bBASE\x7d/\x7bid\x7d")]) .lenient =
      .ok ({ protocol := .http { url := "  $\x7bBASE\x7d/\x7bid\x7d" } }, []) := by rfl
  have rendered : Template.render "  $\x7bBASE\x7d/\x7bid\x7d" [("id", .str "$\x7bBASE\x7d")]
      (.resolve { overrides := [("BASE", "https://api.test")] }) =
      .ok "  https://api.test/$\x7bBASE\x7d" := by rfl
  exact ⟨accepted, rendered, render_url_start accepted rfl rendered⟩

set_option maxRecDepth 10000 in
/-- A brace is opened behind a dollar and what stands in it is no name: the declaration is accepted
in both modes, and what it is rendered as starts neither with a scheme nor with a credential. -/
theorem not_settled_misspelled :
    let url := "$\x7bORDERS-API\x7d/orders"
    let r : Resolver := { overrides := [("ORDERS-API", "https://orders.test")] }
    (∀ mode, Binding.parse (.ofPairs [("type", .str "http"), ("url", .str url)]) mode =
      .ok ({ protocol := .http { url := url } }, []))
    ∧ Template.render (urlStart url) [] (.resolve r) = .ok url
    ∧ ¬ Settled r (urlStart url) url := by
  have accepted : ∀ mode, Binding.parse (.ofPairs [("type", .str "http"),
      ("url", .str "$\x7bORDERS-API\x7d/orders")]) mode =
      .ok ({ protocol := .http { url := "$\x7bORDERS-API\x7d/orders" } }, []) := by
    intro mode
    cases mode <;> rfl
  have start : urlStart "$\x7bORDERS-API\x7d/orders" = "$\x7b" ++ "ORDERS-API\x7d/orders" := by rfl
  have rendered : Template.render (urlStart "$\x7bORDERS-API\x7d/orders") []
      (.resolve { overrides := [("ORDERS-API", "https://orders.test")] }) =
      .ok "$\x7bORDERS-API\x7d/orders" := by rfl
  have unread : Reference.name? (urlStart "$\x7bORDERS-API\x7d/orders").toList = none := by rfl
  have unopened : Unopened (urlStart "$\x7bORDERS-API\x7d/orders") := by
    refine ⟨⟨_, start⟩, ?_⟩
    rintro name hn ⟨more, hmore⟩
    rw [hmore, String.toList_append, Reference.reads_spell.read_spell hn] at unread
    cases unread
  exact ⟨accepted, rendered, fun hsettled =>
    (settled_iff (.inr (.inr unopened.1)) rendered).1 hsettled unopened⟩

end Http
end Toolwire
