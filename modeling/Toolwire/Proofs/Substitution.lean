import Mathlib
import Toolwire.Proofs.Template
/-!
# One pass

A text is cut once, and what a match is replaced by is never cut. So a text around a token
is the text before it, what the token stands for and the text behind it, each on its own:
`Template.single_pass` says so of references and of arguments, whatever stands around them
and whatever is put in.
-/
namespace Toolwire

namespace Text

variable {α ε : Type}

/-- The text of pieces with a text for each match, or the first failure from the left. -/
def fill (f : α → Except ε String) : List (Piece α) → Except ε (List Char)
  | [] => .ok []
  | .char c :: ps => (fill f ps).map (c :: ·)
  | .found a :: ps => do
    let text ← f a
    let more ← fill f ps
    return text.toList ++ more

theorem fill_append (f : α → Except ε String) (ps qs : List (Piece α)) :
    fill f (ps ++ qs) = do
      let x ← fill f ps
      let y ← fill f qs
      return x ++ y := by
  induction ps with
  | nil => cases h : fill f qs <;> simp [fill, h] <;> rfl
  | cons p ps ih =>
    cases p with
    | char c =>
      rw [List.cons_append, fill, ih, fill]
      cases fill f ps <;> cases fill f qs <;> rfl
    | found a =>
      rw [List.cons_append, fill, ih, fill]
      cases f a <;> cases fill f ps <;> cases fill f qs <;> simp [bind, pure, Except.bind,
        Except.pure]

theorem fill_chars (f : α → Except ε String) (t : List Char) : fill f (t.map .char) = .ok t := by
  induction t with
  | nil => rfl
  | cons c t ih => rw [List.map_cons, fill, ih]; rfl

namespace Recognizer

variable {r : Recognizer α}

/-- A text with every match replaced, in one pass. -/
def substitute (r : Recognizer α) (f : α → Except ε String) (s : String) : Except ε String :=
  (fill f (r.cut s.toList)).map String.ofList

theorem substitute_plain (hr : r.LooksAhead) (f : α → Except ε String) {s : String}
    (h : ∀ u, u <:+ s.toList → r none u = none) : r.substitute f s = .ok s := by
  unfold substitute
  rw [cut_plain hr h, fill_chars]
  simp [Except.map]

/-- The search goes on behind a match. -/
theorem cut_token (hr : r.LooksAhead) {token : List Char} (hne : token ≠ []) {rest : List Char}
    {v : α} (ht : r none (token ++ rest) = some (v, token.length)) :
    r.cut (token ++ rest) = .found v :: r.cut rest := by
  obtain ⟨c, token, rfl⟩ := List.exists_cons_of_ne_nil hne
  rw [List.cons_append] at ht ⊢
  rw [cut_found hr ht, List.length_cons, Nat.add_sub_cancel, List.drop_left]

/-- A token behind a text that it leaves settled is replaced between its two neighbours. -/
theorem substitute_token (hr : r.LooksAhead) (hw : r.Within) (f : α → Except ε String)
    {a b token : String} {v : α} {c : Char} {rest : List Char} (htoken : token.toList = c :: rest)
    (hs : r.SettledBefore a.toList (token.toList ++ b.toList))
    (ht : r none (token.toList ++ b.toList) = some (v, token.length)) :
    r.substitute f (a ++ token ++ b) = do
      let x ← r.substitute f a
      let y ← f v
      let z ← r.substitute f b
      return x ++ y ++ z := by
  have behind : r.cut (token.toList ++ b.toList) = .found v :: r.cut b.toList :=
    cut_token hr (by simp [htoken]) (by rwa [String.length_toList])
  unfold substitute
  rw [String.toList_append, String.toList_append, List.append_assoc, cut_append hr hw hs, behind,
    fill_append, fill]
  cases fill f (r.cut a.toList) <;> cases f v <;> cases fill f (r.cut b.toList) <;>
    simp [Except.map, bind, pure, Except.bind, Except.pure, String.ofList_append,
      String.append_assoc]

end Recognizer

end Text

open Text

/-! ## Both passes are substitutions -/

theorem Resolver.resolvePieces_eq (r : Resolver) (ps : List (Piece String)) (done : List Char) :
    r.resolvePieces done ps = (fill r.lookup ps).map (done.reverse ++ ·) := by
  induction ps generalizing done with
  | nil => simp [resolvePieces, fill, Except.map]
  | cons p ps ih =>
    cases p with
    | char c =>
      rw [resolvePieces, ih, fill]
      cases fill r.lookup ps <;> simp [Except.map]
    | found name =>
      rw [resolvePieces, fill]
      cases r.lookup name with
      | error e => rfl
      | ok value =>
        simp only [ih]
        cases fill r.lookup ps <;> simp [Except.map, bind, pure, Except.bind, Except.pure]

theorem Resolver.resolve_eq (r : Resolver) (s : String) :
    r.resolve s = Reference.recognizer.substitute r.lookup s := by
  unfold resolve Recognizer.substitute
  rw [resolvePieces_eq]
  unfold Reference.cut
  cases fill r.lookup (Reference.recognizer.cut s.toList) <;> rfl

namespace Template

theorem renderPieces_eq (args : Members) (c : Credentials) (ps : List (Piece Token))
    (done : List Char) :
    renderPieces args c done ps = (fill (Token.text args c) ps).map (done.reverse ++ ·) := by
  induction ps generalizing done with
  | nil => simp [renderPieces, fill, Except.map]
  | cons p ps ih =>
    cases p with
    | char d =>
      rw [renderPieces, ih, fill]
      cases fill (Token.text args c) ps <;> simp [Except.map]
    | found token =>
      rw [renderPieces, fill]
      cases token.text args c with
      | error e => rfl
      | ok text =>
        simp only [ih]
        cases fill (Token.text args c) ps <;>
          simp [Except.map, bind, pure, Except.bind, Except.pure]

theorem render_eq (args : Members) (c : Credentials) (s : String) :
    render s args c = recognizer.substitute (Token.text args c) s := by
  unfold render Recognizer.substitute
  rw [renderPieces_eq]
  cases fill (Token.text args c) (recognizer.cut s.toList) <;> rfl

end Template

/-! ## Tokens -/

namespace Reference

/-- A text has a token in it: a name, spelled. -/
def Mentions (spell : String → String) (text : String) : Prop :=
  ∃ before name behind, isName name = true ∧ text = before ++ spell name ++ behind

/-- At the head of a text the names are read that are spelled there. -/
def Reads (read : List Char → Option (List Char)) (spell : String → String) : Prop :=
  ∀ {s name}, read s = some name ↔
    isNameChars name = true ∧ ∃ rest, s = (spell (String.ofList name)).toList ++ rest

section
variable {read : List Char → Option (List Char)} {spell : String → String}

theorem Reads.read_spell (h : Reads read spell) {name : String} (hn : isName name = true)
    (rest : List Char) : read ((spell name).toList ++ rest) = some name.toList :=
  h.2 ⟨hn, rest, by rw [String.ofList_toList]⟩

theorem Reads.eq_none (h : Reads read spell) {text : String} (hm : ¬ Mentions spell text)
    {u : List Char} (hu : u <:+ text.toList) : read u = none := by
  cases hread : read u with
  | none => rfl
  | some name =>
    obtain ⟨before, htext⟩ := hu
    obtain ⟨hn, behind, rfl⟩ := h.1 hread
    refine absurd ⟨String.ofList before, String.ofList name, String.ofList behind, ?_, ?_⟩ hm
    · rwa [isName, String.toList_ofList]
    · rw [← String.toList_inj, ← htext]
      simp

end

theorem toList_spell (name : String) :
    (spell name).toList = '$' :: '{' :: (name.toList ++ ['}']) := by
  simp [spell]

theorem length_spell (name : String) : (spell name).length = name.toList.length + 3 := by
  rw [← String.length_toList, toList_spell]
  simp

theorem reads_spell : Reads name? spell := by
  intro s name
  simp [name?_eq_some, toList_spell]

/-- A dollar is part of no name, so nothing before it takes it in. -/
theorem settledBefore_spell (s : List Char) (name : String) (rest : List Char) :
    recognizer.SettledBefore s ((spell name).toList ++ rest) := by
  intro u hu _
  simp only [toList_spell, List.cons_append, recognizer]
  rw [name?_append hu (by decide) (by decide) fun h => absurd h (by decide)]

end Reference

namespace Template

/-- The text of the token that stands for an argument. -/
def spellArgument (name : String) : String := "\x7b" ++ name ++ "\x7d"

theorem toList_spellArgument (name : String) :
    (spellArgument name).toList = '{' :: (name.toList ++ ['}']) := by
  simp [spellArgument]

theorem length_spellArgument (name : String) :
    (spellArgument name).length = name.toList.length + 2 := by
  rw [← String.length_toList, toList_spellArgument]
  simp

theorem reads_spellArgument : Reference.Reads Reference.braced? spellArgument := by
  intro s name
  simp [Reference.braced?_eq_some, toList_spellArgument]

theorem within_recognizer : recognizer.Within := by
  intro s token n h
  unfold recognizer at h
  split at h
  · rename_i name hname
    obtain ⟨-, rest, rfl⟩ := Reference.name?_eq_some.1 hname
    cases h
    simp
  · obtain ⟨name, hname, hm⟩ := Option.map_eq_some_iff.1 h
    obtain ⟨-, rest, rfl⟩ := Reference.braced?_eq_some.1 hname
    cases hm
    simp

/-- What can neither be in a name nor close it settles the text before it, unless a dollar
stands right before a brace. -/
theorem settledBefore {s rest : List Char} {c : Char} (hc : Reference.isNameChar c = false)
    (hb : c ≠ '}') (hd : c = '{' → s.getLast? ≠ some '$') :
    recognizer.SettledBefore s (c :: rest) := by
  intro u hu hsuffix
  -- A position ends as the whole text does, so no dollar stands before the brace there either.
  have hlast : u.getLast? = s.getLast? := by
    obtain ⟨before, rfl⟩ := hsuffix
    rw [List.getLast?_append_of_ne_nil _ hu]
  simp only [recognizer]
  rw [Reference.name?_append hu hc hb fun h => hlast ▸ hd h, Reference.braced?_append hu hc hb]

theorem recognizer_spell {name : String} (hn : Reference.isName name = true) (rest : List Char) :
    recognizer none ((Reference.spell name).toList ++ rest) =
      some (.credential name, (Reference.spell name).length) := by
  simp [recognizer, Reference.reads_spell.read_spell hn, Reference.length_spell]

theorem recognizer_spellArgument {name : String} (hn : Reference.isName name = true)
    (rest : List Char) :
    recognizer none ((spellArgument name).toList ++ rest) =
      some (.argument name, (spellArgument name).length) := by
  have hname : Reference.name? ((spellArgument name).toList ++ rest) = none := by
    rw [toList_spellArgument]
    rfl
  simp [recognizer, hname, reads_spellArgument.read_spell hn, length_spellArgument]

/-! ## The laws -/

theorem render_spell {name : String} (hn : Reference.isName name = true) (a b : String)
    (args : Members) (c : Credentials) :
    render (a ++ Reference.spell name ++ b) args c = do
      let x ← render a args c
      let text ← c.substitute name
      let y ← render b args c
      return x ++ text ++ y := by
  simp only [render_eq]
  have settled : recognizer.SettledBefore a.toList ((Reference.spell name).toList ++ b.toList) := by
    rw [Reference.toList_spell]
    exact settledBefore (by decide) (by decide) fun h => absurd h (by decide)
  exact Recognizer.substitute_token looksAhead_recognizer within_recognizer _
    (Reference.toList_spell name) settled (recognizer_spell hn b.toList)

theorem render_spellArgument {name : String} (hn : Reference.isName name = true) {a : String}
    (ha : a.toList.getLast? ≠ some '$') (b : String) (args : Members) (c : Credentials) :
    render (a ++ spellArgument name ++ b) args c = do
      let x ← render a args c
      let text ← (argument args name).map textOf
      let y ← render b args c
      return x ++ text ++ y := by
  simp only [render_eq]
  have settled : recognizer.SettledBefore a.toList ((spellArgument name).toList ++ b.toList) := by
    rw [toList_spellArgument]
    exact settledBefore (by decide) (by decide) fun _ => ha
  exact Recognizer.substitute_token looksAhead_recognizer within_recognizer _
    (toList_spellArgument name) settled (recognizer_spellArgument hn b.toList)

theorem resolve_spell {name : String} (hn : Reference.isName name = true) (a b : String)
    (r : Resolver) :
    r.resolve (a ++ Reference.spell name ++ b) = do
      let x ← r.resolve a
      let value ← r.lookup name
      let y ← r.resolve b
      return x ++ value ++ y := by
  simp only [Resolver.resolve_eq]
  refine Recognizer.substitute_token Reference.looksAhead_recognizer Reference.within_recognizer _
    (Reference.toList_spell name) (Reference.settledBefore_spell _ _ _) ?_
  simp [Reference.recognizer, Reference.reads_spell.read_spell hn, Reference.length_spell]

theorem resolve_plain {text : String} (h : ¬ Reference.Mentions Reference.spell text)
    (r : Resolver) : r.resolve text = .ok text := by
  rw [Resolver.resolve_eq]
  apply Recognizer.substitute_plain Reference.looksAhead_recognizer
  intro u hu
  rw [Reference.recognizer, Reference.reads_spell.eq_none h hu]
  rfl

theorem render_plain {text : String} (h : ¬ Reference.Mentions Reference.spell text)
    (ha : ¬ Reference.Mentions spellArgument text) (args : Members) (c : Credentials) :
    render text args c = .ok text := by
  rw [render_eq]
  apply Recognizer.substitute_plain looksAhead_recognizer
  intro u hu
  rw [recognizer, Reference.reads_spell.eq_none h hu, reads_spellArgument.eq_none ha hu]
  rfl

theorem substitute_resolve (r : Resolver) (name : String) :
    (Credentials.resolve r).substitute name = (r.lookup name).mapError .credential := by
  simp only [Credentials.substitute]
  cases r.lookup name <;> rfl

/-- Substitution is a single pass. A text around a reference or an argument comes out as the
text before it, what the token stands for as it is, and the text behind it; whichever of the
three fails first from the left is the failure. What is put in is therefore never scanned,
alone or with its neighbours, and a text with nothing in it to replace stays as it is. -/
theorem single_pass {name param : String} (hn : Reference.isName name = true)
    (hp : Reference.isName param = true) (a b : String) (args : Members) (r : Resolver) :
    (r.resolve (a ++ Reference.spell name ++ b) = do
      let x ← r.resolve a
      let value ← r.lookup name
      let y ← r.resolve b
      return x ++ value ++ y)
    ∧ (render (a ++ Reference.spell name ++ b) args (.resolve r) = do
      let x ← render a args (.resolve r)
      let value ← (r.lookup name).mapError .credential
      let y ← render b args (.resolve r)
      return x ++ value ++ y)
    ∧ (render (a ++ Reference.spell name ++ b) args .redact = do
      let x ← render a args .redact
      let y ← render b args .redact
      return x ++ Reference.spell name ++ y)
    ∧ (a.toList.getLast? ≠ some '$' → ∀ c,
      render (a ++ spellArgument param ++ b) args c = do
        let x ← render a args c
        let value ← argument args param
        let y ← render b args c
        return x ++ textOf value ++ y)
    ∧ (∀ text, ¬ Reference.Mentions Reference.spell text → r.resolve text = .ok text)
    ∧ (∀ text c, ¬ Reference.Mentions Reference.spell text →
      ¬ Reference.Mentions spellArgument text → render text args c = .ok text) := by
  refine ⟨resolve_spell hn a b r, ?_, ?_, ?_, fun _ h => resolve_plain h r,
    fun _ c h ha => render_plain h ha args c⟩
  · rw [render_spell hn, substitute_resolve]
  · rw [render_spell hn]
    rfl
  · intro ha c
    rw [render_spellArgument hp ha]
    cases argument args param <;> rfl

/-- Values that make a token with what stands around them. -/
theorem single_pass_lookalike :
    let r : Resolver := { overrides := [("A", "$\x7b"), ("B", "\x7bp\x7d")] }
    let args : Members := [("p", .str "${A}")]
    Reference.isName "A" = true ∧ Reference.isName "p" = true
    ∧ r.resolve ("$$\x7bB" ++ Reference.spell "A" ++ "B\x7d") = .ok "$$\x7bB$\x7bB\x7d"
    ∧ render ("\x7bp" ++ Reference.spell "A" ++ "p\x7d") args (.resolve r) =
      .ok "\x7bp$\x7bp\x7d"
    ∧ render ("$\x7b" ++ spellArgument "p" ++ "\x7d${B}") args (.resolve r) =
      .ok "$\x7b$\x7bA\x7d\x7d\x7bp\x7d" := by
  intro r args
  have hn : Reference.isName "A" = true := by decide
  have hp : Reference.isName "p" = true := by decide
  refine ⟨hn, hp, ?_, ?_, ?_⟩
  · have h := single_pass hn hp "$$\x7bB" "B\x7d" args r
    exact h.1.trans (by rfl)
  · have h := single_pass hn hp "\x7bp" "p\x7d" args r
    exact h.2.1.trans (by rfl)
  · have h := single_pass hn hp "$\x7b" "\x7d${B}" args r
    exact (h.2.2.2.1 (by decide) (.resolve r)).trans (by rfl)

end Template
end Toolwire
