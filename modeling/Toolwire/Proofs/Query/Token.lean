import Mathlib
import Toolwire.Proofs.Query.Running
/-!
# Tokens of a query

A step of a scan reads a token and passes it. Which token stands at the head of a text depends on
the text and the mode alone, and what a scanner makes of a token depends on nothing else: `step_eq`.
-/
namespace Toolwire.Query

open Text

/-- What stands at the head of a text. -/
inductive Token where
  /-- Something that a scan passes over. -/
  | idle
  /-- The beginning or the end of a quotation or a comment. -/
  | enter (mode : Mode)
  | placeholder (name : String)
  | marker (text : String)
  | semicolon
  | openParen
  | closeParen
  /-- A word in capitals, and whether a parenthesis opens behind it. -/
  | word (capitals : String) (beforeParen : Bool)
  deriving DecidableEq, Repr

/-- The token at the head of a text in code, and how many characters it has besides the first. -/
def lexCode (c : Char) (rest : List Char) : Token × Nat :=
  let next := rest.head?
  if c = '\'' then (.enter .singleQuoted, 0)
  else if c = '"' then (.enter .doubleQuoted, 0)
  else if c = '-' && next = some '-' then (.enter .lineComment, 1)
  else if c = '/' && next = some '*' then (.enter .blockComment, 1)
  else if c = ':' then
    if next = some ':' then (.idle, 1)
    else if (next.map isIdentStart).getD false then
      let name := rest.takeWhile isIdentChar
      (.placeholder (String.ofList name), name.length)
    else (.idle, 0)
  else if c = '?' then (.marker "?", 0)
  else if c = ';' then (.semicolon, 0)
  else if c = '(' then (.openParen, 0)
  else if c = ')' then (.closeParen, 0)
  else if isIdentStart c then
    let tail := rest.takeWhile isIdentChar
    (.word (String.ofList ((c :: tail).map Char.toUpper)) (beforeParen (rest.drop tail.length)),
      tail.length)
  else (.idle, 0)

/-- The token at the head of a text in a mode, and how many characters it has besides the first. -/
def lex (mode : Mode) (c : Char) (rest : List Char) : Token × Nat :=
  match marker? c rest with
  | some marker => (.marker (String.ofList marker), marker.length - 1)
  | none =>
    match mode with
    | .code => lexCode c rest
    | .singleQuoted =>
      if c = '\'' then if rest.head? = some '\'' then (.idle, 1) else (.enter .code, 0)
      else (.idle, 0)
    | .doubleQuoted => (if c = '"' then .enter .code else .idle, 0)
    | .lineComment => (if c = '\n' then .enter .code else .idle, 0)
    | .blockComment =>
      if c = '*' && rest.head? = some '/' then (.enter .code, 1) else (.idle, 0)

/-- The scanner behind a token. -/
def Scanner.pass (s : Scanner) : Token → Scanner
  | .idle => s
  | .enter mode => { s with mode := mode }
  | .placeholder name =>
    { s with found := { s.found with placeholders := addNew s.found.placeholders name } }
  | .marker text => { s with found := { s.found with markers := s.found.markers ++ [text] } }
  | .semicolon => { s with statement := {} }
  | .openParen => { s with statement := s.statement.openParen }
  | .closeParen => { s with statement := s.statement.closeParen }
  | .word capitals beforeParen => s.passWord capitals beforeParen

variable {s : Scanner} {c : Char} {rest : List Char}

theorem stepCode_eq : stepCode s c rest = Prod.map s.pass id (lexCode c rest) := by
  simp only [stepCode, lexCode, apply_ite (Prod.map s.pass id)]
  rfl

theorem step_eq : step s c rest = Prod.map s.pass id (lex s.mode c rest) := by
  unfold step lex
  cases marker? c rest with
  | some marker => rfl
  | none =>
    cases s.mode with
    | code => exact stepCode_eq
    | singleQuoted => simp only [apply_ite (Prod.map s.pass id)]; rfl
    | doubleQuoted => simp only; split_ifs <;> rfl
    | lineComment => simp only; split_ifs <;> rfl
    | blockComment => simp only [apply_ite (Prod.map s.pass id)]; rfl

theorem run_cons (s : Scanner) (c : Char) (rest : List Char) :
    run s 0 (c :: rest) = run (s.pass (lex s.mode c rest).1) (lex s.mode c rest).2 rest := by
  rw [run, step_eq]
  rfl

/-! ## Quotations and comments -/

/-- The forms of a quotation and of a comment. -/
inductive Form where
  | single
  | double
  | line
  | block
  deriving DecidableEq, Repr

namespace Form

/-- The mode of a scan within. -/
def mode : Form → Mode
  | .single => .singleQuoted
  | .double => .doubleQuoted
  | .line => .lineComment
  | .block => .blockComment

/-- The characters that begin a quotation or a comment. -/
def opening : Form → List Char
  | .single => ['\'']
  | .double => ['"']
  | .line => ['-', '-']
  | .block => ['/', '*']

/-- The characters that end it. -/
def closing : Form → List Char
  | .single => ['\'']
  | .double => ['"']
  | .line => ['\n']
  | .block => ['*', '/']

end Form

/-- What a scan in code can come to at the head of a text. -/
inductive CodeToken (c : Char) (rest : List Char) : Token × Nat → Prop
  | opening (form : Form) (h : form.opening <+: c :: rest) :
    CodeToken c rest (.enter form.mode, form.opening.length - 1)
  | cast (hc : c = ':') (h : rest.head? = some ':') : CodeToken c rest (.idle, 1)
  | placeholder (hc : c = ':') (h : (rest.head?.map isIdentStart).getD false = true) :
    CodeToken c rest (.placeholder (String.ofList (rest.takeWhile isIdentChar)),
      (rest.takeWhile isIdentChar).length)
  | word (h : isIdentStart c = true) :
    CodeToken c rest (.word (String.ofList ((c :: rest.takeWhile isIdentChar).map Char.toUpper))
        (beforeParen (rest.drop (rest.takeWhile isIdentChar).length)),
      (rest.takeWhile isIdentChar).length)
  | mark (hc : c = '?') : CodeToken c rest (.marker "?", 0)
  | semicolon (hc : c = ';') : CodeToken c rest (.semicolon, 0)
  | openParen (hc : c = '(') : CodeToken c rest (.openParen, 0)
  | closeParen (hc : c = ')') : CodeToken c rest (.closeParen, 0)
  | idle : CodeToken c rest (.idle, 0)

/-- What a scan in a quotation or a comment can come to. -/
inductive InnerToken (rest : List Char) : Token × Nat → Prop
  | doubled (h : rest.head? = some '\'') : InnerToken rest (.idle, 1)
  | closing : InnerToken rest (.enter .code, 0)
  | closingPair (h : rest.head? = some '/') : InnerToken rest (.enter .code, 1)
  | idle : InnerToken rest (.idle, 0)

theorem prefix_pair {d : Char} (hr : rest.head? = some d) : [c, d] <+: c :: rest := by
  cases rest with
  | nil => cases hr
  | cons e rest =>
    obtain rfl := Option.some.inj hr
    exact ⟨rest, rfl⟩

theorem codeToken_lexCode : CodeToken c rest (lexCode c rest) := by
  unfold lexCode
  simp only [Bool.and_eq_true, decide_eq_true_eq]
  split_ifs with hsingle hdouble hline hblock hcolon hcast hname hmark hend hopen hclose hword
  · exact .opening .single (hsingle ▸ ⟨rest, rfl⟩)
  · exact .opening .double (hdouble ▸ ⟨rest, rfl⟩)
  · exact .opening .line (hline.1 ▸ prefix_pair hline.2)
  · exact .opening .block (hblock.1 ▸ prefix_pair hblock.2)
  · exact .cast hcolon hcast
  · exact .placeholder hcolon hname
  · exact .idle
  · exact .mark hmark
  · exact .semicolon hend
  · exact .openParen hopen
  · exact .closeParen hclose
  · exact .word hword
  · exact .idle

theorem lex_of_marker {marker : List Char} (hk : marker? c rest = some marker) (mode : Mode) :
    lex mode c rest = (.marker (String.ofList marker), marker.length - 1) := by
  simp only [lex, hk]

theorem codeToken_lex (hn : marker? c rest = none) : CodeToken c rest (lex .code c rest) := by
  have hlex : lex .code c rest = lexCode c rest := by simp only [lex, hn]
  rw [hlex]
  exact codeToken_lexCode

/-- Where no marker begins, a token is one of code or one within a quotation or a comment. -/
theorem lex_cases (hn : marker? c rest = none) (mode : Mode) :
    mode = .code ∧ CodeToken c rest (lex mode c rest)
      ∨ mode ≠ .code ∧ InnerToken rest (lex mode c rest) := by
  cases mode with
  | code => exact .inl ⟨rfl, codeToken_lex hn⟩
  | singleQuoted =>
    refine .inr ⟨nofun, ?_⟩
    simp only [lex, hn]
    split_ifs with hquote hnext
    · exact .doubled hnext
    · exact .closing
    · exact .idle
  | doubleQuoted | lineComment =>
    refine .inr ⟨nofun, ?_⟩
    simp only [lex, hn]
    split_ifs
    · exact .closing
    · exact .idle
  | blockComment =>
    refine .inr ⟨nofun, ?_⟩
    simp only [lex, hn, Bool.and_eq_true, decide_eq_true_eq]
    split_ifs with hclose
    · exact .closingPair hclose.2
    · exact .idle

/-! ## Lengths -/

theorem initial_of_upTo? {close : Char} {text : List Char} (h : upTo? close rest = some text) :
    text <+: rest := by
  unfold upTo? at h
  split at h
  · rename_i hc
    cases h
    obtain ⟨inner, behind, rfl, hinner⟩ := List.eq_append_cons_of_mem (List.contains_iff_mem.1 hc)
    have htake : (inner ++ close :: behind).takeWhile (· != close) = inner := by
      have hne : ∀ d ∈ inner, (d != close) = true := by
        intro d hd
        exact bne_iff_ne.2 fun he => hinner (he ▸ hd)
      rw [List.takeWhile_append_of_pos hne, List.takeWhile_cons_of_neg (by simp), List.append_nil]
    rw [htake]
    exact ⟨behind, by simp⟩
  · cases h

/-- A marker is written at the head of the text. -/
theorem initial_of_marker? {marker : List Char} (h : marker? c rest = some marker) :
    marker <+: c :: rest := by
  unfold marker? at h
  split at h
  · rename_i hc
    subst hc
    split at h
    · cases h
    · rename_i d more
      split at h
      · rename_i hd
        subst hd
        obtain ⟨name, hname, rfl⟩ := Option.map_eq_some_iff.1 h
        obtain ⟨behind, rfl⟩ := initial_of_upTo? hname
        rw [List.drop_left]
        refine ⟨behind.drop 1, ?_⟩
        simp only [List.cons_append, List.append_assoc, List.take_append_drop]
      · split at h
        · split at h
          · cases h
          · cases h
            exact ⟨more, rfl⟩
        · cases h
  · split at h
    · rename_i hb
      subst hb
      split at h
      · rename_i name hname
        cases h
        exact (List.prefix_cons_inj _).2 (initial_of_upTo? hname)
      · cases h
        exact ⟨rest, rfl⟩
    · cases h

/-- A token ends within the text. -/
theorem lex_le (mode : Mode) (c : Char) (rest : List Char) :
    (lex mode c rest).2 ≤ rest.length := by
  have next : ∀ {d : Char}, rest.head? = some d → 1 ≤ rest.length := by
    intro d h
    cases rest with
    | nil => cases h
    | cons e rest => exact Nat.succ_le_succ (Nat.zero_le _)
  cases hk : marker? c rest with
  | some marker =>
    have := (initial_of_marker? hk).length_le
    rw [List.length_cons] at this
    rw [lex_of_marker hk]
    change marker.length - 1 ≤ rest.length
    omega
  | none =>
    rcases lex_cases hk mode with ⟨-, course⟩ | ⟨-, course⟩
    · generalize lex mode c rest = token at course ⊢
      cases course with
      | opening form h =>
        have := h.length_le
        rw [List.length_cons] at this
        change form.opening.length - 1 ≤ rest.length
        omega
      | cast hc h => exact next h
      | placeholder hc h => exact (List.takeWhile_sublist _).length_le
      | word h => exact (List.takeWhile_sublist _).length_le
      | _ => exact Nat.zero_le _
    · generalize lex mode c rest = token at course ⊢
      cases course with
      | doubled h => exact next h
      | closingPair h => exact next h
      | _ => exact Nat.zero_le _

end Toolwire.Query
