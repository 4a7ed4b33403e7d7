import Mathlib
import Toolwire.Proofs.Binding.RoundTrip
import Toolwire.Proofs.Query.Region
import Toolwire.Proofs.Sql.Parameters
/-!
# Leading words

A query is made of statements with semicolons between them. Where a statement begins, be it with
blanks and comments, a scan expects a word, and it takes note of a keyword there but before a
parenthesis: `isMutating_of_lead`.
-/
namespace Toolwire.Query

open Text

/-! ## Statements of a query -/

/-- Text that ends outside of quotations and comments. -/
inductive Outside : List Char → Prop
  | nil : Outside []
  | region (form : Form) {content rest : List Char} (hc : ¬ form.closing <:+: content)
    (h : Outside rest) : Outside (form.region content ++ rest)
  | char {c : Char} {rest : List Char} (hc : ∀ form : Form, ¬ form.opening <+: c :: rest)
    (h : Outside rest) : Outside (c :: rest)

/-- Blanks and comments. -/
inductive Filler : List Char → Prop
  | nil : Filler []
  | blank {c : Char} {rest : List Char} (hb : isBlank c = true) (h : Filler rest) :
    Filler (c :: rest)
  | comment (form : Form) (hf : form = .line ∨ form = .block) {content rest : List Char}
    (hc : ¬ form.closing <:+: content) (h : Filler rest) : Filler (form.region content ++ rest)

/-- Text behind which a statement begins. -/
inductive Starts : List Char → Prop
  | first : Starts []
  | behind {cs : List Char} (h : Outside cs) : Starts (cs ++ [';'])

/-- The first word of a statement of a query, with the text before it and behind it. -/
structure Lead where
  earlier : List Char
  filler : List Char
  word : Word
  after : List Char
  starts : Starts earlier
  filled : Filler filler
  ends : EndsWord after

/-- The statement, with those behind it. -/
def Lead.statement (l : Lead) : List Char := l.filler ++ (l.word.chars ++ l.after)

/-- The query. -/
def Lead.query (l : Lead) : String := String.ofList (l.earlier ++ l.statement)

/-! ## Text outside of quotations and comments -/

/-- A character that a quotation or a comment begins with. -/
def isQuoting (c : Char) : Bool := ['\'', '"', '-', '/'].contains c

theorem Outside.append {cs rest : List Char} (hcs : (cs.any isQuoting) = false)
    (h : Outside rest) : Outside (cs ++ rest) := by
  induction cs with
  | nil => exact h
  | cons c cs ih =>
    rw [List.any_cons, Bool.or_eq_false_iff] at hcs
    refine .char (fun form hform => ?_) (ih hcs.2)
    obtain ⟨more, hmore⟩ := hform
    cases form <;> obtain ⟨rfl, -⟩ := List.cons.inj hmore <;> exact absurd hcs.1 (by decide)

section
variable {c : Char} {rest : List Char} {token : Token × Nat}

/-- Where nothing is quoted or commented out, a token leaves the mode as it is. -/
theorem CodeToken.keeps_mode (h : CodeToken c rest token)
    (hc : ∀ form : Form, ¬ form.opening <+: c :: rest) (s : Scanner) :
    (s.pass token.1).mode = s.mode := by
  cases h with
  | opening form ho => exact absurd ho (hc form)
  | _ => rfl

/-- And it passes no sign but the colon of a cast. -/
theorem CodeToken.passed (h : CodeToken c rest token)
    (hc : ∀ form : Form, ¬ form.opening <+: c :: rest) :
    ∀ d ∈ rest.take token.2, isIdentChar d = true ∨ d = ':' := by
  intro d hd
  cases h with
  | opening form ho => exact absurd ho (hc form)
  | cast hcolon hr => exact .inr (eq_of_mem_take_one hr hd)
  | placeholder hcolon hr => exact .inl (isIdentChar_of_mem_take hd)
  | word hw => exact .inl (isIdentChar_of_mem_take hd)
  | _ => cases hd

end

theorem mode_of_outside {cs : List Char} (h : Outside cs) (hu : Unmarked cs []) {s : Scanner}
    (hm : s.mode = .code) {skip : Nat}
    (hskip : ∀ d ∈ cs.take skip, isIdentChar d = true ∨ d = ':') :
    (run s skip cs).mode = .code := by
  induction h generalizing s skip with
  | nil => exact hm
  | @region form content rest hc h ih =>
    obtain ⟨hcontent, hrest⟩ := Form.unmarked_region hu
    cases skip with
    | zero =>
      rw [Form.run_region hm (by simpa using hcontent) hc]
      exact ih hrest hm (by simp)
    | succ skip =>
      -- A region does not begin within a token.
      obtain ⟨o, tail, ho, hborder⟩ := form.border_opening
      have first : isIdentChar o = true ∨ o = ':' := hskip o (by simp [Form.region, ho])
      rw [hborder.notIdent] at first
      exact absurd first (by simp [hborder.notSign])
  | @char c rest hc h ih =>
    obtain ⟨hn, hrest⟩ := hu
    rw [List.append_nil] at hn
    cases skip with
    | succ skip =>
      rw [List.take_succ_cons, List.forall_mem_cons] at hskip
      exact ih hrest hm hskip.2
    | zero =>
      have course : CodeToken c rest (lex .code c rest) := codeToken_lex hn
      rw [run_cons, hm]
      exact ih hrest ((course.keeps_mode hc s).trans hm) (course.passed hc)

/-! ## Up to a statement -/

theorem run_filler {s : Scanner} (hm : s.mode = .code) {cs more : List Char} (h : Filler cs)
    (hu : Unmarked cs more) : run s 0 (cs ++ more) = run s 0 more := by
  induction h with
  | nil => rfl
  | blank hb h ih =>
    rw [List.cons_append, run_idle hm (isIdle_of_isBlank hb)]
    exact ih hu.2
  | @comment form hf content rest hc h ih =>
    obtain ⟨hcontent, hrest⟩ := Form.unmarked_region hu
    rw [List.append_assoc, Form.run_region hm hcontent hc]
    exact ih hrest

/-- What stands before a statement hides nothing in it, and nothing of what stands before it. -/
theorem scanChars_starts {cs : List Char} (h : Starts cs) :
    ∃ earlier : Scan, ∀ more, Unmarked cs more →
      scanChars (cs ++ more) = earlier.merge (scanChars more) := by
  cases h with
  | first => exact ⟨{}, fun more _ => (Scan.empty_merge _).symm⟩
  | @behind cs h =>
    -- The semicolon is a border and starts the statement anew, so nothing before it is looked at.
    refine ⟨scanChars cs, fun more hu => ?_⟩
    have hu' : Unmarked cs (';' :: more) := (unmarked_append.1 hu).1
    have hm : (run {} 0 cs).mode = .code :=
      mode_of_outside h (border_semicolon.unmarked hu') rfl (by simp)
    rw [List.append_assoc, List.singleton_append, scanChars,
      run_of_steady (border_semicolon.steady hu') hm]
    rfl

/-! ## The first word of a statement -/

theorem mem_keywords_run {s : Scanner} {keyword : String} (h : keyword ∈ s.found.keywords)
    (skip : Nat) (cs : List Char) : keyword ∈ (run s skip cs).found.keywords := by
  rw [run_found]
  exact mem_unite.2 (.inl h)

/-- A scanner that has passed another word last. -/
def Scanner.called (s : Scanner) (word : String) : Scanner :=
  { s with statement := { s.statement with lastWord := word } }

theorem Scanner.pass_called {s : Scanner} (h : s.statement.inList = false) (word : String)
    (t : Token) :
    (s.called word).pass t = s.pass t
      ∨ (s.called word).pass t = (s.pass t).called word
        ∧ (s.pass t).statement.inList = false := by
  cases t with
  | semicolon => exact .inl rfl
  | word capitals beforeParen => exact .inl rfl
  -- Only here is the last word asked for, and only within a list.
  | openParen =>
    refine .inr ⟨?_, h⟩
    simp only [pass, called, Statement.openParen, h, Bool.false_and]
  | _ => exact .inr ⟨rfl, h⟩

/-- Outside of a `WITH` list the last word does not matter. -/
theorem run_called {s : Scanner} (h : s.statement.inList = false) (word : String) (skip : Nat)
    (cs : List Char) : (run (s.called word) skip cs).found = (run s skip cs).found := by
  induction cs generalizing s skip with
  | nil => rfl
  | cons c cs ih =>
    cases skip with
    | succ skip => exact ih h skip
    | zero =>
      have hmode : (s.called word).mode = s.mode := rfl
      rw [run_cons, run_cons, hmode]
      rcases Scanner.pass_called h word (lex s.mode c cs).1 with heq | ⟨hcalled, hl⟩
      · rw [heq]
      · rw [hcalled]
        exact ih hl _

namespace Lead

/-- The same query with another word in the place. -/
def reword (l : Lead) (w : Word) : Lead := { l with word := w }

variable {l : Lead}

theorem unmarked_of_query (h : (scan l.query).markers = []) :
    Unmarked l.earlier l.statement ∧ Unmarked l.filler (l.word.chars ++ l.after) := by
  have hquery := unmarked_of_markers h
  rw [query, String.toList_ofList] at hquery
  obtain ⟨hearlier, hstatement⟩ := unmarked_append.1 hquery
  have hfiller := (unmarked_append.1 hstatement).1
  rw [List.append_nil] at hearlier hfiller
  exact ⟨hearlier, hfiller⟩

theorem scanChars_statement (h : Unmarked l.filler (l.word.chars ++ l.after)) :
    scanChars l.statement =
      (run (({} : Scanner).passWord l.word.capitals (beforeParen l.after)) 0 l.after).found := by
  have start : ({} : Scanner).mode = .code := rfl
  rw [scanChars, statement, run_filler start l.filled h, run_word start l.word l.ends]

/-- A scan comes to the first word of a statement as to that of a query. -/
theorem scan_reword (l : Lead) : ∃ earlier : Scan, ∀ w : Word,
    (scan (l.reword w).query).markers = [] → scan (l.reword w).query = earlier.merge
      (run (({} : Scanner).passWord w.capitals (beforeParen l.after)) 0 l.after).found := by
  obtain ⟨earlier, hearlier⟩ := scanChars_starts l.starts
  refine ⟨earlier, fun w h => ?_⟩
  obtain ⟨hbefore, hfiller⟩ := unmarked_of_query h
  rw [scan, query, String.toList_ofList]
  exact (hearlier _ hbefore).trans (congrArg earlier.merge (scanChars_statement hfiller))

/-- A keyword is noted where a statement begins, but before a parenthesis. -/
theorem isMutating_scan_query (hw : l.word.capitals ∈ mutatingKeywords)
    (hp : beforeParen l.after = false) (h : (scan l.query).markers = []) :
    (scan l.query).isMutating = true := by
  obtain ⟨earlier, hearlier⟩ := l.scan_reword
  have hnoted : l.word.capitals ∈
      (({} : Scanner).passWord l.word.capitals (beforeParen l.after)).found.keywords := by
    rw [hp]
    simp [Scanner.passWord, Statement.opensWrite, hw, addNew]
  have hfound := mem_keywords_run hnoted 0 l.after
  have hscan : scan l.query = _ := hearlier l.word h
  rw [hscan, Scan.isMutating_merge, Bool.or_eq_true]
  right
  simpa [Scan.isMutating] using List.ne_nil_of_mem hfound

/-- Before a parenthesis a word counts for no more than any other, `WITH` apart. -/
theorem scan_reword_of_paren {w : Word} (hl : l.word.capitals ≠ "WITH") (hw : w.capitals ≠ "WITH")
    (hp : beforeParen l.after = true) (h : (scan l.query).markers = [])
    (h' : (scan (l.reword w).query).markers = []) : scan (l.reword w).query = scan l.query := by
  have passed : ∀ {v : String}, v ≠ "WITH" →
      ({} : Scanner).passWord v true = (({} : Scanner).passWord "" true).called v := by
    intro v hv
    simp [Scanner.passWord, Scanner.called, Statement.word, Statement.opensWrite, hv]
  obtain ⟨earlier, hearlier⟩ := l.scan_reword
  have hscan : scan l.query = _ := hearlier l.word h
  rw [hscan, hearlier w h', hp, passed hl, passed hw, run_called rfl, run_called rfl]

end Lead

/-- A query in which a keyword begins a statement, and no parenthesis opens behind it, is found to
write, so that no declaration with it is accepted that is for reading. With a parenthesis behind it
the keyword is found no more than another word would be. -/
theorem isMutating_of_lead (l : Lead) (hw : l.word.capitals ∈ mutatingKeywords)
    (hm : (scan l.query).markers = []) :
    (beforeParen l.after = false → (scan l.query).isMutating = true
        ∧ ∀ raw mode b warnings q, Binding.parse raw mode = .ok (b, warnings) →
          b.protocol = .sql q → q.query = l.query → q.readOnly = false)
      ∧ (beforeParen l.after = true → ∀ w : Word, w.capitals ≠ "WITH" →
        (scan (l.reword w).query).markers = [] → scan (l.reword w).query = scan l.query) := by
  refine ⟨fun hp => ?_, fun hp w hother hmarkers => ?_⟩
  · have writes : (scan l.query).isMutating = true := l.isMutating_scan_query hw hp hm
    refine ⟨writes, fun raw mode b warnings q hparse hprotocol hquery => ?_⟩
    obtain ⟨-, sound, -⟩ := Binding.parse_ok hparse
    have checked : Sql.Checked q := Sql.checked_of_structuralErrors hprotocol sound
    by_contra hread
    have silent := checked.reads (Bool.not_eq_false _ ▸ hread)
    rw [hquery, writes] at silent
    cases silent
  · have hl : l.word.capitals ≠ "WITH" := by
      rintro h
      rw [h] at hw
      exact absurd hw (by decide)
    exact l.scan_reword_of_paren hl hother hp hm hmarkers

/-- A keyword in small letters behind a comment. The statement before has semicolons in a quotation
and in a comment. -/
def laterDelete : Lead where
  earlier := "SELECT ".toList
    ++ (Form.single.region [';'] ++ (" ".toList ++ (Form.line.region " and;".toList ++ [])))
    ++ [';']
  filler := ' ' :: (Form.block.region " ( ".toList ++ [' '])
  word := ⟨"delete".toList, by decide⟩
  after := ' ' :: "FROM t".toList
  starts :=
    .behind (.append (by decide) (.region .single (by decide) (.append (by decide)
      (.region .line (by decide) .nil))))
  filled := .blank (by decide) (.comment .block (.inr rfl) (by decide) (.blank (by decide) .nil))
  ends := endsWord_cons (by decide) _

/-- The keyword is found: nothing in the statement before or in the comments hides it. -/
theorem isMutating_of_lead_later :
    laterDelete.query = "SELECT ';' -- and;\n; /* ( */ delete FROM t"
      ∧ laterDelete.word.capitals ∈ mutatingKeywords ∧ (scan laterDelete.query).markers = []
      ∧ beforeParen laterDelete.after = false ∧ (scan laterDelete.query).isMutating = true := by
  have hw : laterDelete.word.capitals ∈ mutatingKeywords := by decide
  have hm : (scan laterDelete.query).markers = [] := by decide +kernel
  have hp : beforeParen laterDelete.after = false := by decide
  have writes := ((isMutating_of_lead laterDelete hw hm).1 hp).1
  exact ⟨by decide +kernel, hw, hm, hp, writes⟩

/-- A query that is copied to a file. -/
def copyToFile : Lead where
  earlier := []
  filler := []
  word := ⟨"COPY".toList, by decide⟩
  after := ' ' :: "(SELECT * FROM orders) TO '/tmp/orders.csv'".toList
  starts := .first
  filled := .nil
  ends := endsWord_cons (by decide) _

/-- The keyword is not found, and a declaration with the query is accepted that is for reading. -/
theorem not_isMutating_copyToFile :
    copyToFile.query = "COPY (SELECT * FROM orders) TO '/tmp/orders.csv'"
      ∧ copyToFile.word.capitals ∈ mutatingKeywords ∧ (scan copyToFile.query).markers = []
      ∧ (scan copyToFile.query).isMutating = false
      ∧ (Binding.parse (.ofPairs [("type", .str "sql"), ("connection", .str "$\x7bDB\x7d"),
          ("query", .str copyToFile.query), ("read_only", .bool true)]) .strict).isOk = true := by
  refine ⟨?_, ?_, ?_, ?_, ?_⟩
  · decide +kernel
  · decide
  · decide +kernel
  · decide +kernel
  · decide +kernel

end Toolwire.Query
