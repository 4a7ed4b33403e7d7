import Toolwire.Binding.Check
import Toolwire.Proofs.Query.Running
/-!
# Statements behind `WITH` lists

A statement is read as a tree: a leading word and plain text behind it, and before it perhaps a
`WITH` list whose entries have statements of their own, to any depth. The scanner takes note of
the leading words, but for those behind a list that itself stands in parentheses:
`isMutating_scan`.
-/
namespace Toolwire.Query

open Text

/-! ## Trees -/

/-- Blanks, or nothing. -/
structure Blanks where
  chars : List Char
  blank : chars.all isBlank = true

/-- Blanks between two words. -/
structure Gap extends Blanks where
  nonempty : chars ≠ []

/-- A word that spells a keyword, in small or capital letters. -/
structure Keyword (keyword : String) extends Word where
  spelled : toWord.capitals = keyword

/-- A word that opens no statement. -/
structure Name extends Word where
  free : toWord.capitals ∉ "WITH" :: statementKeywords

/-- What stands behind a leading word. -/
structure Tail where
  chars : List Char
  plain : isPlain chars = true
  apart : EndsWord chars

/-- What stands before the statement of an entry in a `WITH` list, up to the parenthesis. -/
structure Binder where
  name : Name
  gap : Gap
  binds : Keyword "AS"
  before : Blanks
  inside : Blanks

/-- The characters of a binder. -/
def Binder.text (b : Binder) : List Char :=
  b.name.chars ++ (b.gap.chars ++ (b.binds.chars ++ (b.before.chars ++ ('(' :: b.inside.chars))))

mutual

/-- A well-formed statement. -/
inductive Tree where
  | plain (lead : Word) (tail : Tail)
  | listed (opening : Keyword "WITH") (gap : Gap) (entries : Entries) (space : Blanks)
    (lead : Word) (tail : Tail)

/-- An entry of a `WITH` list. -/
inductive Entry where
  | bound (binder : Binder) (body : Tree)

/-- The entries of a `WITH` list, of which there is one at least. -/
inductive Entries where
  | last (entry : Entry)
  | more (entry : Entry) (before after : Blanks) (others : Entries)

end

mutual

/-- The characters of a statement. -/
def Tree.text : Tree → List Char
  | .plain lead tail => lead.chars ++ tail.chars
  | .listed opening gap entries space lead tail =>
    opening.chars ++ (gap.chars ++ (entries.text ++ (space.chars ++ (lead.chars ++ tail.chars))))

/-- The characters of an entry. -/
def Entry.text : Entry → List Char
  | .bound binder body => binder.text ++ (body.text ++ [')'])

/-- The characters of entries. -/
def Entries.text : Entries → List Char
  | .last entry => entry.text
  | .more entry before after others =>
    entry.text ++ (before.chars ++ (',' :: (after.chars ++ others.text)))

end

/-- A statement as a query. -/
def Tree.query (n : Tree) : String := String.ofList n.text

mutual

/-- The leading words of a statement and of all statements in it, in capitals. -/
def Tree.leading : Tree → List String
  | .plain lead _ => [lead.capitals]
  | .listed _ _ entries _ lead _ => entries.leading ++ [lead.capitals]

/-- The leading words in an entry. -/
def Entry.leading : Entry → List String
  | .bound _ body => body.leading

/-- The leading words in entries. -/
def Entries.leading : Entries → List String
  | .last entry => entry.leading
  | .more entry _ _ others => entry.leading ++ others.leading

end

mutual

/-- The leading words that a scan sees. Behind a list it sees one only outside of all
parentheses. -/
def Tree.seen (outermost : Bool) : Tree → List String
  | .plain lead _ => [lead.capitals]
  | .listed _ _ entries _ lead _ => entries.seen ++ if outermost then [lead.capitals] else []

/-- The leading words in an entry that a scan sees. -/
def Entry.seen : Entry → List String
  | .bound _ body => body.seen false

/-- The leading words in entries that a scan sees. -/
def Entries.seen : Entries → List String
  | .last entry => entry.seen
  | .more entry _ _ others => entry.seen ++ others.seen

end

mutual

/-- The leading words that a scan misses: those behind a list that stands in parentheses. -/
def Tree.missed (outermost : Bool) : Tree → List String
  | .plain _ _ => []
  | .listed _ _ entries _ lead _ => entries.missed ++ if outermost then [] else [lead.capitals]

/-- The leading words in an entry that a scan misses. -/
def Entry.missed : Entry → List String
  | .bound _ body => body.missed false

/-- The leading words in entries that a scan misses. -/
def Entries.missed : Entries → List String
  | .last entry => entry.missed
  | .more entry _ _ others => entry.missed ++ others.missed

end

mutual

/-- A leading word is seen or missed. -/
theorem Tree.mem_leading {w : String} (outermost : Bool) :
    (n : Tree) → (w ∈ n.leading ↔ w ∈ n.seen outermost ∨ w ∈ n.missed outermost)
  | .plain lead _ => by simp [Tree.leading, Tree.seen, Tree.missed]
  | .listed _ _ entries _ lead _ => by
    have inside : w ∈ entries.leading ↔ w ∈ entries.seen ∨ w ∈ entries.missed :=
      entries.mem_leading
    simp only [Tree.leading, Tree.seen, Tree.missed, List.mem_append, inside]
    cases outermost
    · simp only [Bool.false_eq_true, if_false, List.not_mem_nil, or_false, or_assoc]
    · simp only [if_true, List.not_mem_nil, or_false]
      tauto

theorem Entry.mem_leading {w : String} :
    (e : Entry) → (w ∈ e.leading ↔ w ∈ e.seen ∨ w ∈ e.missed)
  | .bound _ body => body.mem_leading false

theorem Entries.mem_leading {w : String} :
    (es : Entries) → (w ∈ es.leading ↔ w ∈ es.seen ∨ w ∈ es.missed)
  | .last entry => entry.mem_leading
  | .more entry _ _ others => by
    have first : w ∈ entry.leading ↔ w ∈ entry.seen ∨ w ∈ entry.missed := entry.mem_leading
    have rest : w ∈ others.leading ↔ w ∈ others.seen ∨ w ∈ others.missed := others.mem_leading
    simp only [Entries.leading, Entries.seen, Entries.missed, List.mem_append, first, rest]
    tauto

end

/-! ## What the scanner makes of the parts -/

/-- The keywords that are noted once a word has led a statement. -/
def note (keywords : List String) (word : String) : List String :=
  if mutatingKeywords.contains word then addNew keywords word else keywords

theorem mem_note {keywords : List String} {word w : String} :
    w ∈ note keywords word ↔ w ∈ keywords ∨ w = word ∧ w ∈ mutatingKeywords := by
  unfold note addNew
  by_cases hm : word ∈ mutatingKeywords
  · by_cases hk : word ∈ keywords
    · simp only [List.contains_iff_mem, hm, hk, if_true]
      exact ⟨.inl, fun h => h.elim id fun ⟨hw, _⟩ => hw ▸ hk⟩
    · simp only [List.contains_iff_mem, hm, hk, if_true, if_false, List.mem_append,
        List.mem_singleton]
      exact or_congr_right ⟨fun hw => ⟨hw, hw ▸ hm⟩, And.left⟩
  · simp only [List.contains_iff_mem, hm, if_false]
    exact ⟨.inl, fun h => h.elim id fun ⟨hw, hn⟩ => absurd (hw ▸ hn) hm⟩

theorem mem_foldl_note {words keywords : List String} {w : String} :
    w ∈ words.foldl note keywords ↔ w ∈ keywords ∨ w ∈ words ∧ w ∈ mutatingKeywords := by
  induction words generalizing keywords with
  | nil => simp
  | cons word words ih =>
    rw [List.foldl_cons, ih, mem_note, List.mem_cons]
    tauto

/-- A scanner in code: whether it expects a leading word, whether it is in a `WITH` list, how many
parentheses are open, and what it has noted. -/
structure Scanner.At (s : Scanner) (expecting inList : Bool) (depth : Nat)
    (keywords : List String) : Prop where
  mode : s.mode = .code
  expecting : s.statement.expecting = expecting
  inList : s.statement.inList = inList
  depth : s.statement.depth = depth
  keywords : s.found.keywords = keywords

section
variable {s : Scanner} {expecting inList : Bool} {depth : Nat} {keywords : List String}
  {more : List Char}

theorem Scanner.At.passWord (h : s.At expecting inList depth keywords) (word : String)
    (paren : Bool) :
    (s.passWord word paren).At false
      (if expecting then
        if word = "WITH" then true
        else if statementKeywords.contains word && depth == 0 then false else inList
      else inList) depth
      (if !paren && expecting then note keywords word else keywords) := by
  obtain ⟨hm, rfl, rfl, rfl, rfl⟩ := h
  refine ⟨hm, rfl, rfl, rfl, ?_⟩
  simp only [Scanner.passWord, Statement.opensWrite, note]
  rcases Bool.eq_false_or_eq_true s.statement.expecting with he | he <;> cases paren <;> simp [he]

theorem Scanner.At.keeps {s' : Scanner} (h : s.At expecting inList depth keywords)
    (hk : s.Keeps s') : s'.At expecting inList depth keywords :=
  ⟨hk.mode.trans h.mode, hk.expecting.trans h.expecting, hk.inList.trans h.inList,
    hk.depth.trans h.depth, hk.keywords.trans h.keywords⟩

theorem Blanks.run (b : Blanks) (h : s.At expecting inList depth keywords) :
    run s 0 (b.chars ++ more) = Query.run s 0 more :=
  run_blanks h.mode (List.all_eq_true.1 b.blank)

theorem Blanks.endsWord (b : Blanks) (hm : EndsWord more) : EndsWord (b.chars ++ more) := by
  obtain ⟨chars, blank⟩ := b
  cases chars with
  | nil => exact hm
  | cons c cs =>
    have hb := List.all_eq_true.1 blank c List.mem_cons_self
    exact endsWord_cons (not_isIdentChar_of_isBlank hb) _

theorem Gap.endsWord (g : Gap) : EndsWord (g.chars ++ more) := by
  obtain ⟨⟨chars, blank⟩, nonempty⟩ := g
  cases chars with
  | nil => exact absurd rfl nonempty
  | cons c cs =>
    have hb := List.all_eq_true.1 blank c List.mem_cons_self
    exact endsWord_cons (not_isIdentChar_of_isBlank hb) _

theorem Tail.endsWord (t : Tail) (hc : Closes more) : EndsWord (t.chars ++ more) := by
  obtain ⟨chars, plain, apart⟩ := t
  cases chars with
  | nil => exact hc.endsWord
  | cons c cs => exact fun d hd => apart d hd

theorem beforeParen_plain {cs : List Char} (hp : isPlain cs = true) (hc : Closes more) :
    beforeParen (cs ++ more) = false := by
  unfold beforeParen
  induction cs with
  | nil =>
    cases more with
    | nil => rfl
    | cons c more =>
      obtain rfl := hc c rfl
      rfl
  | cons c cs ih =>
    obtain ⟨hd, -, -, -, hcs⟩ := isPlain_cons.1 hp
    rw [List.cons_append, List.find?_cons]
    split
    · have hne : c ≠ '(' := fun he => hd (by rw [he]; decide)
      simpa using hne
    · exact ih hcs

/-- A leading word is noted where one is expected. -/
theorem run_lead (lead : Word) (tail : Tail) (hc : Closes more)
    (h : s.At expecting inList depth keywords) :
    ∃ s' inList', run s 0 (lead.chars ++ (tail.chars ++ more)) = run s' 0 more
      ∧ s'.At false inList' depth (if expecting then note keywords lead.capitals else keywords)
      ∧ (depth ≠ 0 → inList = true → inList' = true) := by
  have passed := h.passWord lead.capitals false
  obtain ⟨s', hrun, hk⟩ := run_plain tail.plain hc (Nat.zero_le _) passed.mode passed.expecting
  refine ⟨s', _, ?_, passed.keeps hk, ?_⟩
  · rw [run_word h.mode lead (tail.endsWord hc), beforeParen_plain tail.plain hc, hrun]
  · intro hd hl
    have inside : (depth == 0) = false := beq_eq_false_iff_ne.2 hd
    simp only [inside, hl, Bool.and_false, Bool.false_eq_true, if_false, ite_self]

/-- A word that opens no writing statement is not noted. -/
theorem run_silent (w : Word) (hw : w.capitals ∉ mutatingKeywords) (he : EndsWord more)
    (h : s.At expecting inList depth keywords) :
    ∃ s', run s 0 (w.chars ++ more) = run s' 0 more
      ∧ s'.At false
        (if expecting then
          if w.capitals = "WITH" then true
          else if statementKeywords.contains w.capitals && depth == 0 then false else inList
        else inList) depth keywords
      ∧ s'.statement.lastWord = w.capitals := by
  have passed := h.passWord w.capitals (beforeParen more)
  have silent : note keywords w.capitals = keywords := by
    simp only [note, List.contains_iff_mem, hw, if_false]
  rw [silent, ite_self] at passed
  exact ⟨_, run_word h.mode w he, passed, rfl⟩

theorem run_opening (opening : Keyword "WITH") (gap : Gap) (more : List Char)
    (h : s.At true inList depth keywords) :
    ∃ s', run s 0 (opening.chars ++ (gap.chars ++ more)) = run s' 0 more
      ∧ s'.At false true depth keywords := by
  have hw : opening.capitals ∉ mutatingKeywords := by
    rw [opening.spelled]
    decide
  obtain ⟨s', hrun, h', -⟩ := run_silent opening.toWord hw gap.endsWord h
  rw [if_pos rfl, if_pos opening.spelled] at h'
  exact ⟨s', by rw [hrun, gap.run h'], h'⟩

theorem run_name (name : Name) (he : EndsWord more) (h : s.At expecting true depth keywords) :
    ∃ s', run s 0 (name.chars ++ more) = run s' 0 more ∧ s'.At false true depth keywords := by
  obtain ⟨w, free⟩ := name
  rw [List.mem_cons, not_or] at free
  obtain ⟨hw, hs⟩ := free
  obtain ⟨s', hrun, h', -⟩ := run_silent w (fun hm => hs (List.mem_append_right _ hm)) he h
  refine ⟨s', hrun, ?_⟩
  simpa only [hw, List.contains_eq_mem, hs, decide_false, Bool.false_and, Bool.false_eq_true,
    if_false, ite_self] using h'

/-- Behind `AS` a parenthesis opens a statement. -/
theorem run_open (more : List Char) (h : s.At false true depth keywords)
    (hw : s.statement.lastWord = "AS") :
    ∃ s', run s 0 ('(' :: more) = run s' 0 more ∧ s'.At true true (depth + 1) keywords := by
  refine ⟨_, run_openParen h.mode, h.mode, ?_, h.inList, ?_, h.keywords⟩
  · simp [Statement.openParen, h.inList, hw]
  · simp [Statement.openParen, h.depth]

theorem run_binder (b : Binder) (more : List Char) (h : s.At expecting true depth keywords) :
    ∃ s', run s 0 (b.text ++ more) = run s' 0 more ∧ s'.At true true (depth + 1) keywords := by
  have apart : EndsWord (b.before.chars ++ ('(' :: (b.inside.chars ++ more))) :=
    b.before.endsWord (endsWord_cons (by decide) _)
  have hw : b.binds.capitals ∉ mutatingKeywords := by
    rw [b.binds.spelled]
    decide
  obtain ⟨s₁, hrun₁, h₁⟩ := run_name b.name b.gap.endsWord h
  obtain ⟨s₂, hrun₂, h₂, hlast⟩ := run_silent b.binds.toWord hw apart h₁
  obtain ⟨s₃, hrun₃, h₃⟩ := run_open (b.inside.chars ++ more) h₂ (hlast.trans b.binds.spelled)
  refine ⟨s₃, ?_, h₃⟩
  simp only [Binder.text, List.append_assoc, List.cons_append]
  rw [hrun₁, b.gap.run h₁, hrun₂, b.before.run h₂, hrun₃, b.inside.run h₃]

/-- Behind an entry a leading word is expected outside of all parentheses only. -/
theorem run_close (more : List Char) (h : s.At false true (depth + 1) keywords) :
    ∃ s', run s 0 (')' :: more) = run s' 0 more ∧ s'.At (depth == 0) true depth keywords := by
  refine ⟨_, run_closeParen h.mode, h.mode, ?_, h.inList, ?_, h.keywords⟩
  · simp [Statement.closeParen, h.expecting, h.inList, h.depth]
  · simp [Statement.closeParen, h.depth]

theorem run_comma (before after : Blanks) (h : s.At expecting inList depth keywords) :
    run s 0 (before.chars ++ (',' :: (after.chars ++ more))) = run s 0 more := by
  have comma : IsIdle ',' := by unfold IsIdle; decide
  rw [before.run h, run_idle h.mode comma, after.run h]

end

/-! ## What the scanner makes of trees

The induction is on the tree, at any depth of parentheses. What carries it is that the scanner
stays in a list while parentheses are open, so that it expects a word behind `AS (` and does not
expect one behind an entry.
-/

mutual

/-- A statement is passed with the leading words noted that are seen in it. -/
theorem Tree.run : (n : Tree) → (more : List Char) → {s : Scanner} → {inList : Bool} →
    {depth : Nat} → {keywords : List String} → s.At true inList depth keywords →
    (depth ≠ 0 → inList = true) → Closes more →
    ∃ s' inList', Query.run s 0 (n.text ++ more) = Query.run s' 0 more
      ∧ s'.At false inList' depth ((n.seen (depth == 0)).foldl note keywords)
      ∧ (depth ≠ 0 → inList' = true)
  | .plain lead tail, more, s, inList, depth, keywords, h, hl, hc => by
    obtain ⟨s', inList', hrun, h', hl'⟩ := run_lead lead tail hc h
    refine ⟨s', inList', ?_, h', fun hd => hl' hd (hl hd)⟩
    rw [Tree.text, List.append_assoc, hrun]
  | .listed opening gap entries space lead tail, more, s, inList, depth, keywords, h, hl, hc => by
    obtain ⟨s₁, hrun₁, h₁⟩ := run_opening opening gap
      (entries.text ++ (space.chars ++ (lead.chars ++ (tail.chars ++ more)))) h
    obtain ⟨s₂, hrun₂, h₂⟩ := entries.run
      (space.chars ++ (lead.chars ++ (tail.chars ++ more))) h₁
    obtain ⟨s₃, inList₃, hrun₃, h₃, hl₃⟩ := run_lead lead tail hc h₂
    refine ⟨s₃, inList₃, ?_, ?_, fun hd => hl₃ hd rfl⟩
    · simp only [Tree.text, List.append_assoc]
      rw [hrun₁, hrun₂, space.run h₂, hrun₃]
    -- Only outside of all parentheses does the list leave the scanner expecting a word.
    · rw [Tree.seen, List.foldl_append]
      cases hd : depth == 0 <;> rw [hd] at h₃ <;> exact h₃

theorem Entry.run : (e : Entry) → (more : List Char) → {s : Scanner} → {expecting : Bool} →
    {depth : Nat} → {keywords : List String} → s.At expecting true depth keywords →
    ∃ s', Query.run s 0 (e.text ++ more) = Query.run s' 0 more
      ∧ s'.At (depth == 0) true depth (e.seen.foldl note keywords)
  | .bound binder body, more, s, expecting, depth, keywords, h => by
    have closes : Closes (')' :: more) := fun c hc => (Option.some.inj hc).symm
    obtain ⟨s₁, hrun₁, h₁⟩ := run_binder binder (body.text ++ (')' :: more)) h
    obtain ⟨s₂, inList₂, hrun₂, h₂, hl₂⟩ := body.run (')' :: more) h₁ (fun _ => rfl) closes
    rw [hl₂ (Nat.succ_ne_zero depth)] at h₂
    obtain ⟨s₃, hrun₃, h₃⟩ := run_close more h₂
    refine ⟨s₃, ?_, h₃⟩
    simp only [Entry.text, List.append_assoc, List.cons_append, List.nil_append]
    rw [hrun₁, hrun₂, hrun₃]

theorem Entries.run : (es : Entries) → (more : List Char) → {s : Scanner} → {expecting : Bool} →
    {depth : Nat} → {keywords : List String} → s.At expecting true depth keywords →
    ∃ s', Query.run s 0 (es.text ++ more) = Query.run s' 0 more
      ∧ s'.At (depth == 0) true depth (es.seen.foldl note keywords)
  | .last entry, more, _, _, _, _, h => entry.run more h
  | .more entry before after others, more, s, expecting, depth, keywords, h => by
    obtain ⟨s₁, hrun₁, h₁⟩ :=
      entry.run (before.chars ++ (',' :: (after.chars ++ (others.text ++ more)))) h
    obtain ⟨s₂, hrun₂, h₂⟩ := others.run more h₁
    refine ⟨s₂, ?_, ?_⟩
    · simp only [Entries.text, List.append_assoc, List.cons_append]
      rw [hrun₁, run_comma before after h₁, hrun₂]
    · rw [Entries.seen, List.foldl_append]
      exact h₂

end

theorem keywords_scan (n : Tree) : (scan n.query).keywords = (n.seen true).foldl note [] := by
  have start : Scanner.At {} true false 0 [] := ⟨rfl, rfl, rfl, rfl, rfl⟩
  obtain ⟨s', inList', hrun, h', -⟩ := n.run [] start (fun hd => absurd rfl hd) nofun
  rw [List.append_nil] at hrun
  rw [scan, scanChars, Tree.query, String.toList_ofList, hrun]
  exact h'.keywords

/-- A statement is taken for a write when a leading word that is seen in it opens one. -/
theorem isMutating_scan (n : Tree) :
    ((scan n.query).isMutating = true ↔ ∃ w ∈ n.seen true, w ∈ mutatingKeywords)
      ∧ ∀ w, w ∈ n.leading ↔ w ∈ n.seen true ∨ w ∈ n.missed true := by
  refine ⟨?_, fun w => n.mem_leading true⟩
  have noted : ∀ w, w ∈ (scan n.query).keywords ↔ w ∈ n.seen true ∧ w ∈ mutatingKeywords := by
    intro w
    rw [keywords_scan, mem_foldl_note]
    simp
  simp only [Scan.isMutating, Bool.not_eq_true', List.isEmpty_eq_false_iff_exists_mem, noted]

/-- A list in parentheses with a `DELETE` behind it. -/
def nestedDelete : Tree :=
  let gap : Gap := ⟨⟨[' '], rfl⟩, nofun⟩
  let opening : Keyword "WITH" := ⟨⟨"WITH".toList, by decide⟩, by decide⟩
  let binder (name : Name) : Binder :=
    ⟨name, gap, ⟨⟨"AS".toList, by decide⟩, by decide⟩, gap.toBlanks, ⟨[], rfl⟩⟩
  let select : Word := ⟨"SELECT".toList, by decide⟩
  let one : Tail := ⟨gap.chars ++ "1".toList, by decide, gap.endsWord⟩
  let delete : Word := ⟨"DELETE".toList, by decide⟩
  let rows : Tail := ⟨gap.chars ++ "FROM t RETURNING id".toList, by decide +kernel, gap.endsWord⟩
  let inner : Tree :=
    .listed opening gap (.last (.bound (binder ⟨⟨['b'], by decide⟩, by decide⟩)
      (.plain select one))) gap.toBlanks delete rows
  .listed opening gap (.last (.bound (binder ⟨⟨['a'], by decide⟩, by decide⟩) inner))
    gap.toBlanks select one

/-- A `DELETE` that is missed, in a query that is not taken for a write and that a read-only
declaration may have. -/
theorem isMutating_scan_nestedDelete :
    nestedDelete.query = "WITH a AS (WITH b AS (SELECT 1) DELETE FROM t RETURNING id) SELECT 1"
      ∧ "DELETE" ∈ nestedDelete.leading ∧ "DELETE" ∈ mutatingKeywords
      ∧ (scan nestedDelete.query).isMutating = false
      ∧ (Binding.check (.ofPairs [("type", .str "sql"), ("connection", .str "$\x7bDB\x7d"),
          ("query", .str nestedDelete.query), ("read_only", .bool true)]) .strict).errors = [] := by
  refine ⟨?_, ?_, ?_, ?_, ?_⟩
  · decide +kernel
  · decide +kernel
  · decide
  · decide +kernel
  · decide +kernel

end Toolwire.Query
