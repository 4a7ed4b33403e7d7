import Mathlib
import Toolwire.Proofs.Query.Seam
/-!
# Statements of one query

What a scan finds is only ever added to what it has found before, and no token of a statement
looks past the semicolon behind it. So behind a semicolon in code a query is scanned as if nothing
stood before it, and what it holds is what its statements hold: `scan_semicolon`.
-/
namespace Toolwire.Query

open Text

/-! ## What two scans find -/

/-- The items of a list and those of another one that it lacks. -/
def unite (items more : List String) : List String :=
  items ++ more.filter fun item => !items.contains item

theorem mem_unite {items more : List String} {item : String} :
    item ∈ unite items more ↔ item ∈ items ∨ item ∈ more := by
  simp only [unite, List.mem_append, List.mem_filter, Bool.not_eq_true', List.contains_eq_mem,
    decide_eq_false_iff_not]
  tauto

theorem unite_nil (items : List String) : unite items [] = items := List.append_nil items

/-- An item that is new to both lists stands last in the second one. -/
theorem addNew_unite (items more : List String) (item : String) :
    addNew (unite items more) item = unite items (addNew more item) := by
  by_cases hmore : item ∈ more
  · have hmem : item ∈ unite items more := mem_unite.2 (.inr hmore)
    simp only [addNew, List.contains_iff_mem.2 hmore, List.contains_iff_mem.2 hmem, if_true]
  · have hlack : addNew more item = more ++ [item] := by simp [addNew, hmore]
    have hunite : unite items (more ++ [item]) =
        unite items more ++ [item].filter fun item => !items.contains item := by
      simp only [unite, List.filter_append, List.append_assoc]
    rw [hlack, hunite]
    by_cases hitems : item ∈ items
    · have hmem : item ∈ unite items more := mem_unite.2 (.inl hitems)
      simp [addNew, hmem, hitems]
    · have hmem : item ∉ unite items more := fun h => (mem_unite.1 h).elim hitems hmore
      simp [addNew, hmem, hitems]

/-- What a scan finds behind what was found before it. -/
def Scan.merge (earlier later : Scan) : Scan where
  placeholders := unite earlier.placeholders later.placeholders
  markers := earlier.markers ++ later.markers
  keywords := unite earlier.keywords later.keywords

theorem Scan.merge_empty (earlier : Scan) : earlier.merge {} = earlier := by
  simp only [merge, unite_nil, List.append_nil]

theorem Scan.empty_merge (later : Scan) : merge {} later = later := by
  simp [merge, unite]

theorem Scan.isMutating_merge (earlier later : Scan) :
    (earlier.merge later).isMutating = (earlier.isMutating || later.isMutating) := by
  obtain ⟨_, _, keywords⟩ := earlier
  cases keywords with
  | nil => simp [isMutating, merge, unite]
  | cons keyword keywords => rfl

/-- A scanner that had found something before it started. -/
def Scanner.behind (s : Scanner) (earlier : Scan) : Scanner :=
  { s with found := earlier.merge s.found }

section
variable (s : Scanner) (earlier : Scan)

theorem Scanner.pass_behind (t : Token) :
    (s.behind earlier).pass t = (s.pass t).behind earlier := by
  cases t with
  | idle => rfl
  | enter mode => rfl
  | placeholder name =>
    simp only [pass, behind, Scan.merge, addNew_unite]
  | marker text =>
    simp only [pass, behind, Scan.merge, List.append_assoc]
  | semicolon => rfl
  | openParen => rfl
  | closeParen => rfl
  | word capitals beforeParen =>
    simp only [pass, passWord, behind, Scan.merge, addNew_unite,
      apply_ite (unite earlier.keywords)]

/-- What was found earlier changes nothing in what is found later. -/
theorem run_behind (skip : Nat) (cs : List Char) :
    run (s.behind earlier) skip cs = (run s skip cs).behind earlier := by
  induction cs generalizing s skip with
  | nil => rfl
  | cons c cs ih =>
    cases skip with
    | succ skip => exact ih s skip
    | zero =>
      rw [run_cons, run_cons, Scanner.pass_behind]
      exact ih _ _

end

/-! ## Text before a semicolon -/

theorem run_append_semicolon {cs more : List Char} (h : Steady cs (';' :: more)) (s : Scanner)
    {skip : Nat} (hskip : skip ≤ cs.length) :
    run s skip (cs ++ ';' :: more) = run (run s skip cs) 0 (';' :: more) := by
  rcases run_append_border h border_semicolon s hskip with
    hrun | ⟨hdash, -⟩ | ⟨hquote, -⟩ | ⟨hslash, -⟩
  · exact hrun
  · exact absurd hdash (by decide)
  · exact absurd hquote (by decide)
  · exact absurd hslash (by decide)

theorem run_semicolon {s : Scanner} (hm : s.mode = .code) (more : List Char) :
    run s 0 (';' :: more) = run { s with statement := {} } 0 more := by
  have hlex : lex s.mode ';' more = (.semicolon, 0) := by rw [hm]; rfl
  rw [run_cons, hlex, Scanner.pass]

/-- Behind a semicolon in code a scan starts anew, with what it has found. -/
theorem run_of_steady {cs more : List Char} (h : Steady cs (';' :: more))
    (hm : (run {} 0 cs).mode = .code) :
    run {} 0 (cs ++ ';' :: more) = (run {} 0 more).behind (run {} 0 cs).found := by
  have hstart : { run {} 0 cs with statement := {} } =
      ({} : Scanner).behind (run {} 0 cs).found := by
    simp only [Scanner.behind, Scan.merge_empty, hm]
  rw [run_append_semicolon h {} (Nat.zero_le _), run_semicolon hm, hstart, run_behind]

theorem run_of_code {cs : List Char} (h : KeepsMarkers cs) (hm : (run {} 0 cs).mode = .code)
    (more : List Char) :
    run {} 0 (cs ++ ';' :: more) = (run {} 0 more).behind (run {} 0 cs).found :=
  run_of_steady (h.steady border_semicolon) hm

/-- Where a text ends in code and opens no interpolation in braces or parentheses, a query that
goes on behind a semicolon holds what both parts hold: neither hides a write, a placeholder or a
marker of the other. -/
theorem scan_semicolon (a b : String) (hbrace : '{' ∉ a.toList)
    (hparen : ¬ ['%', '('] <:+: a.toList) (hcode : (run {} 0 a.toList).mode = .code) :
    scan (a ++ ";" ++ b) = (scan a).merge (scan b)
      ∧ (scan (a ++ ";" ++ b)).isMutating = ((scan a).isMutating || (scan b).isMutating)
      ∧ (∀ name, name ∈ (scan (a ++ ";" ++ b)).placeholders ↔
          name ∈ (scan a).placeholders ∨ name ∈ (scan b).placeholders)
      ∧ (∀ marker, marker ∈ (scan (a ++ ";" ++ b)).markers ↔
          marker ∈ (scan a).markers ∨ marker ∈ (scan b).markers)
      ∧ (∀ keyword, keyword ∈ (scan (a ++ ";" ++ b)).keywords ↔
          keyword ∈ (scan a).keywords ∨ keyword ∈ (scan b).keywords) := by
  have htext : (a ++ ";" ++ b).toList = a.toList ++ ';' :: b.toList := by
    simp [String.toList_append]
  have hscan : scan (a ++ ";" ++ b) = (scan a).merge (scan b) := by
    rw [scan, scanChars, htext, run_of_code ⟨hbrace, hparen⟩ hcode]
    rfl
  rw [hscan]
  exact ⟨rfl, Scan.isMutating_merge _ _, fun _ => mem_unite, fun _ => List.mem_append,
    fun _ => mem_unite⟩

/-- A semicolon in quotes ends no statement, and a placeholder is found once. -/
theorem scan_insert_delete :
    '{' ∉ "INSERT INTO t VALUES (:v, '%s;:w')".toList
      ∧ ¬ ['%', '('] <:+: "INSERT INTO t VALUES (:v, '%s;:w')".toList
      ∧ (run {} 0 "INSERT INTO t VALUES (:v, '%s;:w')".toList).mode = .code
      ∧ scan ("INSERT INTO t VALUES (:v, '%s;:w')" ++ ";" ++ "WITH x AS (DELETE FROM u) TABLE x")
        = { placeholders := ["v"], markers := ["%s"], keywords := ["INSERT", "DELETE"] } := by
  have hbrace : '{' ∉ "INSERT INTO t VALUES (:v, '%s;:w')".toList := by decide
  have hparen : ¬ ['%', '('] <:+: "INSERT INTO t VALUES (:v, '%s;:w')".toList := by decide
  have hcode : (run {} 0 "INSERT INTO t VALUES (:v, '%s;:w')".toList).mode = .code := by decide
  refine ⟨hbrace, hparen, hcode, ?_⟩
  rw [(scan_semicolon _ _ hbrace hparen hcode).1]
  decide

end Toolwire.Query
