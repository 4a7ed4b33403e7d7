import Mathlib
import Toolwire.Proofs.Query.Interpolation
/-!
# Regions

A region is a quotation or a comment with its content. A scan in code passes a region without
taking note of anything in it, and goes on behind it as it came to it. So what a region holds does
not matter: `scan_region`.
-/
namespace Toolwire.Query

open Text

theorem Scanner.eq_of_code {s : Scanner} (hm : s.mode = .code) : { s with mode := .code } = s := by
  rw [← hm]

namespace Form

/-- The characters of a region. -/
def region (form : Form) (content : List Char) : List Char :=
  form.opening ++ (content ++ form.closing)

/-- Content that does not end its region, and in which no marker begins. -/
structure Content (form : Form) (content : List Char) : Prop where
  noBrace : '{' ∉ content
  noPercent : '%' ∉ content
  noClosing : ¬ form.closing <:+: content

/-! ## The ends of a region -/

section
variable {s : Scanner} (form : Form) (more : List Char)

theorem run_opening (hm : s.mode = .code) :
    run s 0 (form.opening ++ more) = run { s with mode := form.mode } 0 more := by
  obtain ⟨mode, statement, found⟩ := s
  obtain rfl : mode = .code := hm
  cases form <;> rfl

/-- A quote behind a quotation begins one that goes on with it, so that it does not matter that a
scan takes both quotes for one in the quotation. -/
theorem run_closing :
    run { s with mode := form.mode } 0 (form.closing ++ more) =
      run { s with mode := .code } 0 more := by
  cases form with
  | single =>
    cases more with
    | nil => rfl
    | cons d more =>
      by_cases hd : d = '\''
      · subst hd
        rfl
      · have hlex : lex .singleQuoted '\'' (d :: more) = (.enter .code, 0) := by
          simp [lex, marker?_eq_none (c := '\'') (by decide), hd]
        change run { s with mode := .singleQuoted } 0 ('\'' :: d :: more) = _
        rw [run_cons, hlex]
        rfl
  | double => rfl
  | line => rfl
  | block => rfl

end

/-! ## Over a region -/

section
variable {form : Form} {content more : List Char} {s : Scanner}

/-- The end of a region does not stand across its content and what follows. -/
theorem not_closing_of_cons {c : Char} {cs : List Char} (h : ¬ form.closing <:+: c :: cs) :
    ¬ form.closing <+: c :: (cs ++ (form.closing ++ more)) := by
  intro hp
  have first : ∀ {d : Char}, [d] <+: c :: (cs ++ (form.closing ++ more)) → [d] <:+: c :: cs := by
    intro d hd
    rw [(List.cons_prefix_cons.1 hd).1]
    exact ⟨[], cs, rfl⟩
  cases form with
  | single => exact h (first hp)
  | double => exact h (first hp)
  | line => exact h (first hp)
  | block =>
    obtain ⟨hc, hp⟩ := List.cons_prefix_cons.1 hp
    cases cs with
    | nil => exact absurd (List.cons_prefix_cons.1 hp).1 (by decide)
    | cons d cs => exact h ⟨[], cs, by rw [← hc, ← (List.cons_prefix_cons.1 hp).1]; rfl⟩

theorem lex_content {c : Char} {rest : List Char} (hn : marker? c rest = none)
    (h : ¬ form.closing <+: c :: rest) : lex form.mode c rest = (.idle, 0) := by
  have first : ∀ {d : Char}, ¬ [d] <+: c :: rest → c ≠ d := by
    rintro d hd rfl
    exact hd ⟨rest, rfl⟩
  unfold lex
  rw [hn]
  cases form with
  | single => simp [mode, first h]
  | double => simp [mode, first h]
  | line => simp [mode, first h]
  | block =>
    have hpair : ¬ (c = '*' ∧ rest.head? = some '/') := by
      rintro ⟨rfl, hr⟩
      exact h (prefix_pair hr)
    simp [mode, hpair]

theorem run_content (hu : Unmarked content (form.closing ++ more))
    (hc : ¬ form.closing <:+: content) :
    run { s with mode := form.mode } 0 (content ++ (form.closing ++ more)) =
      run { s with mode := .code } 0 more := by
  induction content with
  | nil => exact run_closing form more
  | cons c cs ih =>
    have hlex : lex form.mode c (cs ++ (form.closing ++ more)) = (.idle, 0) :=
      lex_content hu.1 (not_closing_of_cons hc)
    rw [List.cons_append, run_cons, hlex]
    exact ih hu.2 fun hi => hc (List.infix_cons hi)

theorem run_region (hm : s.mode = .code) (hu : Unmarked content (form.closing ++ more))
    (hc : ¬ form.closing <:+: content) :
    run s 0 (form.region content ++ more) = run s 0 more := by
  rw [region, List.append_assoc, List.append_assoc, run_opening form _ hm, run_content hu hc,
    Scanner.eq_of_code hm]

theorem unmarked_region {cs : List Char} (hu : Unmarked (form.region content ++ cs) more) :
    Unmarked content (form.closing ++ (cs ++ more)) ∧ Unmarked cs more := by
  obtain ⟨hregion, hrest⟩ := unmarked_append.1 hu
  exact ⟨(unmarked_append.1 (unmarked_append.1 hregion).2).1, hrest⟩

end

/-! ## Behind other text -/

theorem border_opening (form : Form) : ∃ o tail, form.opening = o :: tail ∧ Border o := by
  cases form with
  | single => exact ⟨_, _, rfl, by decide, by decide, by decide, by decide⟩
  | double => exact ⟨_, _, rfl, by decide, by decide, by decide, by decide⟩
  | line => exact ⟨_, _, rfl, by decide, by decide, by decide, by decide⟩
  | block => exact ⟨_, _, rfl, by decide, by decide, by decide, by decide⟩

/-- A region behind a text that ends in code is passed as if a scan started there. -/
theorem run_append_region {form : Form} {before content : List Char}
    (hbrace : '{' ∉ before) (hpercent : '%' ∉ before)
    (hquote : before.getLast? ≠ some '\'') (hcode : (run {} 0 before).mode = .code)
    (hc : form.Content content) (more : List Char) :
    run {} 0 (before ++ (form.region content ++ more)) = run (run {} 0 before) 0 more := by
  have hu : Unmarked content (form.closing ++ more) :=
    unmarked_of_not_mem hc.noPercent hc.noBrace
  have hkeep : KeepsMarkers before :=
    ⟨hbrace, fun hi => hpercent (hi.subset List.mem_cons_self)⟩
  obtain ⟨o, tail, ho, hborder⟩ := form.border_opening
  have hsplit : form.region content ++ more =
      o :: (tail ++ (content ++ (form.closing ++ more))) := by
    simp only [region, ho, List.append_assoc, List.cons_append]
  have hregion := run_region hcode hu hc.noClosing
  rw [hsplit] at hregion ⊢
  rcases run_append_border (hkeep.steady hborder) hborder {} (Nat.zero_le _) with
    hrun | ⟨rfl, hrun⟩ | ⟨rfl, hlast⟩ | ⟨rfl, hmode⟩
  · rw [hrun, hregion]
  -- The dash at the end of the text begins the comment, and the second dash of the region is in it.
  · obtain ⟨rfl, rfl⟩ : form = .line ∧ tail = ['-'] := by
      cases form with
      | line => exact ⟨rfl, (List.cons.inj ho).2.symm⟩
      | _ => exact absurd (List.cons.inj ho).1 (by decide)
    have hdash : ¬ line.closing <:+: '-' :: content := by
      rw [List.infix_cons_iff, not_or]
      exact ⟨fun hp => absurd (List.cons_prefix_cons.1 hp).1 (by decide), hc.noClosing⟩
    have hu' : Unmarked ('-' :: content) (line.closing ++ more) :=
      ⟨marker?_eq_none (by decide), hu⟩
    rw [hrun, List.cons_append, List.nil_append]
    exact (run_content hu' hdash).trans (by rw [Scanner.eq_of_code hcode])
  · exact absurd hlast hquote
  · rw [hcode] at hmode
    cases hmode

end Form

/-- A region as text. -/
def Form.text (form : Form) (content : String) : String :=
  String.ofList (form.region content.toList)

/-- What stands in quotations and comments does not matter: behind a text without markers that
ends in code, and not with a quote, two regions of one form lead to the same findings, whatever
follows. -/
theorem scan_region {form : Form} {before x y : String} (hbrace : '{' ∉ before.toList)
    (hpercent : '%' ∉ before.toList) (hquote : before.toList.getLast? ≠ some '\'')
    (hcode : (run {} 0 before.toList).mode = .code) (hx : form.Content x.toList)
    (hy : form.Content y.toList) (after : String) :
    scan (before ++ form.text x ++ after) = scan (before ++ form.text y ++ after) := by
  have passed : ∀ {z : String}, form.Content z.toList →
      scan (before ++ form.text z ++ after) =
        (run (run {} 0 before.toList) 0 after.toList).found := by
    intro z hz
    have htext : (before ++ form.text z ++ after).toList =
        before.toList ++ (form.region z.toList ++ after.toList) := by
      simp only [Form.text, String.toList_append, String.toList_ofList, List.append_assoc]
    rw [scan, scanChars, htext, Form.run_append_region hbrace hpercent hquote hcode hz]
  rw [passed hx, passed hy]

/-- A comment that a dash before it begins, with all that would count in code. -/
theorem scan_region_dash :
    '{' ∉ "WITH a AS (SELECT 1) -".toList ∧ '%' ∉ "WITH a AS (SELECT 1) -".toList
      ∧ "WITH a AS (SELECT 1) -".toList.getLast? ≠ some '\''
      ∧ (run {} 0 "WITH a AS (SELECT 1) -".toList).mode = .code
      ∧ Form.line.Content " :p; DROP ('?".toList ∧ Form.line.Content "".toList
      ∧ scan ("WITH a AS (SELECT 1) -" ++ Form.line.text " :p; DROP ('?" ++ "DELETE FROM t")
        = { keywords := ["DELETE"] } := by
  have hbrace : '{' ∉ "WITH a AS (SELECT 1) -".toList := by decide
  have hpercent : '%' ∉ "WITH a AS (SELECT 1) -".toList := by decide
  have hquote : "WITH a AS (SELECT 1) -".toList.getLast? ≠ some '\'' := by decide
  have hcode : (run {} 0 "WITH a AS (SELECT 1) -".toList).mode = .code := by decide
  have hx : Form.line.Content " :p; DROP ('?".toList := ⟨by decide, by decide, by decide⟩
  have hy : Form.line.Content "".toList := ⟨by decide, by decide, by decide⟩
  refine ⟨hbrace, hpercent, hquote, hcode, hx, hy, ?_⟩
  rw [scan_region hbrace hpercent hquote hcode hx hy]
  decide

end Toolwire.Query
