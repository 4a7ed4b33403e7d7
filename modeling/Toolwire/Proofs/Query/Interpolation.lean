import Mathlib
import Toolwire.Proofs.Query.Separator
/-!
# Interpolation

A scan passes several characters at a time, but the first character of a marker is never among
those that it passes with another one, in whatever mode. So a query without markers has no
interpolation anywhere: `uninterpolated_of_markers`.
-/
namespace Toolwire.Query

open Text

/-! ## What a token passes -/

section
variable {c d : Char} {rest : List Char} {mode : Mode}

theorem eq_of_mem_take_one {x : Char} (hx : rest.head? = some x) (hd : d ∈ rest.take 1) :
    d = x := by
  cases rest with
  | nil => cases hd
  | cons e rest =>
    obtain rfl := Option.some.inj hx
    exact List.mem_singleton.1 hd

theorem isIdentChar_of_mem_take
    (hd : d ∈ rest.take (rest.takeWhile isIdentChar).length) : isIdentChar d = true := by
  rw [← List.prefix_iff_eq_take.1 (List.takeWhile_prefix isIdentChar)] at hd
  exact List.mem_takeWhile_imp hd

theorem eq_of_mem_opening {form : Form} (h : form.opening <+: c :: rest)
    (hd : d ∈ rest.take (form.opening.length - 1)) : d = '-' ∨ d = '*' := by
  cases form with
  | single => cases hd
  | double => cases hd
  | line =>
    obtain ⟨behind, rfl⟩ := (List.cons_prefix_cons.1 h).2
    exact .inl (List.mem_singleton.1 hd)
  | block =>
    obtain ⟨behind, rfl⟩ := (List.cons_prefix_cons.1 h).2
    exact .inr (List.mem_singleton.1 hd)

/-- Besides its first character a token has those of a name, or the second one of a pair. -/
theorem passed_of_lex (hn : marker? c rest = none) (hd : d ∈ rest.take (lex mode c rest).2) :
    isIdentChar d = true ∨ d ∈ ['-', '*', ':', '\'', '/'] := by
  rcases lex_cases hn mode with ⟨-, course⟩ | ⟨-, course⟩
  · generalize lex mode c rest = token at course hd
    cases course with
    | opening form h => rcases eq_of_mem_opening h hd with rfl | rfl <;> exact .inr (by decide)
    | cast hc h =>
      rw [eq_of_mem_take_one h hd]
      exact .inr (by decide)
    | placeholder hc h => exact .inl (isIdentChar_of_mem_take hd)
    | word h => exact .inl (isIdentChar_of_mem_take hd)
    | _ => cases hd
  · generalize lex mode c rest = token at course hd
    cases course with
    | doubled h =>
      rw [eq_of_mem_take_one h hd]
      exact .inr (by decide)
    | closingPair h =>
      rw [eq_of_mem_take_one h hd]
      exact .inr (by decide)
    | _ => cases hd

/-- No marker begins within a token. -/
theorem not_marker_of_passed (hn : marker? c rest = none)
    (hd : d ∈ rest.take (lex mode c rest).2) : d ∉ ['%', '{'] := by
  intro hs
  have hmark : d = '%' ∨ d = '{' := by simpa using hs
  rcases passed_of_lex hn hd with hi | hp
  · rcases hmark with rfl | rfl <;> exact absurd hi (by decide)
  · rcases hmark with rfl | rfl <;> exact absurd hp (by decide)

end

/-! ## Text without markers -/

/-- No marker begins in a text that has other text behind it. -/
def Unmarked : List Char → List Char → Prop
  | [], _ => True
  | c :: cs, more => marker? c (cs ++ more) = none ∧ Unmarked cs more

section
variable {cs ds more : List Char}

theorem unmarked_append :
    Unmarked (cs ++ ds) more ↔ Unmarked cs (ds ++ more) ∧ Unmarked ds more := by
  induction cs with
  | nil => simp [Unmarked]
  | cons c cs ih => simp only [List.cons_append, Unmarked, ih, List.append_assoc, and_assoc]

theorem unmarked_of_not_mem (hpercent : '%' ∉ cs) (hbrace : '{' ∉ cs) : Unmarked cs more := by
  induction cs with
  | nil => trivial
  | cons c cs ih =>
    rw [List.mem_cons, not_or] at hpercent hbrace
    have hc : c ∉ ['%', '{'] := by simp [Ne.symm hpercent.1, Ne.symm hbrace.1]
    exact ⟨marker?_eq_none hc, ih hpercent.2 hbrace.2⟩

end

theorem run_found (s : Scanner) (skip : Nat) (cs : List Char) :
    (run s skip cs).found = s.found.merge (run { s with found := {} } skip cs).found := by
  have hs : s = ({ s with found := {} } : Scanner).behind s.found := by
    rw [Scanner.behind, Scan.merge_empty]
  conv_lhs => rw [hs, run_behind]
  rfl

/-- A marker that is found stays found. -/
theorem mem_markers_run {s : Scanner} {marker : String} (h : marker ∈ s.found.markers)
    (skip : Nat) (cs : List Char) : marker ∈ (run s skip cs).found.markers := by
  rw [run_found]
  exact List.mem_append_left _ h

theorem ne_of_marker? {c : Char} {rest marker : List Char} (h : marker? c rest = some marker) :
    String.ofList marker ≠ "?" := by
  intro he
  obtain ⟨behind, hb⟩ := initial_of_marker? h
  have hq : marker = ['?'] := by
    rw [← String.toList_ofList (l := marker), he]
    rfl
  rw [hq] at hb
  obtain ⟨rfl, -⟩ := List.cons.inj hb
  rw [marker?_eq_none (by decide)] at h
  cases h

/-- A marker is found, whatever the mode is in which the scan comes to it. -/
theorem unmarked_of_run {s : Scanner} {skip : Nat} {cs : List Char}
    (hskip : ∀ d ∈ cs.take skip, d ∉ ['%', '{'])
    (h : ∀ marker ∈ (run s skip cs).found.markers, marker = "?") : Unmarked cs [] := by
  -- No marker begins among the characters that a token has passed: this carries the induction.
  induction cs generalizing s skip with
  | nil => trivial
  | cons c cs ih =>
    rw [Unmarked, List.append_nil]
    cases skip with
    | succ skip =>
      rw [List.take_succ_cons, List.forall_mem_cons] at hskip
      exact ⟨marker?_eq_none hskip.1, ih hskip.2 h⟩
    | zero =>
      rw [run_cons] at h
      cases hm : marker? c cs with
      | none => exact ⟨rfl, ih (fun d hd => not_marker_of_passed hm hd) h⟩
      | some marker =>
        rw [lex_of_marker hm] at h
        have hfound : String.ofList marker ∈ s.found.markers ++ [String.ofList marker] :=
          List.mem_append_right _ (List.mem_singleton_self _)
        exact absurd (h _ (mem_markers_run hfound _ _)) (ne_of_marker? hm)

theorem markers_of_lex {s : Scanner} {mode : Mode} {c : Char} {rest : List Char}
    {marker : String} (hn : marker? c rest = none)
    (hm : marker ∈ (s.pass (lex mode c rest).1).found.markers) :
    marker ∈ s.found.markers ∨ marker = "?" := by
  rcases lex_cases hn mode with ⟨-, course⟩ | ⟨-, course⟩
  · generalize lex mode c rest = token at course hm
    cases course with
    | mark hc => exact (List.mem_append.1 hm).imp_right List.mem_singleton.1
    | _ => exact .inl hm
  · generalize lex mode c rest = token at course hm
    cases course <;> exact .inl hm

/-- In text without markers a scan finds none but the question marks in code. -/
theorem markers_run {s : Scanner} {skip : Nat} {cs : List Char} (h : Unmarked cs [])
    {marker : String} (hm : marker ∈ (run s skip cs).found.markers) :
    marker ∈ s.found.markers ∨ marker = "?" := by
  induction cs generalizing s skip with
  | nil => exact .inl hm
  | cons c cs ih =>
    rw [Unmarked, List.append_nil] at h
    cases skip with
    | succ skip => exact ih h.2 hm
    | zero =>
      rw [run_cons] at hm
      exact (ih h.2 hm).elim (markers_of_lex h.1) .inr

/-! ## Text without interpolation -/

/-- Text that no string formatting would put anything in. -/
structure Uninterpolated (text : List Char) : Prop where
  /-- There is no opening brace. -/
  noBrace : '{' ∉ text
  /-- A conversion letter behind a percent sign goes on as a word. -/
  noConversion : ∀ before d after, text = before ++ '%' :: d :: after → d = 's' ∨ d = 'd' →
    ∃ e ∈ after.head?, isAlphanumeric e = true
  /-- No name in parentheses stands behind a percent sign. -/
  noName : ∀ before after, text = before ++ '%' :: '(' :: after → ')' ∉ after

section
variable {d : Char} {rest : List Char}

theorem marker?_brace : marker? '{' rest ≠ none := by
  have hne : ('{' : Char) ≠ '%' := by decide
  simp only [marker?, hne, if_true, if_false]
  cases upTo? '}' rest <;> exact Option.some_ne_none _

theorem marker?_name : marker? '%' ('(' :: rest) = none ↔ ')' ∉ rest := by
  simp only [marker?, upTo?, if_true, Option.map_eq_none_iff, List.contains_iff_mem,
    ite_eq_right_iff, reduceCtorEq, imp_false]

theorem marker?_conversion (hd : d = 's' ∨ d = 'd') :
    marker? '%' (d :: rest) = none ↔ ∃ e ∈ rest.head?, isAlphanumeric e = true := by
  have hname : d ≠ '(' := by rcases hd with rfl | rfl <;> decide
  simp only [marker?, hname, if_true, if_false, Bool.or_eq_true, decide_eq_true_eq, hd]
  cases rest.head? with
  | none => simp
  | some e => simp

theorem marker?_percent (hname : d ≠ '(') (hd : ¬ (d = 's' ∨ d = 'd')) :
    marker? '%' (d :: rest) = none := by
  simp only [marker?, hname, if_true, if_false, Bool.or_eq_true, decide_eq_true_eq, hd]

end

theorem Unmarked.at_place {before after : List Char} {c : Char}
    (h : Unmarked (before ++ c :: after) []) : marker? c after = none := by
  have := (unmarked_append.1 h).2.1
  rwa [List.append_nil] at this

theorem Uninterpolated.tail {c : Char} {rest : List Char} (h : Uninterpolated (c :: rest)) :
    Uninterpolated rest where
  noBrace hm := h.noBrace (List.mem_cons_of_mem c hm)
  noConversion before d after he := h.noConversion (c :: before) d after (he ▸ rfl)
  noName before after he := h.noName (c :: before) after (he ▸ rfl)

theorem Uninterpolated.marker?_head {c : Char} {rest : List Char}
    (h : Uninterpolated (c :: rest)) : marker? c rest = none := by
  by_cases hc : c = '%'
  · subst hc
    cases rest with
    | nil => rfl
    | cons d rest =>
      by_cases hname : d = '('
      · subst hname
        exact marker?_name.2 (h.noName [] rest rfl)
      · by_cases hd : d = 's' ∨ d = 'd'
        · exact (marker?_conversion hd).2 (h.noConversion [] d rest rfl hd)
        · exact marker?_percent hname hd
  · have hbrace : c ≠ '{' := fun he => h.noBrace (he ▸ List.mem_cons_self)
    exact marker?_eq_none (by simp [hc, hbrace])

theorem unmarked_iff {text : List Char} : Unmarked text [] ↔ Uninterpolated text := by
  constructor
  · intro h
    refine ⟨fun hm => ?_, fun before d after he hd => ?_, fun before after he => ?_⟩
    · obtain ⟨before, after, rfl⟩ := List.append_of_mem hm
      exact marker?_brace h.at_place
    · subst he
      exact (marker?_conversion hd).1 h.at_place
    · subst he
      exact marker?_name.1 h.at_place
  · intro h
    induction text with
    | nil => trivial
    | cons c rest ih =>
      rw [Unmarked, List.append_nil]
      exact ⟨h.marker?_head, ih h.tail⟩

/-! ## Before a border -/

theorem Border.marker?_none {o c : Char} {rest more : List Char} (ho : Border o)
    (h : Query.marker? c (rest ++ o :: more) = none) : Query.marker? c rest = none := by
  by_cases hc : c = '%'
  · subst hc
    cases rest with
    | nil => rfl
    | cons d rest =>
      by_cases hname : d = '('
      · subst hname
        exact marker?_name.2 fun hm => marker?_name.1 h (List.mem_append_left _ hm)
      · by_cases hd : d = 's' ∨ d = 'd'
        · obtain ⟨e, he, hletter⟩ := (marker?_conversion hd).1 h
          cases rest with
          | nil =>
            obtain rfl := Option.some.inj he
            rw [ho.notAlphanumeric] at hletter
            cases hletter
          | cons f rest => exact (marker?_conversion hd).2 ⟨e, he, hletter⟩
        · exact marker?_percent hname hd
  · have hbrace : c ≠ '{' := fun he => marker?_brace (he ▸ h)
    exact marker?_eq_none (by simp [hc, hbrace])

/-- Where a marker begins before a border, one begins whatever the border is. -/
theorem Border.unmarked {o : Char} {cs more : List Char} (ho : Border o)
    (h : Unmarked cs (o :: more)) : Unmarked cs [] := by
  induction cs with
  | nil => trivial
  | cons c cs ih =>
    refine ⟨?_, ih h.2⟩
    rw [List.append_nil]
    exact ho.marker?_none h.1

theorem Border.steady {o : Char} {cs more : List Char} (ho : Border o)
    (h : Unmarked cs (o :: more)) : Steady cs (o :: more) := by
  induction cs with
  | nil => trivial
  | cons c cs ih => exact ⟨h.1.trans (ho.marker?_none h.1).symm, ih h.2⟩

/-! ## Queries -/

/-- The only markers of a query are question marks exactly when it has no interpolation. -/
theorem markers_scan {q : String} :
    (∀ marker ∈ (scan q).markers, marker = "?") ↔ Uninterpolated q.toList := by
  rw [← unmarked_iff]
  constructor
  · exact unmarked_of_run fun d hd => absurd hd List.not_mem_nil
  · intro h marker hm
    exact (markers_run h hm).elim (fun hn => absurd hn List.not_mem_nil) id

theorem unmarked_of_markers {q : String} (h : (scan q).markers = []) : Unmarked q.toList [] := by
  refine unmarked_iff.2 (markers_scan.1 fun marker hm => ?_)
  rw [h] at hm
  cases hm

/-- A query without markers has no interpolation, be it in code, in quotations or in comments. -/
theorem uninterpolated_of_markers {q : String} (h : (scan q).markers = []) :
    Uninterpolated q.toList :=
  unmarked_iff.1 (unmarked_of_markers h)

/-- Percent signs that format nothing. -/
theorem uninterpolated_of_markers_percent :
    (scan "SELECT 5 % 3 FROM pets -- 100 %(of all\nWHERE name LIKE '%dog%' /* %sa */").markers = []
      ∧ Uninterpolated
        "SELECT 5 % 3 FROM pets -- 100 %(of all\nWHERE name LIKE '%dog%' /* %sa */".toList := by
  have h : (scan
      "SELECT 5 % 3 FROM pets -- 100 %(of all\nWHERE name LIKE '%dog%' /* %sa */").markers = [] := by
    decide +kernel
  exact ⟨h, uninterpolated_of_markers h⟩

end Toolwire.Query
