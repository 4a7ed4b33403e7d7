import Mathlib
import Toolwire.Binding.Check
import Toolwire.Http.Response
import Toolwire.Proofs.Json.Reading
/-!
# What a response becomes

A complete response of any code and with any body is an outcome: the check of a binding reads the
paths of its mapping as the response does, so none of them can fail behind the call. Which outcome
it is, and that nothing of the response gets lost, is `mapResponse_answers`.
-/
namespace Toolwire

/-! ## Letters of either case -/

theorem toLower_eq_digit {c d : Char} (hd : d.isDigit = true) : c.toLower = d ↔ c = d := by
  by_cases hu : c.isUpper = true
  · have hl : c.toLower.isLower = true := by simp [Char.isAlpha, hu]
    constructor
    · rintro rfl
      -- No character is a digit and a letter.
      simp [Char.isDigit, Char.isLower, UInt32.le_iff_toNat_le] at hd hl
      omega
    · rintro rfl
      simp [Char.isDigit, Char.isUpper, UInt32.le_iff_toNat_le] at hd hu
      omega
  · rw [Char.toLower_eq_of_not_isUpper hu]

theorem toLower_eq_x {c : Char} : c.toLower = 'x' ↔ c = 'x' ∨ c = 'X' := by
  constructor
  · intro h
    by_cases hu : c.isUpper = true
    · have hl : ¬ c.isLower = true := Char.not_isLower_of_isUpper hu
      rw [← Char.toUpper_eq_of_not_isLower hl, ← Char.toUpper_toLower_eq_toUpper, h]
      exact .inr (by decide)
    · rw [Char.toLower_eq_of_not_isUpper hu] at h
      exact .inl h
  · rintro (rfl | rfl) <;> decide

theorem map_toLower_eq_digits {s t : List Char} (ht : ∀ c ∈ t, c.isDigit = true) :
    s.map Char.toLower = t ↔ s = t := by
  induction t generalizing s with
  | nil => simp
  | cons d t ih =>
    obtain ⟨hd, ht⟩ := List.forall_mem_cons.1 ht
    cases s with
    | nil => simp
    | cons c s => rw [List.map_cons, List.cons.injEq, List.cons.injEq, toLower_eq_digit hd, ih ht]

/-! ## Labels -/

/-- A label names a status: its text is the label, and a label that is the name of another status
is that status. -/
structure Status.Named (s : Status) (label : String) : Prop where
  text : s.text = label
  known : ∀ t, s = .label t → t ≠ "success" ∧ t ≠ "error"

theorem Status.named_ofText (label : String) : (ofText label).Named label := by
  unfold ofText
  split
  · rename_i h
    exact ⟨h.symm, nofun⟩
  · rename_i hs
    split
    · rename_i h
      exact ⟨h.symm, nofun⟩
    · rename_i he
      exact ⟨rfl, fun t ht => by cases ht; exact ⟨hs, he⟩⟩

theorem Status.Named.eq_ofText {s : Status} {label : String} (h : s.Named label) :
    s = ofText label := by
  obtain ⟨rfl, known⟩ := h
  cases s with
  | success => rfl
  | error => rfl
  | label t =>
    obtain ⟨hs, he⟩ := known t rfl
    change Status.label t = if t = "success" then _ else if t = "error" then _ else _
    rw [if_neg hs, if_neg he]
    rfl

namespace ResponseMapping

/-- A key is the class of a status code: its hundreds and two letters x of either case. -/
def IsClass (key : String) (code : Nat) : Prop :=
  ∃ x y, (x = 'x' ∨ x = 'X') ∧ (y = 'x' ∨ y = 'X')
    ∧ key.toList = Nat.toDigits 10 (code / 100) ++ [x, y]

theorem sameLetters_class {key : String} {code : Nat} :
    sameLetters key (toString (code / 100) ++ "xx") = true ↔ IsClass key code := by
  have digits : ∀ c ∈ Nat.toDigits 10 (code / 100), c.isDigit = true :=
    fun c hc => Nat.isDigit_of_mem_toDigits (by decide) (by decide) hc
  have lower : (toString (code / 100) ++ "xx").toList.map Char.toLower =
      Nat.toDigits 10 (code / 100) ++ ['x', 'x'] := by
    rw [String.toList_append, List.map_append]
    congr 1
    exact (map_toLower_eq_digits digits).2 (by simp [toString, Nat.repr])
  rw [sameLetters, beq_iff_eq, lower, IsClass, List.map_eq_append_iff]
  constructor
  · rintro ⟨front, back, hkey, hfront, hback⟩
    obtain ⟨x, y, rfl, hx, hy⟩ : ∃ x y, back = [x, y] ∧ x.toLower = 'x' ∧ y.toLower = 'x' := by
      simpa [List.map_eq_cons_iff] using hback
    rw [map_toLower_eq_digits digits] at hfront
    exact ⟨x, y, toLower_eq_x.1 hx, toLower_eq_x.1 hy, hfront ▸ hkey⟩
  · rintro ⟨x, y, hx, hy, hkey⟩
    refine ⟨_, [x, y], hkey, (map_toLower_eq_digits digits).2 rfl, ?_⟩
    rw [List.map_cons, List.map_cons, List.map_nil, toLower_eq_x.2 hx, toLower_eq_x.2 hy]

/-- The label of a status code: its own, or else that of the first key that is its class. -/
inductive Labels (m : ResponseMapping) (code : Nat) (label : String) : Prop
  | own (h : (toString code, label) ∈ m.statusCodes)
  | ofClass (key : String) (other : ∀ l, (toString code, l) ∉ m.statusCodes)
      (entry : (key, label) ∈ m.statusCodes) (isClass : IsClass key code)
      (first : ∀ k l, (k, l) ∈ m.statusCodes → IsClass k code → key ≤ k)

variable {m : ResponseMapping} {code : Nat} {label : String}

theorem Labels.unique (sorted : Members.Sorted m.statusCodes) {label' : String}
    (h : m.Labels code label) (h' : m.Labels code label') : label = label' := by
  have one : ∀ {k l l'}, (k, l) ∈ m.statusCodes → (k, l') ∈ m.statusCodes → l = l' := by
    intro k l l' hl hl'
    exact Option.some.inj ((sorted.get?_eq_some.2 hl).symm.trans (sorted.get?_eq_some.2 hl'))
  cases h with
  | own h =>
    cases h' with
    | own h' => exact one h h'
    | ofClass key other => exact absurd h (other _)
  | ofClass key other entry isClass first =>
    cases h' with
    | own h' => exact absurd h' (other _)
    | ofClass key' _ entry' isClass' first' =>
      have : key = key' := le_antisymm (first _ _ entry' isClass') (first' _ _ entry isClass)
      exact one entry (this ▸ entry')

theorem label?_eq_some (sorted : Members.Sorted m.statusCodes) :
    m.label? code = some label ↔ m.Labels code label := by
  have found : ∀ {label}, m.label? code = some label → m.Labels code label := by
    intro label h
    unfold label? at h
    split at h
    · rename_i own hown
      cases h
      exact .own (mem_of_lookup hown)
    · rename_i hnone
      obtain ⟨⟨key, l⟩, hfind, rfl⟩ := Option.map_eq_some_iff.1 h
      obtain ⟨hclass, before, after, hsplit, hbefore⟩ := List.find?_eq_some_iff_append.1 hfind
      refine .ofClass key ?_ (by simp [hsplit]) (sameLetters_class.1 hclass) ?_
      · intro l hl
        have := List.lookup_eq_none_iff.1 hnone _ hl
        simp at this
      · intro k l hl hk
        rw [hsplit] at hl sorted
        rcases List.mem_append.1 hl with hl | hl
        · have not := hbefore _ hl
          rw [sameLetters_class.2 hk] at not
          cases not
        · rcases List.mem_cons.1 hl with hl | hl
          · cases hl
            exact le_rfl
          · have later := (List.pairwise_cons.1 (List.pairwise_append.1 sorted).2.1).1 _ hl
            exact le_of_lt later
  constructor
  · exact found
  · intro h
    cases hl : m.label? code with
    | some label' => rw [(found hl).unique sorted h]
    | none =>
      unfold label? at hl
      split at hl
      · cases hl
      · rename_i hnone
        cases h with
        | own h =>
          have := List.lookup_eq_none_iff.1 hnone _ h
          simp at this
        | ofClass key _ entry isClass =>
          have := List.find?_eq_none.1 (Option.map_eq_none_iff.1 hl) _ entry
          exact absurd (sameLetters_class.2 isClass) this

end ResponseMapping

namespace Http

/-! ## What stands in a response -/

/-- A status code is a success. -/
def Succeeds (code : Nat) : Prop := 200 ≤ code ∧ code ≤ 299

instance (code : Nat) : Decidable (Succeeds code) :=
  inferInstanceAs (Decidable (200 ≤ code ∧ code ≤ 299))

theorem isSuccess_iff {code : Nat} : isSuccess code = true ↔ Succeeds code := by
  simp only [isSuccess, Succeeds, Bool.and_eq_true, decide_eq_true_eq]
  omega

/-- The status of an outcome for a status code. -/
inductive HasStatus (m : ResponseMapping) (code : Nat) (s : Status) : Prop
  | labelled (label : String) (h : m.Labels code label) (named : s.Named label)
  | success (unlabelled : ∀ label, ¬ m.Labels code label) (h : Succeeds code) (eq : s = .success)
  | error (unlabelled : ∀ label, ¬ m.Labels code label) (h : ¬ Succeeds code) (eq : s = .error)

/-- The value that a body is: null when it is blank, the value that it spells, or a string. -/
inductive BodyIs (body : String) (v : Json) : Prop
  | blank (h : ∀ c ∈ body.toList, Text.isBlank c = true) (eq : v = .null)
  | json (h : ∃ c ∈ body.toList, Text.isBlank c = false) (spelled : Json.parse? body = some v)
  | text (h : ∃ c ∈ body.toList, Text.isBlank c = false) (none : Json.parse? body = none)
      (eq : v = .str body)

/-- The value that the steps of a path lead to, if they lead to one. -/
def Selects (path : String) (v : Json) (found : Option Json) : Prop :=
  ∃ steps, Json.Path.parse path = some steps ∧ Json.Path.select v steps = found

/-- The data and the error of an outcome for a status code and a body. -/
inductive Carries (m : ResponseMapping) (code : Nat) (v : Json) :
    Option Json → Option String → Prop
  | whole (h : Succeeds code) (path : m.path = none) : Carries m code v (some v) none
  | selected (h : Succeeds code) {path : String} (hp : m.path = some path) {w : Json}
      (found : Selects path v (some w)) : Carries m code v (some w) none
  | missing (h : Succeeds code) {path : String} (hp : m.path = some path)
      (found : Selects path v none) : Carries m code v (some .null) none
  | explained (h : ¬ Succeeds code) {path : String} (hp : m.errorPath = some path) {w : Json}
      (found : Selects path v (some w)) : Carries m code v none (some (Template.textOf w))
  | unexplained (h : ¬ Succeeds code)
      (nothing : ∀ path, m.errorPath = some path → Selects path v none) :
      Carries m code v (some v) (some ("HTTP " ++ toString code))

/-- An outcome tells of a complete response. -/
structure Answers (m : ResponseMapping) (reply : Reply) (o : Outcome) : Prop where
  code : o.statusCode = some reply.status
  status : HasStatus m reply.status o.status
  content : ∃ v, BodyIs reply.body v ∧ Carries m reply.status v o.data o.error
  plain : o.shadow = false ∧ o.extras = []

variable {m : ResponseMapping} {code : Nat} {body : String} {v : Json}

/-! ## A response has one outcome -/

theorem HasStatus.eq_statusFor (sorted : Members.Sorted m.statusCodes) {s : Status}
    (h : HasStatus m code s) : s = statusFor m code := by
  have none : (∀ label, ¬ m.Labels code label) → m.label? code = none := fun h =>
    Option.eq_none_iff_forall_ne_some.2 fun l hl =>
      h l ((ResponseMapping.label?_eq_some sorted).1 hl)
  cases h with
  | labelled label h named =>
    rw [statusFor, (ResponseMapping.label?_eq_some sorted).2 h]
    exact named.eq_ofText
  | success unlabelled h eq =>
    rw [statusFor, none unlabelled, eq]
    exact (if_pos (isSuccess_iff.2 h)).symm
  | error unlabelled h eq =>
    rw [statusFor, none unlabelled, eq]
    exact (if_neg (isSuccess_iff.not.2 h)).symm

theorem hasStatus_statusFor (sorted : Members.Sorted m.statusCodes) (code : Nat) :
    HasStatus m code (statusFor m code) := by
  unfold statusFor
  split
  · rename_i label h
    exact .labelled label ((ResponseMapping.label?_eq_some sorted).1 h) (Status.named_ofText label)
  · rename_i hnone
    have unlabelled : ∀ label, ¬ m.Labels code label := by
      intro label h
      rw [(ResponseMapping.label?_eq_some sorted).2 h] at hnone
      cases hnone
    split
    · rename_i h
      exact .success unlabelled (isSuccess_iff.1 h) rfl
    · rename_i h
      exact .error unlabelled (isSuccess_iff.not.1 h) rfl

theorem bodyIs_iff : BodyIs body v ↔ v = bodyValue body := by
  have blank : Text.allBlank body = true ↔ ∀ c ∈ body.toList, Text.isBlank c = true := by
    simp [Text.allBlank]
  have notBlank : Text.allBlank body = false ↔ ∃ c ∈ body.toList, Text.isBlank c = false := by
    simp [Text.allBlank]
  constructor
  · rintro (⟨h, rfl⟩ | ⟨h, spelled⟩ | ⟨h, none, rfl⟩)
    · rw [bodyValue, if_pos (blank.2 h)]
    · rw [bodyValue, notBlank.2 h, spelled]
      rfl
    · rw [bodyValue, notBlank.2 h, none]
      rfl
  · rintro rfl
    unfold bodyValue
    split
    · rename_i h
      exact .blank (blank.1 h) rfl
    · rename_i h
      rw [Bool.not_eq_true] at h
      cases hp : Json.parse? body with
      | some w => exact .json (notBlank.1 h) hp
      | none => exact .text (notBlank.1 h) hp rfl

theorem extract_of_selects {path : String} {found : Option Json} (h : Selects path v found) :
    extract v path = .ok found := by
  obtain ⟨steps, hp, rfl⟩ := h
  simp only [extract, Json.Path.extract, hp]

/-- The outcome of a response as far as its data and its error are known. -/
theorem mapResponse_of_carries {reply : Reply} {data : Option Json} {error : Option String}
    (h : Carries m reply.status (bodyValue reply.body) data error) :
    mapResponse m reply =
      .ok { status := statusFor m reply.status, data := data, error := error,
            statusCode := some reply.status } := by
  unfold mapResponse
  generalize bodyValue reply.body = v at h
  cases h with
  | whole h path => simp only [isSuccess_iff.2 h, if_true, path]
  | selected h hp found =>
    simp only [isSuccess_iff.2 h, if_true, hp, extract_of_selects found]
    rfl
  | missing h hp found =>
    simp only [isSuccess_iff.2 h, if_true, hp, extract_of_selects found]
    rfl
  | explained h hp found =>
    simp only [isSuccess_iff.not.2 h, hp, extract_of_selects found]
    rfl
  | unexplained h nothing =>
    simp only [isSuccess_iff.not.2 h]
    cases hp : m.errorPath with
    | none => rfl
    | some path =>
      simp only [extract_of_selects (nothing path hp)]
      rfl

theorem mapResponse_of_answers (sorted : Members.Sorted m.statusCodes) {reply : Reply}
    {o : Outcome} (h : Answers m reply o) : mapResponse m reply = .ok o := by
  obtain ⟨hcode, hstatus, ⟨v, hv, hcontent⟩, hshadow, hextras⟩ := h
  rw [bodyIs_iff.1 hv] at hcontent
  rw [mapResponse_of_carries hcontent, ← hstatus.eq_statusFor sorted, ← hcode]
  obtain ⟨status, data, error, statusCode, shadow, extras⟩ := o
  subst hshadow hextras
  rfl

/-! ## Every response has an outcome -/

/-- The paths of a mapping are well formed. -/
structure Readable (m : ResponseMapping) : Prop where
  path : ∀ p, m.path = some p → ∃ steps, Json.Path.parse p = some steps
  errorPath : ∀ p, m.errorPath = some p → ∃ steps, Json.Path.parse p = some steps

theorem parse_of_pathErrors {field : String} {path : Option String}
    (h : Binding.pathErrors field path = []) :
    ∀ p, path = some p → ∃ steps, Json.Path.parse p = some steps := by
  rintro p rfl
  unfold Binding.pathErrors at h
  dsimp only at h
  split at h
  · exact ⟨_, ‹_›⟩
  · cases h

theorem readable_of_structuralErrors {b : Binding} {h : HttpBinding} (hp : b.protocol = .http h)
    (hs : b.structuralErrors = []) : Readable h.mapping := by
  simp only [Binding.structuralErrors, List.append_eq_nil_iff, hp, Binding.protocolErrors,
    Binding.httpErrors] at hs
  exact ⟨parse_of_pathErrors hs.2.1.1.2, parse_of_pathErrors hs.2.1.2⟩

theorem exists_carries (readable : Readable m) (code : Nat) (v : Json) :
    ∃ data error, Carries m code v data error := by
  by_cases h : Succeeds code
  · cases hp : m.path with
    | none => exact ⟨_, _, .whole h hp⟩
    | some path =>
      obtain ⟨steps, hsteps⟩ := readable.path path hp
      cases hw : Json.Path.select v steps with
      | none => exact ⟨_, _, .missing h hp ⟨steps, hsteps, hw⟩⟩
      | some w => exact ⟨_, _, .selected h hp ⟨steps, hsteps, hw⟩⟩
  · cases hp : m.errorPath with
    | none => exact ⟨_, _, .unexplained h fun path hpath => by rw [hp] at hpath; cases hpath⟩
    | some path =>
      obtain ⟨steps, hsteps⟩ := readable.errorPath path hp
      cases hw : Json.Path.select v steps with
      | none =>
        refine ⟨_, _, .unexplained h fun path' hpath => ?_⟩
        rw [hp] at hpath
        cases hpath
        exact ⟨steps, hsteps, hw⟩
      | some w => exact ⟨_, _, .explained h hp ⟨steps, hsteps, hw⟩⟩

theorem exists_answers (sorted : Members.Sorted m.statusCodes) (readable : Readable m)
    (reply : Reply) : ∃ o, Answers m reply o := by
  obtain ⟨data, error, h⟩ := exists_carries readable reply.status (bodyValue reply.body)
  exact ⟨⟨statusFor m reply.status, data, error, some reply.status, false, []⟩, rfl,
    hasStatus_statusFor sorted _, ⟨_, bodyIs_iff.2 rfl, h⟩, rfl, rfl⟩

/-- A complete response to a sound binding, whose status codes stand in the order of their keys, is
an outcome whatever its code and its body, and it is the one that tells of the response: of the code
and its label, and of all of the body but what the mapping leaves out. -/
theorem mapResponse_answers {b : Binding} {h : HttpBinding} (hp : b.protocol = .http h)
    (hs : b.structuralErrors = []) (sorted : Members.Sorted h.mapping.statusCodes)
    (reply : Reply) :
    (∃ o, mapResponse h.mapping reply = .ok o)
    ∧ ∀ o, mapResponse h.mapping reply = .ok o ↔ Answers h.mapping reply o := by
  obtain ⟨o, ho⟩ := exists_answers sorted (readable_of_structuralErrors hp hs) reply
  have hmap := mapResponse_of_answers sorted ho
  refine ⟨⟨o, hmap⟩, fun o' => ⟨fun h' => ?_, mapResponse_of_answers sorted⟩⟩
  rw [hmap] at h'
  cases h'
  exact ho

/-- A failure whose class is written in capitals, with a plain text that the mapping takes whole. -/
theorem mapResponse_answers_class :
    let h : HttpBinding :=
      { url := "https://x.example"
        mapping := { path := some "total", errorPath := some "$",
                     statusCodes := [("404", "not_found"), ("5XX", "upstream")] } }
    let b : Binding := { protocol := .http h }
    let reply : Reply := ⟨503, "down for now"⟩
    let o : Outcome :=
      { status := .label "upstream", error := some "down for now", statusCode := some 503 }
    b.structuralErrors = [] ∧ Members.Sorted h.mapping.statusCodes
    ∧ (∃ o, mapResponse h.mapping reply = .ok o)
    ∧ mapResponse h.mapping reply = .ok o ∧ Answers h.mapping reply o := by
  intro h b reply o
  have sound : b.structuralErrors = [] := by decide +kernel
  have sorted : Members.Sorted h.mapping.statusCodes :=
    List.pairwise_pair.2 (by decide +kernel)
  have text : Json.parse? reply.body = none := Option.isNone_iff_eq_none.1 (by decide +kernel)
  have status : statusFor h.mapping reply.status = o.status := by decide +kernel
  have told : Answers h.mapping reply o := by
    refine ⟨rfl, status ▸ hasStatus_statusFor sorted _, ⟨.str reply.body, ?_, ?_⟩, rfl, rfl⟩
    · exact .text ⟨'d', by decide, by decide⟩ text rfl
    · exact .explained (by decide) rfl ⟨[], by decide +kernel, rfl⟩
  obtain ⟨some, all⟩ := mapResponse_answers rfl sound sorted reply
  exact ⟨sound, sorted, some, (all o).2 told, told⟩

end Http
end Toolwire
