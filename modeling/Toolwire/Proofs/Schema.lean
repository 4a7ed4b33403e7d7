import Mathlib
import Toolwire.Proofs.Json.Reading
import Toolwire.Schema
/-!
# Arguments that conform to a schema

A schema speaks of the arguments and, along the names of properties, of the values in them. A check
succeeds exactly when the arguments are small and flat enough and every value that is reached along
names is what the schema reached along them asks for: `check_eq_ok`.
-/
namespace Toolwire.Schema

/-! ## Depth -/

/-- A value lies in another one, in so many containers. -/
inductive Lies : Json → Nat → Json → Prop
  | here (v : Json) : Lies v 0 v
  | item {items : List Json} {x w : Json} {n : Nat} (hx : x ∈ items) (h : Lies x n w) :
    Lies (.arr items) (n + 1) w
  | member {ms : Members} {key : String} {x w : Json} {n : Nat} (hx : (key, x) ∈ ms)
    (h : Lies x n w) : Lies (.obj ms) (n + 1) w

/-- Nothing in a value at a depth lies deeper than `max`. -/
def Within (max depth : Nat) (v : Json) : Prop := ∀ n w, Lies v n w → depth + n ≤ max

variable {max depth : Nat}

theorem within_arr {items : List Json} :
    Within max depth (.arr items) ↔ depth ≤ max ∧ ∀ x ∈ items, Within max (depth + 1) x := by
  constructor
  · intro h
    refine ⟨h 0 _ (.here _), fun x hx n w hw => ?_⟩
    have := h (n + 1) w (.item hx hw)
    omega
  · rintro ⟨hd, h⟩ n w hw
    cases hw with
    | here => exact hd
    | item hx hw =>
      have := h _ hx _ w hw
      omega

theorem within_obj {ms : Members} :
    Within max depth (.obj ms) ↔ depth ≤ max ∧ ∀ m ∈ ms, Within max (depth + 1) m.2 := by
  constructor
  · intro h
    refine ⟨h 0 _ (.here _), fun m hm n w hw => ?_⟩
    have := h (n + 1) w (.member hm hw)
    omega
  · rintro ⟨hd, h⟩ n w hw
    cases hw with
    | here => exact hd
    | member hx hw =>
      have := h _ hx _ w hw
      omega

/-- A value that is no container. -/
theorem within_leaf {v : Json} (harr : ∀ items, v ≠ .arr items) (hobj : ∀ ms, v ≠ .obj ms) :
    Within max depth v ↔ depth ≤ max := by
  constructor
  · exact fun h => h 0 _ (.here _)
  · intro hd n w hw
    cases hw with
    | here => exact hd
    | item => exact absurd rfl (harr _)
    | member => exact absurd rfl (hobj _)

theorem refused_or_eq_ok {e : ArgumentError} {x : Except ArgumentError Unit} :
    (if max < depth then .error e else x) = .ok () ↔ depth ≤ max ∧ x = .ok () := by
  split
  · exact iff_of_false nofun (by omega)
  · exact ⟨fun h => ⟨by omega, h⟩, And.right⟩

mutual

theorem checkDepth_eq_ok (max depth : Nat) :
    (v : Json) → (checkDepth max depth v = .ok () ↔ Within max depth v)
  | .arr items => by
    rw [checkDepth, refused_or_eq_ok, within_arr, checkDepthItems_eq_ok max (depth + 1) items]
  | .obj ms => by
    rw [checkDepth, refused_or_eq_ok, within_obj, checkDepthMembers_eq_ok max (depth + 1) ms]
  | .null | .bool _ | .int _ | .float _ | .str _ => by
    refine Iff.trans ?_ (within_leaf (by simp) (by simp)).symm
    rw [checkDepth.eq_def]
    exact refused_or_eq_ok.trans (and_iff_left rfl)

theorem checkDepthItems_eq_ok (max depth : Nat) : (items : List Json) →
    (checkDepthItems max depth items = .ok () ↔ ∀ x ∈ items, Within max depth x)
  | [] => by simp [checkDepthItems]
  | x :: xs => by
    rw [List.forall_mem_cons, ← checkDepth_eq_ok max depth x, ← checkDepthItems_eq_ok max depth xs,
      checkDepthItems]
    cases checkDepth max depth x <;> simp

theorem checkDepthMembers_eq_ok (max depth : Nat) : (ms : List (String × Json)) →
    (checkDepthMembers max depth ms = .ok () ↔ ∀ m ∈ ms, Within max depth m.2)
  | [] => by simp [checkDepthMembers]
  | (key, x) :: ms => by
    rw [List.forall_mem_cons, ← checkDepth_eq_ok max depth x,
      ← checkDepthMembers_eq_ok max depth ms, checkDepthMembers]
    cases checkDepth max depth x <;> simp

end

/-! ## What a schema asks for -/

/-- A value has the kind that a type names. A name that is no type asks for nothing. -/
def HasKind (type : String) (v : Json) : Prop :=
  match type with
  | "object" => ∃ ms, v = .obj ms
  | "array" => ∃ items, v = .arr items
  | "string" => ∃ s, v = .str s
  | "integer" => ∃ n, v = .int n
  | "number" => (∃ n, v = .int n) ∨ ∃ x, v = .float x
  | "boolean" => ∃ b, v = .bool b
  | _ => True

/-- What a schema asks of a value by itself: its kind, and of an object the members that are
required. -/
structure Suits (schema v : Json) : Prop where
  kind : ∀ type, schema.get? "type" = some (.str type) → HasKind type v
  required : schema.get? "type" = some (.str "object") →
    ∀ names, schema.get? "required" = some (.arr names) →
      ∀ name, .str name ∈ names → ∃ x, v.get? name = some x

/-- Names lead from a schema to another one, through schemas of objects that list them among their
properties, and from a value to another one, through members that are there and not null. -/
inductive Reaches : Json → Json → List String → Json → Json → Prop
  | here (schema v : Json) : Reaches schema v [] schema v
  | property {schema v s w next x : Json} {properties : Members} {name : String}
    {names : List String} (object : schema.get? "type" = some (.str "object"))
    (listed : schema.get? "properties" = some (.obj properties)) (hname : (name, next) ∈ properties)
    (present : v.get? name = some x) (nonnull : x ≠ .null) (rest : Reaches next x names s w) :
    Reaches schema v (name :: names) s w

/-- Whatever is reached in the value suits the schema that is reached along the same names. -/
def Conforms (schema v : Json) : Prop := ∀ names s w, Reaches schema v names s w → Suits s w

/-- Members that are there and not null conform to their properties. -/
def EachConforms (ms properties : Members) : Prop :=
  ∀ p ∈ properties, ∀ x, Members.get? ms p.1 = some x → x ≠ .null → Conforms p.2 x

theorem hasType_iff {type : String} {v : Json} : hasType type v = true ↔ HasKind type v := by
  unfold HasKind
  split <;> cases v <;> simp_all [hasType]

theorem missing?_eq_none {ms : Members} {names : List Json} :
    missing? ms names = none ↔ ∀ name, .str name ∈ names → ∃ x, Members.get? ms name = some x := by
  simp only [missing?, List.find?_eq_none, List.mem_filterMap, Bool.not_eq_true', Members.has,
    Bool.not_eq_false, Option.isSome_iff_exists, Members.get?]
  constructor
  · intro h name hname
    exact h name ⟨_, hname, rfl⟩
  · rintro h name ⟨v, hv, hname⟩
    cases v with
    | str s =>
      cases hname
      exact h _ hv
    | _ => cases hname

theorem conforms_iff {schema v : Json} :
    Conforms schema v ↔ Suits schema v
      ∧ (schema.get? "type" = some (.str "object") →
        ∀ properties, schema.get? "properties" = some (.obj properties) →
          ∀ p ∈ properties, ∀ x, v.get? p.1 = some x → x ≠ .null → Conforms p.2 x) := by
  constructor
  · intro h
    refine ⟨h [] _ _ (.here _ _), ?_⟩
    intro object properties listed p hp x present nonnull names s w hrest
    exact h (p.1 :: names) s w (.property object listed hp present nonnull hrest)
  · rintro ⟨here, below⟩ names s w h
    cases h with
    | here => exact here
    | property object listed hname present nonnull rest =>
      exact below object _ listed _ hname _ present nonnull _ s w rest

/-- A schema that names no type asks for nothing. -/
theorem conforms_of_untyped {schema : Json} (h : ∀ type, schema.get? "type" ≠ some (.str type))
    (v : Json) : Conforms schema v := by
  rw [conforms_iff]
  exact ⟨⟨fun type ht => absurd ht (h type), fun ht => absurd ht (h _)⟩, fun ht => absurd ht (h _)⟩

/-- A schema of another type than that of objects asks for a kind and nothing else. -/
theorem conforms_of_type {schema : Json} {type : String}
    (h : schema.get? "type" = some (.str type)) (hne : type ≠ "object") (v : Json) :
    Conforms schema v ↔ HasKind type v := by
  have other : schema.get? "type" ≠ some (.str "object") := by
    rw [h]
    simpa using hne
  rw [conforms_iff]
  constructor
  · rintro ⟨suits, -⟩
    exact suits.kind type h
  · intro hv
    refine ⟨⟨?_, fun ho => absurd ho other⟩, fun ho => absurd ho other⟩
    intro t ht
    rw [h] at ht
    cases ht
    exact hv

theorem conforms_object {schema : Json} (h : schema.get? "type" = some (.str "object"))
    (ms : Members) :
    Conforms schema (.obj ms) ↔
      (∀ names, schema.get? "required" = some (.arr names) →
        ∀ name, .str name ∈ names → ∃ x, Members.get? ms name = some x)
      ∧ ∀ properties, schema.get? "properties" = some (.obj properties) →
        EachConforms ms properties := by
  rw [conforms_iff]
  constructor
  · rintro ⟨suits, below⟩
    exact ⟨suits.required h, below h⟩
  · rintro ⟨required, below⟩
    refine ⟨⟨?_, fun _ => required⟩, fun _ => below⟩
    intro t ht
    rw [h] at ht
    cases ht
    exact ⟨ms, rfl⟩

/-! ## Checking -/

theorem missing?_required {keywords ms : Members} :
    missing? ms (required (.obj keywords)) = none ↔
      ∀ names, Members.get? keywords "required" = some (.arr names) →
        ∀ name, .str name ∈ names → ∃ x, Members.get? ms name = some x := by
  rw [missing?_eq_none]
  constructor
  · intro h names hnames name hname
    apply h name
    simpa [required, Json.get?, hnames, Json.asArr?] using hname
  · intro h name hname
    simp only [required, Json.get?] at hname
    cases hk : Members.get? keywords "required" with
    | none => simp [hk] at hname
    | some v =>
      cases v with
      | arr names => exact h names hk name (by simpa [hk, Json.asArr?] using hname)
      | _ => simp [hk, Json.asArr?] at hname

section
variable {keywords : Members} {type : String}

theorem checkValue_of_untyped (h : ∀ type, Members.get? keywords "type" ≠ some (.str type))
    (at_ : String) (v : Json) : checkValue at_ v (.obj keywords) = .ok () := by
  have untyped : (Members.get? keywords "type").bind Json.asStr? = none := by
    rw [Option.bind_eq_none_iff]
    intro w hw
    cases w with
    | str type => exact absurd hw (h type)
    | _ => rfl
  rw [checkValue.eq_def]
  simp only [untyped]

theorem checkValue_of_not_hasType (h : Members.get? keywords "type" = some (.str type)) {v : Json}
    (hv : hasType type v = false) (at_ : String) :
    checkValue at_ v (.obj keywords) = .error (.unexpected at_ type) := by
  rw [checkValue.eq_def]
  simp [h, Json.asStr?, hv]

theorem checkValue_of_hasType (h : Members.get? keywords "type" = some (.str type))
    (hne : type ≠ "object") {v : Json} (hv : hasType type v = true) (at_ : String) :
    checkValue at_ v (.obj keywords) = .ok () := by
  rw [checkValue.eq_def]
  simp [h, Json.asStr?, hv, hne]

theorem checkValue_object (h : Members.get? keywords "type" = some (.str "object")) (ms : Members)
    (at_ : String) :
    checkValue at_ (.obj ms) (.obj keywords) = .ok () ↔
      missing? ms (required (.obj keywords)) = none ∧ checkProperties ms keywords = .ok () := by
  have kind : hasType "object" (.obj ms) = true := hasType_iff.2 ⟨ms, rfl⟩
  rw [checkValue.eq_def]
  simp only [h, Option.bind_some, Json.asStr?, kind, Bool.not_true, Bool.false_eq_true, if_false,
    if_true]
  cases missing? ms (required (.obj keywords)) <;> simp

theorem checkEach_absent {ms rest : Members} {name : String}
    (h : ∀ x, Members.get? ms name = some x → x = .null) (schema : Json) :
    checkEach ms ((name, schema) :: rest) = checkEach ms rest := by
  rw [checkEach.eq_def]
  cases hx : Members.get? ms name with
  | none => simp only [hx]
  | some x => simp only [hx, h x hx]

theorem checkEach_present {ms rest : Members} {name : String} {schema x : Json}
    (hx : Members.get? ms name = some x) (hnull : x ≠ .null) :
    checkEach ms ((name, schema) :: rest) = .ok () ↔
      checkValue name x schema = .ok () ∧ checkEach ms rest = .ok () := by
  generalize hcheck : checkValue name x schema = outcome
  cases x with
  | null => exact absurd rfl hnull
  | _ =>
    rw [checkEach.eq_def]
    simp only [hx, hcheck]
    cases outcome <;> simp

theorem checkValue_obj
    (each : ∀ ms, checkProperties ms keywords = .ok () ↔
      ∀ properties, Members.get? keywords "properties" = some (.obj properties) →
        EachConforms ms properties) (at_ : String) (v : Json) :
    checkValue at_ v (.obj keywords) = .ok () ↔ Conforms (.obj keywords) v := by
  by_cases htype : ∃ type, (Json.obj keywords).get? "type" = some (.str type)
  · obtain ⟨type, htype⟩ := htype
    by_cases hkind : HasKind type v
    · by_cases hobject : type = "object"
      · subst hobject
        obtain ⟨ms, rfl⟩ := hkind
        rw [checkValue_object htype, conforms_object htype, missing?_required, each]
        rfl
      · rw [conforms_of_type htype hobject]
        exact iff_of_true (checkValue_of_hasType htype hobject (hasType_iff.2 hkind) at_) hkind
    · have hv : hasType type v = false := by rwa [← Bool.not_eq_true, hasType_iff]
      rw [checkValue_of_not_hasType htype hv]
      refine iff_of_false nofun fun h => hkind ?_
      exact (conforms_iff.1 h).1.kind type htype
  · rw [not_exists] at htype
    exact iff_of_true (checkValue_of_untyped htype at_ v) (conforms_of_untyped htype v)

end

mutual

theorem checkValue_eq_ok (at_ : String) (v : Json) :
    (schema : Json) → (checkValue at_ v schema = .ok () ↔ Conforms schema v)
  | .obj keywords => checkValue_obj (fun ms => checkProperties_eq_ok ms keywords) at_ v
  | .null | .bool _ | .int _ | .float _ | .str _ | .arr _ =>
    iff_of_true (by rw [checkValue.eq_def]) (conforms_of_untyped (by simp [Json.get?]) v)

theorem checkProperties_eq_ok (ms : Members) : (keywords : List (String × Json)) →
    (checkProperties ms keywords = .ok () ↔
      ∀ properties, Members.get? keywords "properties" = some (.obj properties) →
        EachConforms ms properties)
  | [] => by simp [checkProperties, Members.get?]
  | (keyword, v) :: rest => by
    have below := checkProperties_eq_ok ms rest
    rw [checkProperties.eq_def, Members.get?, lookup_cons_ite]
    by_cases hkeyword : keyword = "properties"
    · cases v with
      | obj properties => simp [hkeyword, checkEach_eq_ok ms properties]
      | _ => simp [hkeyword]
    · dsimp only
      rw [if_neg hkeyword, if_neg (Ne.symm hkeyword)]
      exact below

theorem checkEach_eq_ok (ms : Members) : (properties : List (String × Json)) →
    (checkEach ms properties = .ok () ↔ EachConforms ms properties)
  | [] => by simp [checkEach, EachConforms]
  | (name, schema) :: rest => by
    have here := fun v => checkValue_eq_ok name v schema
    have below := checkEach_eq_ok ms rest
    rw [EachConforms, List.forall_mem_cons]
    by_cases hx : ∃ x, Members.get? ms name = some x ∧ x ≠ .null
    · obtain ⟨x, hx, hnull⟩ := hx
      rw [checkEach_present hx hnull, here, below]
      simp [hx, hnull, EachConforms]
    · have absent : ∀ x, Members.get? ms name = some x → x = .null := by
        simpa using hx
      rw [checkEach_absent absent, below]
      exact (and_iff_right fun x h hnull => absurd (absent x h) hnull).symm

end

/-- Arguments pass the check against a schema exactly when their compact text has at most 1048576
bytes, nothing in them lies in more than 32 containers, and every value in them that names of
properties lead to suits the schema that the names lead to. -/
theorem check_eq_ok (arguments schema : Json) :
    check arguments schema = .ok () ↔
      arguments.compress.utf8ByteSize ≤ 1048576
      ∧ (∀ n w, Lies arguments n w → n ≤ 32)
      ∧ ∀ names s w, Reaches schema arguments names s w → Suits s w := by
  have depth : checkDepth maxDepth 0 arguments = .ok () ↔ ∀ n w, Lies arguments n w → n ≤ 32 := by
    rw [checkDepth_eq_ok]
    simp [Within, maxDepth]
  have value : checkValue "arguments" arguments schema = .ok () ↔
      ∀ names s w, Reaches schema arguments names s w → Suits s w :=
    checkValue_eq_ok "arguments" arguments schema
  rw [← depth, ← value, check, refused_or_eq_ok]
  refine and_congr_right fun _ => ?_
  cases checkDepth maxDepth 0 arguments <;> simp

end Toolwire.Schema
