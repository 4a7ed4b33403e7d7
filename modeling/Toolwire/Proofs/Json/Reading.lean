import Mathlib
import Toolwire.Binding.Encoding
/-!
# What readers read

Members are a map: what `ofList` holds is what its pairs say last. For each reader there is
one equivalence that says which values it reads as what, so it serves reading and writing
back alike.
-/
namespace Toolwire

theorem bind_eq_ok {ε α β : Type} {x : Except ε α} {f : α → Except ε β} {b : β} :
    x >>= f = .ok b ↔ ∃ a, x = .ok a ∧ f a = .ok b := by
  cases x <;> simp [bind, Except.bind]

theorem map_eq_ok {ε α β : Type} {x : Except ε α} {f : α → β} {b : β} :
    x.map f = .ok b ↔ ∃ a, x = .ok a ∧ f a = b := by
  cases x <;> simp [Except.map]

theorem bind_eq_error {ε α β : Type} {x : Except ε α} {f : α → Except ε β} {e : ε} :
    x >>= f = .error e ↔ x = .error e ∨ ∃ a, x = .ok a ∧ f a = .error e := by
  cases x <;> simp [bind, Except.bind]

theorem map_eq_error {ε α β : Type} {x : Except ε α} {f : α → β} {e : ε} :
    x.map f = .error e ↔ x = .error e := by
  cases x <;> simp [Except.map]

theorem mem_of_lookup {α β : Type} [BEq α] [LawfulBEq α] {pairs : List (α × β)} {key : α}
    {value : β} (h : pairs.lookup key = some value) : (key, value) ∈ pairs := by
  obtain ⟨before, after, rfl, -⟩ := List.lookup_eq_some_iff.1 h
  simp

/-! ## Members -/

namespace Members

variable {α β : Type}

theorem get?_mem {ms : List (String × α)} {key : String} {v : α} (h : get? ms key = some v) :
    (key, v) ∈ ms :=
  mem_of_lookup h

theorem mem_insert {ms : List (String × α)} {key : String} {value : α} {p : String × α}
    (h : p ∈ insert ms key value) : p = (key, value) ∨ p ∈ ms := by
  induction ms with
  | nil => simpa [insert] using h
  | cons m rest ih =>
    simp only [insert] at h
    split at h
    · simp only [List.mem_cons] at h ⊢
      tauto
    · split at h
      · simpa using h
      · rcases List.mem_cons.1 h with h | h
        · exact .inr (by simp [h])
        · rcases ih h with h | h
          · exact .inl h
          · exact .inr (List.mem_cons_of_mem _ h)

theorem mem_ofList {pairs : List (String × α)} {p : String × α} (h : p ∈ ofList pairs) :
    p ∈ pairs := by
  have main : ∀ (pairs ms : List (String × α)),
      p ∈ pairs.foldl (fun ms p => insert ms p.1 p.2) ms → p ∈ ms ∨ p ∈ pairs := by
    intro pairs
    induction pairs with
    | nil => intro ms h; exact .inl h
    | cons q rest ih =>
      intro ms h
      rcases ih _ h with h | h
      · rcases mem_insert h with h | h
        · exact .inr (by simp [h])
        · exact .inl h
      · exact .inr (List.mem_cons_of_mem _ h)
  simpa using main pairs [] h

/-- The last pair of a key counts. -/
theorem get?_ofList (pairs : List (String × α)) (key : String) :
    get? (ofList pairs) key = pairs.reverse.lookup key := by
  have main : ∀ (pairs ms : List (String × α)),
      get? (pairs.foldl (fun ms p => insert ms p.1 p.2) ms) key =
        (pairs.reverse.lookup key).or (get? ms key) := by
    intro pairs
    induction pairs with
    | nil => intro ms; simp
    | cons p rest ih =>
      intro ms
      rw [List.foldl_cons, ih, List.reverse_cons, List.lookup_append, Option.or_assoc]
      congr 1
      obtain ⟨k, v⟩ := p
      by_cases hk : key = k
      · subst hk
        simp [get?_insert_self]
      · simp [get?_insert_of_ne ms v hk, List.lookup_cons, beq_eq_false_iff_ne.2 hk]
  simpa [get?, ofList] using main pairs []

/-- Where no key has two values, an object of pairs holds these pairs. -/
theorem get?_ofList_iff {pairs : List (String × α)}
    (h : ∀ k v v', (k, v) ∈ pairs → (k, v') ∈ pairs → v = v') {key : String} {value : α} :
    get? (ofList pairs) key = some value ↔ (key, value) ∈ pairs := by
  constructor
  · exact fun hg => mem_ofList (get?_mem hg)
  · intro hm
    rw [get?_ofList]
    cases hl : pairs.reverse.lookup key with
    | none =>
      have hno := List.lookup_eq_none_iff.1 hl (key, value) (List.mem_reverse.2 hm)
      simp at hno
    | some other =>
      rw [h key value other hm (List.mem_reverse.1 (mem_of_lookup hl))]

/-- Writing values anew under the same keys does not move them. -/
theorem ofList_map (f : String → α → β) (pairs : List (String × α)) :
    ofList (pairs.map fun p => (p.1, f p.1 p.2)) =
      (ofList pairs).map fun p => (p.1, f p.1 p.2) := by
  have step : ∀ (ms : List (String × α)) (key : String) (value : α),
      insert (ms.map fun p => (p.1, f p.1 p.2)) key (f key value) =
        (insert ms key value).map fun p => (p.1, f p.1 p.2) := by
    intro ms key value
    induction ms with
    | nil => rfl
    | cons m rest ih =>
      simp only [List.map_cons, insert, ih]
      split
      · simp
      · split <;> simp
  have main : ∀ (pairs ms : List (String × α)),
      (pairs.map fun p => (p.1, f p.1 p.2)).foldl (fun ms p => insert ms p.1 p.2)
          (ms.map fun p => (p.1, f p.1 p.2)) =
        (pairs.foldl (fun ms p => insert ms p.1 p.2) ms).map fun p => (p.1, f p.1 p.2) := by
    intro pairs
    induction pairs with
    | nil => intro ms; rfl
    | cons p rest ih =>
      intro ms
      simp only [List.map_cons, List.foldl_cons, step]
      exact ih _
  exact main pairs []

theorem keys_ofList {pairs : List (String × α)} {key : String} (h : key ∈ keys (ofList pairs)) :
    key ∈ pairs.map (·.1) := by
  obtain ⟨p, hp, rfl⟩ := List.mem_map.1 h
  exact List.mem_map_of_mem (mem_ofList hp)

end Members

/-! ## Looking up what may be absent -/

theorem mem_unless {α : Type} {absent : Bool} {x m : α} (h : m ∈ if absent then [] else [x]) :
    absent = false ∧ m = x := by
  cases absent <;> simp_all

theorem lookup_cons_ite {α : Type} (name key : String) (v : α) (rest : List (String × α)) :
    ((name, v) :: rest).lookup key = if key = name then some v else rest.lookup key := by
  by_cases h : key = name
  · simp [h]
  · simp [List.lookup_cons, beq_eq_false_iff_ne.2 h, h]

theorem lookup_option {α β : Type} (name key : String) (o : Option α) (f : α → β) :
    ((o.map fun a => (name, f a)).toList.reverse).lookup key =
      if key = name then o.map f else none := by
  cases o <;> simp [lookup_cons_ite]

theorem lookup_unless {α : Type} (name key : String) (absent : Bool) (v : α) :
    ((if absent then [] else [(name, v)]).reverse).lookup key =
      if key = name then (if absent then none else some v) else none := by
  cases absent <;> simp [lookup_cons_ite]

/-! ## Members in order -/

namespace Members

variable {α : Type}

/-- The keys stand in ascending order. -/
def Sorted (ms : List (String × α)) : Prop := ms.Pairwise fun m n => m.1 < n.1

theorem Sorted.nodup_keys {ms : List (String × α)} (h : Sorted ms) : (keys ms).Nodup := by
  have hlt : (keys ms).Pairwise (· < ·) := List.pairwise_map.2 h
  exact hlt.imp fun h => h.ne

theorem Sorted.get?_eq_some {ms : List (String × α)} (h : Sorted ms) {key : String} {value : α} :
    get? ms key = some value ↔ (key, value) ∈ ms := by
  constructor
  · exact get?_mem
  · intro hm
    obtain ⟨before, after, rfl⟩ := List.append_of_mem hm
    refine List.lookup_eq_some_iff.2 ⟨before, after, rfl, fun p hp => bne_iff_ne.2 ?_⟩
    exact ((List.pairwise_append.1 h).2.2 p hp (key, value) List.mem_cons_self).ne'

theorem sorted_insert {ms : List (String × α)} (h : Sorted ms) (key : String) (value : α) :
    Sorted (insert ms key value) := by
  induction ms with
  | nil => exact List.pairwise_singleton _ _
  | cons m rest ih =>
    obtain ⟨k, v⟩ := m
    obtain ⟨hk, hrest⟩ := List.pairwise_cons.1 h
    unfold insert
    split
    · rename_i heq
      exact List.pairwise_cons.2 ⟨fun n hn => heq ▸ hk n hn, hrest⟩
    · rename_i hne
      split
      · rename_i hlt
        refine List.pairwise_cons.2 ⟨fun n hn => ?_, h⟩
        rcases List.mem_cons.1 hn with rfl | hn
        · exact hlt
        · exact hlt.trans (hk n hn)
      · rename_i hnlt
        have hlt : k < key := lt_of_le_of_ne (not_lt.1 hnlt) hne
        refine List.pairwise_cons.2 ⟨fun n hn => ?_, ih hrest⟩
        rcases mem_insert hn with rfl | hn
        · exact hlt
        · exact hk n hn

theorem sorted_erase {ms : List (String × α)} (h : Sorted ms) (key : String) :
    Sorted (erase ms key) :=
  List.Pairwise.filter _ h

theorem get?_erase_self (ms : List (String × α)) (key : String) :
    get? (erase ms key) key = none := by
  apply List.lookup_eq_none_iff.2
  intro m hm
  have hne : m.1 ≠ key := bne_iff_ne.1 (List.mem_filter.1 hm).2
  exact bne_iff_ne.2 hne.symm

theorem get?_erase_of_ne (ms : List (String × α)) {key other : String} (h : other ≠ key) :
    get? (erase ms key) other = get? ms other := by
  induction ms with
  | nil => rfl
  | cons m rest ih =>
    obtain ⟨k, v⟩ := m
    unfold get? erase at ih ⊢
    by_cases hk : k = key
    · subst hk
      rw [List.filter_cons_of_neg (by simp), ih, lookup_cons_ite, if_neg h]
    · rw [List.filter_cons_of_pos (by simpa using hk), lookup_cons_ite, lookup_cons_ite, ih]

theorem isSome_get? {ms : List (String × α)} {key : String} :
    (get? ms key).isSome = true ↔ key ∈ keys ms := by
  unfold get? keys
  induction ms with
  | nil => simp
  | cons m rest ih =>
    obtain ⟨k, v⟩ := m
    rw [lookup_cons_ite, List.map_cons, List.mem_cons]
    split
    · rename_i hk
      exact iff_of_true rfl (.inl hk)
    · rename_i hk
      rw [ih]
      simp [hk]

end Members

/-! ## Readers -/

namespace Json.Reader

variable {α : Type}

theorem string_eq_ok {v : Json} {s : String} : Reader.string v = .ok s ↔ v = .str s := by
  cases v <;> simp [Reader.string, unexpected]

theorem bool_eq_ok {v : Json} {b : Bool} : Reader.bool v = .ok b ↔ v = .bool b := by
  cases v <;> simp [Reader.bool, unexpected]

theorem unsigned_eq_ok {bits : Nat} {name : String} {v : Json} {n : Nat} :
    unsigned bits name v = .ok n ↔ v = .ofNat n ∧ n < 2 ^ bits := by
  cases v with
  | int m =>
    simp only [unsigned, ofNat, Json.int.injEq]
    split
    · rename_i h
      simp only [Bool.and_eq_true, decide_eq_true_eq] at h
      have h2 : m < ((2 ^ bits : Nat) : Int) := h.2
      simp only [Except.ok.injEq]
      omega
    · rename_i h
      simp only [Bool.and_eq_true, decide_eq_true_eq, not_and, not_lt] at h
      simp only [reduceCtorEq, false_iff, not_and]
      rintro rfl
      have h2 : ((2 ^ bits : Nat) : Int) ≤ (n : Int) := h (Int.natCast_nonneg n)
      omega
  | _ => simp [unsigned, unexpected, ofNat]

theorem option_any_eq_ok {v : Json} {o : Option Json} :
    Reader.option Reader.any v = .ok o ↔ (v = .null ∧ o = none) ∨ (v ≠ .null ∧ o = some v) := by
  cases v <;> simp [Reader.option, Reader.any, Except.map, eq_comm]

theorem option_string_eq_ok {v : Json} {o : Option String} :
    Reader.option Reader.string v = .ok o ↔
      (v = .null ∧ o = none) ∨ ∃ s, v = .str s ∧ o = some s := by
  cases v <;> simp [Reader.option, Reader.string, Except.map, unexpected, eq_comm]

theorem eachMember_string {ms : Members} {as : List (String × String)} :
    eachMember Reader.string ms = .ok as ↔ ms = as.map fun m => (m.1, .str m.2) := by
  constructor
  · intro h
    induction ms generalizing as with
    | nil =>
      obtain rfl : [] = as := by simpa [eachMember] using h
      rfl
    | cons m rest ih =>
      obtain ⟨k, v⟩ := m
      simp only [eachMember] at h
      split at h
      · cases h
      · rename_i s hs
        split at h
        · cases h
        · rename_i bs hb
          cases h
          rw [ih hb, string_eq_ok.1 hs]
          rfl
  · rintro rfl
    induction as with
    | nil => rfl
    | cons a as ih => simp [eachMember, Reader.string, ih]

theorem readStrings_eq_ok {v : Json} {ms : List (String × String)} :
    readStrings v = .ok ms ↔ v = stringsJson ms := by
  cases v <;> simp [readStrings, mapOf, stringsJson, unexpected, eachMember_string]

theorem field?_eq_ok {ms : Members} {key : String} {r : Reader α} {o : Option α} :
    field? ms key r = .ok o ↔
      (Members.get? ms key = none ∧ o = none) ∨
        ∃ v a, Members.get? ms key = some v ∧ r v = .ok a ∧ o = some a := by
  cases h : Members.get? ms key <;> simp [field?, h, map_eq_ok, @eq_comm _ o]

/-- What a field is read as, when it is there. -/
theorem read_of_field? {ms : Members} {key : String} {r : Reader α} {o : Option α}
    {v : Json} (h : field? ms key r = .ok o) (hv : Members.get? ms key = some v) :
    ∃ a, r v = .ok a ∧ o = some a := by
  rcases field?_eq_ok.1 h with ⟨hn, -⟩ | ⟨w, a, hw, ha, ho⟩
  · rw [hv] at hn
    cases hn
  · obtain rfl : v = w := Option.some.inj (hv.symm.trans hw)
    exact ⟨a, ha, ho⟩

theorem item?_eq_ok {items : List Json} {index : Nat} {r : Reader α} {o : Option α} :
    item? items index r = .ok o ↔
      (items[index]? = none ∧ o = none) ∨
        ∃ v a, items[index]? = some v ∧ r v = .ok a ∧ o = some a := by
  cases h : items[index]? <;> simp [item?, h, map_eq_ok, @eq_comm _ o]

/-- A field under two names was under one of them. -/
theorem alias?_eq_ok {ms : Members} {key field : String} {r : Reader α} {first o : Option α} :
    alias? ms key field r first = .ok o ↔
      (Members.get? ms key = none ∧ o = first) ∨
        ∃ v a, Members.get? ms key = some v ∧ first = none ∧ r v = .ok a ∧ o = some a := by
  cases h : Members.get? ms key <;> cases first <;> simp [alias?, h, map_eq_ok, @eq_comm _ o]

theorem field?_of_none {ms : Members} {key : String} {r : Reader α}
    (h : Members.get? ms key = none) : field? ms key r = .ok none :=
  field?_eq_ok.2 (.inl ⟨h, rfl⟩)

theorem field?_of_some {ms : Members} {key : String} {r : Reader α} {v : Json} {a : α}
    (h : Members.get? ms key = some v) (hr : r v = .ok a) : field? ms key r = .ok (some a) :=
  field?_eq_ok.2 (.inr ⟨v, a, h, hr, rfl⟩)

theorem field?_option_string {ms : Members} {key : String} {o : Option String}
    (h : Members.get? ms key = o.map .str) :
    field? ms key (option Reader.string) = .ok (o.map some) := by
  cases o with
  | none => exact field?_of_none h
  | some s => exact field?_of_some h rfl

/-- A field that is written unless its value is the default. -/
theorem field?_unless {ms : Members} {key : String} {r : Reader α} {absent : Bool}
    {v : Json} {a : α} (h : Members.get? ms key = if absent then none else some v)
    (hr : r v = .ok a) : field? ms key r = .ok (if absent then none else some a) := by
  cases absent with
  | true => exact field?_of_none h
  | false => exact field?_of_some h hr

end Json.Reader

/-! ## Protocols -/

namespace Protocol

/-- The fields of a protocol are read from members, as its type asks. -/
def ReadFrom (ms : Members) : Protocol → Prop
  | .http b => HttpBinding.readFields ms = .ok b
  | .queue b => QueueBinding.readFields ms = .ok b
  | .sql b => SqlBinding.readFields ms = .ok b
  | .grpc b => GrpcBinding.readFields ms = .ok b

theorem readFrom_of_readFields {ms : Members} {p : Protocol} (h : readFields ms = .ok p) :
    p.ReadFrom ms := by
  obtain ⟨name, -, h⟩ := bind_eq_ok.1 h
  split at h
  · obtain ⟨b, hb, rfl⟩ := map_eq_ok.1 h
    exact hb
  split at h
  · obtain ⟨b, hb, rfl⟩ := map_eq_ok.1 h
    exact hb
  split at h
  · obtain ⟨b, hb, rfl⟩ := map_eq_ok.1 h
    exact hb
  · obtain ⟨b, hb, rfl⟩ := map_eq_ok.1 h
    exact hb

end Protocol
end Toolwire
