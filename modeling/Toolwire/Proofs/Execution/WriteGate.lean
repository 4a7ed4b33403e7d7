import Mathlib
import Toolwire.Proofs.Execution.Calls
/-!
# The gate before writes

A run of a statement takes one of five courses, and which one is settled by the arguments, by
`read_only`, by the gate and by the mode, in this order. Credentials come after all of them, and
the retried call comes last: `execute_gated`.
-/
namespace Toolwire

/-- Whether an event puts a write before the gate. -/
def Event.isAsk : Event → Bool
  | .ask .. => true
  | _ => false

/-- The questions to the gate in a trace, in order. -/
def Trace.asks {α : Type} (t : Trace α) : List Event := t.events.filter Event.isAsk

theorem Trace.asks_retried {α : Type} {call : Event} (hc : call.isAsk = false) (b : Binding)
    (operation : String) (attempts : Nat → Attempt α) :
    (retried b operation call attempts).asks = [] := by
  unfold asks retried
  rw [filter_ofRun (fun _ => rfl) (fun _ => rfl), List.filter_replicate, hc,
    if_neg Bool.false_ne_true]

theorem Binding.mode_of_isShadow {b : Binding} (h : b.isShadow = false) : b.mode = .active := by
  unfold isShadow at h
  cases hm : b.mode with
  | active => rfl
  | shadow =>
    rw [hm] at h
    cases h

namespace Sql

variable {backend : Backend} {gate : Gate} {b : Binding} {q : SqlBinding} {args : Members}
  {s : Statement}

/-! ## Courses of a run -/

theorem approve_ok {shadow : Bool} (hg : gate s shadow = .ok ()) :
    approve gate s shadow = ⟨[.ask s shadow], .ok ()⟩ := by
  unfold approve
  rw [hg]
  rfl

/-- A refused write is logged. -/
theorem approve_refused {shadow : Bool} {reason : String} (hg : gate s shadow = .error reason) :
    approve gate s shadow =
      ⟨[.ask s shadow, .log { level := .warn, message := "SQL write denied",
                              fields := [("reason", reason)] }],
        .error (.writeDenied reason)⟩ := by
  unfold approve
  rw [hg]
  rfl

theorem execute_unbound {f : Failure} (hb : bind q args = .error f) :
    execute backend gate b q args = fun _ => Trace.fail f := by
  funext r
  unfold execute
  rw [hb]
  rfl

theorem execute_bound (hb : bind q args = .ok s) (r : Resolver) :
    execute backend gate b q args r =
      if q.readOnly then runRead backend b q s r
      else approve gate s b.isShadow >>= fun _ =>
        if b.isShadow then shadowOutcome s else runWrite backend b q s r := by
  unfold execute
  rw [hb]
  rfl

theorem execute_read (hb : bind q args = .ok s) (hr : q.readOnly = true) :
    execute backend gate b q args = runRead backend b q s := by
  funext r
  rw [execute_bound hb, if_pos hr]

theorem execute_refused {reason : String} (hb : bind q args = .ok s) (hr : q.readOnly = false)
    (hg : gate s b.isShadow = .error reason) :
    execute backend gate b q args = fun _ =>
      ⟨(approve gate s b.isShadow).events, .error (.writeDenied reason)⟩ := by
  funext r
  rw [execute_bound hb, hr, if_neg Bool.false_ne_true, approve_refused hg]
  rfl

theorem execute_shadow (hb : bind q args = .ok s) (hr : q.readOnly = false)
    (hg : gate s b.isShadow = .ok ()) (hs : b.isShadow = true) :
    execute backend gate b q args = fun _ =>
      ⟨.ask s b.isShadow :: (shadowOutcome s).events, (shadowOutcome s).outcome⟩ := by
  funext r
  rw [execute_bound hb, hr, if_neg Bool.false_ne_true, approve_ok hg, if_pos hs]
  rfl

theorem execute_approved (hb : bind q args = .ok s) (hr : q.readOnly = false)
    (hg : gate s b.isShadow = .ok ()) (hs : b.isShadow = false) :
    execute backend gate b q args = fun r =>
      ⟨.ask s b.isShadow :: (runWrite backend b q s r).events,
        (runWrite backend b q s r).outcome⟩ := by
  funext r
  rw [execute_bound hb, hr, if_neg Bool.false_ne_true, approve_ok hg, hs,
    if_neg Bool.false_ne_true]
  rfl

/-! ## Behind the gate -/

/-- A read is a retried call, unless its connection is not to be had. -/
theorem runRead_cases (backend : Backend) (b : Binding) (q : SqlBinding) (s : Statement)
    (r : Resolver) :
    ((runRead backend b q s r).calls = [] ∧ (runRead backend b q s r).asks = []
        ∧ ∀ o, (runRead backend b q s r).outcome ≠ .ok o)
      ∨ ∃ c n, r.resolveCredential "connection" q.connection = .ok c
        ∧ (runRead backend b q s r).calls = List.replicate (n + 1) (.fetch c s q.maxRows)
        ∧ (runRead backend b q s r).asks = []
        ∧ (runRead backend b q s r).outcome = ((backend.fetch n).within b.timeoutMs).map
          fun rows => rowsOutcome (rows.take q.maxRows) := by
  unfold runRead
  cases hc : r.resolveCredential "connection" q.connection with
  | error err =>
    rw [Trace.connected_of_error rfl]
    exact .inl ⟨rfl, rfl, nofun⟩
  | ok c =>
    rw [Trace.connected_of_ok rfl]
    have hcall : (Event.fetch c s q.maxRows).isExternal = true := rfl
    obtain ⟨n, hcalls, ho⟩ := Trace.retried_last hcall b "sql.fetch" backend.fetch
    exact .inr ⟨c, n, rfl, hcalls, Trace.asks_retried rfl b _ _, congrArg (Except.map _) ho⟩

/-- So is a write. -/
theorem runWrite_cases (backend : Backend) (b : Binding) (q : SqlBinding) (s : Statement)
    (r : Resolver) :
    (runWrite backend b q s r).asks = []
      ∧ ((runWrite backend b q s r).calls = []
        ∨ ∃ c n, r.resolveCredential "connection" q.connection = .ok c
          ∧ (runWrite backend b q s r).calls = List.replicate (n + 1) (.write c s)) := by
  unfold runWrite
  cases hc : r.resolveCredential "connection" q.connection with
  | error err =>
    rw [Trace.connected_of_error rfl]
    exact ⟨rfl, .inl rfl⟩
  | ok c =>
    rw [Trace.connected_of_ok rfl]
    have hcall : (Event.write c s).isExternal = true := rfl
    obtain ⟨n, hcalls, -⟩ := Trace.retried_last hcall b "sql.execute" backend.write
    exact ⟨Trace.asks_retried rfl b _ _, .inr ⟨c, n, rfl, hcalls⟩⟩

theorem eq_fetch_of_mem_runRead {r : Resolver} {e : Event}
    (he : e ∈ (runRead backend b q s r).events) (hx : e.isExternal = true) :
    ∃ c, e = .fetch c s q.maxRows := by
  rcases runRead_cases backend b q s r with ⟨hcalls, -⟩ | ⟨c, n, -, hcalls, -⟩
  · have hmem : e ∈ (runRead backend b q s r).calls := Trace.mem_calls.2 ⟨he, hx⟩
    rw [hcalls] at hmem
    cases hmem
  · exact ⟨c, Trace.eq_of_calls hcalls he hx⟩

theorem eq_write_of_mem_runWrite {r : Resolver} {e : Event}
    (he : e ∈ (runWrite backend b q s r).events) (hx : e.isExternal = true) :
    ∃ c, e = .write c s := by
  rcases (runWrite_cases backend b q s r).2 with hcalls | ⟨c, n, -, hcalls⟩
  · have hmem : e ∈ (runWrite backend b q s r).calls := Trace.mem_calls.2 ⟨he, hx⟩
    rw [hcalls] at hmem
    cases hmem
  · exact ⟨c, Trace.eq_of_calls hcalls he hx⟩

/-! ## What a run keeps to -/

/-- The questions that a run puts to the gate: one about a write that binds. -/
def questions (b : Binding) (q : SqlBinding) (args : Members) : List Event :=
  if q.readOnly then []
  else
    match bind q args with
    | .ok s => [.ask s b.isShadow]
    | .error _ => []

/-- The call that a run makes of the database. -/
def callOf (q : SqlBinding) (s : Statement) (connection : String) : Event :=
  if q.readOnly then .fetch connection s q.maxRows else .write connection s

/-- What the runs of a statement keep to, each with a resolver of its own. -/
structure FailsClosed (backend : Backend) (gate : Gate) (b : Binding) (q : SqlBinding)
    (args : Members) (run : Resolver → Trace Outcome) : Prop where
  /-- A write is made by an active binding that is not read-only, behind a question to the gate
  about this very statement, which the gate approves. -/
  write : ∀ r before c s after, (run r).events = before ++ .write c s :: after →
    q.readOnly = false ∧ b.mode = .active ∧ .ask s false ∈ before ∧ gate s false = .ok ()
  /-- Rows are fetched by a read-only binding. -/
  fetch : ∀ r c s maxRows, .fetch c s maxRows ∈ (run r).events → q.readOnly = true
  /-- The gate is asked once about a write that binds, and never else. -/
  asks : ∀ r, (run r).asks = questions b q args
  /-- A refusal ends the run before the database is called. No credential is looked up: the run
  is the same with every resolver. -/
  refused : ∀ s reason, q.readOnly = false → bind q args = .ok s →
    gate s b.isShadow = .error reason →
    ∀ r, (run r).outcome = .error (.writeDenied reason) ∧ (run r).calls = []
      ∧ ∀ other, run other = run r
  /-- The database gets one call over and over, with the same statement and connection. -/
  calls : ∀ r, (run r).calls = [] ∨ ∃ s c n, bind q args = .ok s
    ∧ r.resolveCredential "connection" q.connection = .ok c
    ∧ (run r).calls = List.replicate n (callOf q s c)
  /-- A read that succeeds returns the first of the rows that its last call has given, as many as
  are allowed, and says how many they are. -/
  rows : q.readOnly = true → ∀ r o, (run r).outcome = .ok o →
    ∃ n given rows, (run r).calls.length = n + 1 ∧ (backend.fetch n).outcome = .ok given
      ∧ rows <+: given ∧ rows.length = min q.maxRows given.length
      ∧ o.data = some (.arr (rows.map .obj))
      ∧ Members.get? o.extras "row_count" = some (.ofNat rows.length)

namespace FailsClosed

/-- Runs that never call the database keep to all that is said of its calls. -/
theorem of_quiet {run : Resolver → Trace Outcome} (quiet : ∀ r, (run r).calls = [])
    (asks : ∀ r, (run r).asks = questions b q args)
    (refused : ∀ s reason, q.readOnly = false → bind q args = .ok s →
      gate s b.isShadow = .error reason →
      ∀ r, (run r).outcome = .error (.writeDenied reason) ∧ ∀ other, run other = run r)
    (rows : q.readOnly = true → ∀ r o, (run r).outcome ≠ .ok o) :
    FailsClosed backend gate b q args run := by
  have silent : ∀ r (e : Event), e.isExternal = true → e ∉ (run r).events := by
    intro r e hx he
    have hmem : e ∈ (run r).calls := Trace.mem_calls.2 ⟨he, hx⟩
    rw [quiet r] at hmem
    cases hmem
  refine ⟨?_, ?_, asks, ?_, fun r => .inl (quiet r), fun hr r o ho => absurd ho (rows hr r o)⟩
  · intro r before c s after he
    refine absurd ?_ (silent r (.write c s) rfl)
    rw [he]
    exact List.mem_append_right _ List.mem_cons_self
  · intro r c s maxRows he
    exact absurd he (silent r _ rfl)
  · intro s reason hr hb hg r
    obtain ⟨ho, hsame⟩ := refused s reason hr hb hg r
    exact ⟨ho, quiet r, hsame⟩

theorem of_unbound {f : Failure} (hb : bind q args = .error f) :
    FailsClosed backend gate b q args fun _ => Trace.fail f := by
  refine .of_quiet (fun _ => rfl) (fun _ => ?_) ?_ (fun _ _ => nofun)
  · unfold questions
    rw [hb]
    split <;> rfl
  · intro s reason _ hb'
    rw [hb] at hb'
    cases hb'

theorem of_read (hb : bind q args = .ok s) (hr : q.readOnly = true) :
    FailsClosed backend gate b q args (runRead backend b q s) where
  write r before c s' after he := by
    have hw : Event.write c s' ∈ (runRead backend b q s r).events := by
      rw [he]
      exact List.mem_append_right _ List.mem_cons_self
    obtain ⟨c', hsame⟩ := eq_fetch_of_mem_runRead hw rfl
    cases hsame
  fetch _ _ _ _ _ := hr
  asks r := by
    unfold questions
    rw [if_pos hr]
    rcases runRead_cases backend b q s r with ⟨-, ha, -⟩ | ⟨c, n, -, -, ha, -⟩ <;> exact ha
  refused _ _ hw := by
    rw [hr] at hw
    cases hw
  calls r := by
    rcases runRead_cases backend b q s r with ⟨hcalls, -⟩ | ⟨c, n, hc, hcalls, -⟩
    · exact .inl hcalls
    · refine .inr ⟨s, c, n + 1, hb, hc, ?_⟩
      rw [callOf, if_pos hr]
      exact hcalls
  rows _ r o ho := by
    rcases runRead_cases backend b q s r with ⟨-, -, hno⟩ | ⟨c, n, -, hcalls, -, hout⟩
    · exact absurd ho (hno o)
    · rw [ho] at hout
      obtain ⟨given, hw, rfl⟩ := map_eq_ok.1 hout.symm
      refine ⟨n, given, given.take q.maxRows, ?_, Retry.within_ok hw, List.take_prefix _ _,
        List.length_take, rfl, Members.get?_insert_self _ _ _⟩
      rw [hcalls, List.length_replicate]

theorem of_refused {reason : String} (hb : bind q args = .ok s) (hr : q.readOnly = false)
    (hg : gate s b.isShadow = .error reason) :
    FailsClosed backend gate b q args fun _ =>
      ⟨(approve gate s b.isShadow).events, .error (.writeDenied reason)⟩ := by
  rw [approve_refused hg]
  refine .of_quiet (fun _ => rfl) (fun _ => ?_) ?_ (fun _ _ => nofun)
  · unfold questions
    rw [hb, hr]
    rfl
  · intro s' reason' _ hb' hg' r
    obtain rfl : s = s' := Except.ok.inj (hb.symm.trans hb')
    obtain rfl : reason = reason' := Except.error.inj (hg.symm.trans hg')
    exact ⟨rfl, fun _ => rfl⟩

theorem of_shadow (hb : bind q args = .ok s) (hr : q.readOnly = false)
    (hg : gate s b.isShadow = .ok ()) :
    FailsClosed backend gate b q args fun _ =>
      ⟨.ask s b.isShadow :: (shadowOutcome s).events, (shadowOutcome s).outcome⟩ := by
  refine .of_quiet (fun _ => rfl) (fun _ => ?_) ?_ ?_
  · unfold questions
    rw [hb, hr]
    rfl
  · intro s' reason _ hb' hg'
    obtain rfl : s = s' := Except.ok.inj (hb.symm.trans hb')
    rw [hg] at hg'
    cases hg'
  · intro hr'
    rw [hr] at hr'
    cases hr'

/-- The question comes first in a run that writes, so it is among what precedes a write. -/
theorem of_approved (hb : bind q args = .ok s) (hr : q.readOnly = false)
    (hg : gate s b.isShadow = .ok ()) (hs : b.isShadow = false) :
    FailsClosed backend gate b q args fun r =>
      ⟨.ask s b.isShadow :: (runWrite backend b q s r).events,
        (runWrite backend b q s r).outcome⟩ where
  write r before c s' after he := by
    rw [hs] at hg he
    -- The question is the first event, so a write has it before it.
    cases before with
    | nil => cases (List.cons.inj he).1
    | cons e before =>
      obtain ⟨rfl, htail⟩ := List.cons.inj he
      have hw : Event.write c s' ∈ (runWrite backend b q s r).events :=
        htail ▸ List.mem_append_right _ List.mem_cons_self
      obtain ⟨c', hsame⟩ := eq_write_of_mem_runWrite hw rfl
      cases hsame
      exact ⟨hr, Binding.mode_of_isShadow hs, List.mem_cons_self, hg⟩
  fetch r c s' maxRows he := by
    rcases List.mem_cons.1 he with he | he
    · cases he
    · obtain ⟨c', hsame⟩ := eq_write_of_mem_runWrite he rfl
      cases hsame
  asks r := by
    unfold questions
    rw [hb, hr, if_neg Bool.false_ne_true]
    exact congrArg _ (runWrite_cases backend b q s r).1
  refused s' reason _ hb' hg' := by
    obtain rfl : s = s' := Except.ok.inj (hb.symm.trans hb')
    rw [hg] at hg'
    cases hg'
  calls r := by
    rcases (runWrite_cases backend b q s r).2 with hcalls | ⟨c, n, hc, hcalls⟩
    · exact .inl hcalls
    · refine .inr ⟨s, c, n + 1, hb, hc, ?_⟩
      rw [callOf, hr, if_neg Bool.false_ne_true]
      exact hcalls
  rows hr' := by
    rw [hr] at hr'
    cases hr'

end FailsClosed

/-- A run of a statement fails closed: a write needs `read_only` unset, the active mode and the
approval of the gate for the very statement that is run, and until then no credential is looked
up and nothing is called. -/
theorem execute_gated (backend : Backend) (gate : Gate) (b : Binding) (q : SqlBinding)
    (args : Members) :
    FailsClosed backend gate b q args (execute backend gate b q args) := by
  cases hb : bind q args with
  | error f =>
    rw [execute_unbound hb]
    exact .of_unbound hb
  | ok s =>
    cases hr : q.readOnly with
    | true =>
      rw [execute_read hb hr]
      exact .of_read hb hr
    | false =>
      cases hg : gate s b.isShadow with
      | error reason =>
        rw [execute_refused hb hr hg]
        exact .of_refused hb hr hg
      | ok _ =>
        cases hs : b.isShadow with
        | true =>
          rw [execute_shadow hb hr hg hs]
          exact .of_shadow hb hr hg
        | false =>
          rw [execute_approved hb hr hg hs]
          exact .of_approved hb hr hg hs

end Sql
end Toolwire
