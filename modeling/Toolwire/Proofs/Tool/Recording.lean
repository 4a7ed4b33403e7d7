import Mathlib
import Toolwire.Call
/-!
# Records of calls

Whatever an invocation comes to, and at whichever stage, one record is made of it, and what
becomes of the record has no part in the outcome. A run of calls into one memory leaves one
record of each, in order: `makeAll_recorded`.
-/
namespace Toolwire

/-! ## Summaries -/

/-- A text in at most `max` characters: the whole text if it has no more, otherwise its first
`max` characters and the mark. -/
structure Summarizes (max : Nat) (text summary : String) : Prop where
  whole : text.length ≤ max → summary = text
  cut : max < text.length →
    ∃ head tail, text = head ++ tail ∧ head.length = max ∧ summary = head ++ truncationMark

theorem summarizes_truncate (text : String) (max : Nat) :
    Summarizes max text (truncate text max) := by
  have hlen : text.toList.length = text.length := String.length_toList
  constructor
  · intro h
    have hdrop : text.toList.drop max = [] := List.drop_eq_nil_of_le (by omega)
    unfold truncate
    simp only [hdrop]
  · intro h
    have hdrop : text.toList.drop max ≠ [] := by
      intro hnil
      have := List.drop_eq_nil_iff.1 hnil
      omega
    refine ⟨String.ofList (text.toList.take max), String.ofList (text.toList.drop max), ?_, ?_, ?_⟩
    · rw [← String.ofList_append, List.take_append_drop, String.ofList_toList]
    · rw [String.length_ofList, List.length_take]
      omega
    · simp only [truncate, String.ofList_append, String.ofList_toList]

/-! ## One record -/

/-- What an outcome is in full: the compact text of the result or the text of the failure. -/
def accountOf : Except Failure Outcome → String
  | .ok o => o.toJson.compress
  | .error f => f.message

/-- A record tells of a call that came to an outcome. -/
structure Record.Tells (r : Record) (c : Call) (outcome : Except Failure Outcome) : Prop where
  tool : r.toolName = c.tool.name
  type : r.bindingType = c.tool.binding.typeName
  mode : r.mode = c.tool.binding.mode
  parameters : r.parameters = c.arguments
  verdict : r.verdict = .success ↔ ∃ o, outcome = .ok o ∧ o.status ≠ .error
  status : ∀ s, r.resultStatus = some s ↔ ∃ o, outcome = .ok o ∧ s = o.status.text
  summary : Summarizes c.tool.summaryMax (accountOf outcome) r.resultSummary

theorem Outcome.isError_iff (o : Outcome) : o.isError = true ↔ o.status = .error := by
  unfold isError
  exact beq_iff_eq

namespace Call

/-- The record of a call. -/
def record (c : Call) : Record := c.tool.record c.arguments c.invocation.outcome c.stamp

/-- Results and failures are recorded alike. -/
theorem record_tells (c : Call) : c.record.Tells c c.invocation.outcome := by
  unfold record
  cases h : c.invocation.outcome with
  | ok o =>
    refine ⟨rfl, rfl, rfl, rfl, ?_, ?_, summarizes_truncate _ _⟩
    · simp only [Tool.record, Except.ok.injEq, exists_eq_left', ← o.isError_iff.not]
      cases o.isError <;> simp
    · intro s
      simp only [Tool.record, Option.some.injEq, Except.ok.injEq, exists_eq_left']
      exact eq_comm
  | error f =>
    refine ⟨rfl, rfl, rfl, rfl, ?_, ?_, summarizes_truncate _ _⟩
    · simp [Tool.record]
    · intro s
      simp [Tool.record]

/-! ## Runs of calls -/

/-- A keeper, whatever it answers, and no keeper leave the outcomes as they are. -/
theorem outcomes_makeAll {σ : Type} (keeper : Option (Keeper σ)) (held : σ) (calls : List Call) :
    (makeAll keeper held calls).2.map (·.outcome) = calls.map (·.invocation.outcome) := by
  induction calls generalizing held with
  | nil => rfl
  | cons c rest ih => exact congrArg (c.invocation.outcome :: ·) (ih _)

/-- A call adds its record to the memory, at the end. -/
theorem memory_make (c : Call) (books : Books) :
    (c.make Recorder.memory.keeper? books).1.memory = books.memory ++ [c.record] := rfl

theorem memory_makeAll (calls : List Call) (books : Books) :
    (makeAll Recorder.memory.keeper? books calls).1.memory = books.memory ++ calls.map record := by
  induction calls generalizing books with
  | nil => exact (List.append_nil _).symm
  | cons c rest ih =>
    calc (makeAll Recorder.memory.keeper? (c.make Recorder.memory.keeper? books).1 rest).1.memory
        = (c.make Recorder.memory.keeper? books).1.memory ++ rest.map record := ih _
      _ = books.memory ++ (c.record :: rest.map record) := by
        rw [memory_make, List.append_assoc, List.singleton_append]

/-- Calls of any tools that share a memory leave in it one record of each of them, in order,
that tells of the call and of the outcome that is returned; and what is returned is the same
with every keeper, one that refuses records or none at all included. -/
theorem makeAll_recorded (calls : List Call) (books : Books) :
    (∃ records, (makeAll Recorder.memory.keeper? books calls).1.memory = books.memory ++ records
      ∧ List.Forall₂ (fun c r => r.Tells c c.invocation.outcome) calls records)
    ∧ ∀ (σ : Type) (keeper : Option (Keeper σ)) (held : σ),
      (makeAll keeper held calls).2.map (·.outcome) = (makeAll none () calls).2.map (·.outcome)
        ∧ (makeAll none () calls).2.map (·.outcome) = calls.map (·.invocation.outcome) := by
  constructor
  · refine ⟨calls.map record, memory_makeAll calls books, ?_⟩
    rw [List.forall₂_map_right_iff, List.forall₂_same]
    exact fun c _ => c.record_tells
  · intro σ keeper held
    have plain := outcomes_makeAll none () calls
    exact ⟨(outcomes_makeAll keeper held calls).trans plain.symm, plain⟩

end Call
end Toolwire
