/-!
# Leftmost search

A recogniser says what stands at the head of a text and how long it is. Search tries it
at every position from the left, and each match starts where the one before it ended.
Cutting gives the matches and the single characters between them, in order.
-/
namespace Toolwire.Text

/-- What stands at the head of a text and its length, given the character before it. -/
abbrev Recognizer (α : Type) := Option Char → List Char → Option (α × Nat)

/-- A text is cut into single characters and matches. -/
inductive Piece (α : Type) where
  | char (c : Char)
  | found (value : α)
  deriving DecidableEq, Repr

/-- The match that a piece is. -/
def Piece.found? : Piece α → Option α
  | .char _ => none
  | .found a => some a

namespace Recognizer

/-- The first match in a text that follows the character `before`: its value and text. -/
def findAfter (r : Recognizer α) (before : Option Char) : List Char → Option (α × List Char)
  | [] => none
  | c :: rest =>
    match r before (c :: rest) with
    | some (a, n) => some (a, (c :: rest).take n)
    | none => findAfter r (some c) rest

/-- The first match in a text: its value and its text. -/
def find (r : Recognizer α) (s : List Char) : Option (α × List Char) := findAfter r none s

/-- Cuts a text whose first `skip` characters belong to the match before it; `done` holds
the pieces so far in reverse. -/
def cutFrom (r : Recognizer α) (done : List (Piece α)) (before : Option Char) (skip : Nat) :
    List Char → List (Piece α)
  | [] => done.reverse
  | c :: rest =>
    match skip with
    | k + 1 => cutFrom r done (some c) k rest
    | 0 =>
      match r before (c :: rest) with
      | some (a, n) => cutFrom r (.found a :: done) (some c) (n - 1) rest
      | none => cutFrom r (.char c :: done) (some c) 0 rest

/-- The pieces of a text. -/
def cut (r : Recognizer α) (s : List Char) : List (Piece α) := cutFrom r [] none 0 s

/-- All matches of a text, from left to right. -/
def findAll (r : Recognizer α) (s : List Char) : List α := (r.cut s).filterMap Piece.found?

/-- A text with every match replaced. -/
def replaceAll (r : Recognizer α) (replacement : List Char) (s : List Char) : List Char :=
  (r.cut s).flatMap fun
    | .char c => [c]
    | .found _ => replacement

theorem cutFrom_eq (r : Recognizer α) (done : List (Piece α)) (before : Option Char)
    (skip : Nat) (s : List Char) :
    cutFrom r done before skip s = done.reverse ++ cutFrom r [] before skip s := by
  induction s generalizing done before skip with
  | nil => simp [cutFrom]
  | cons c rest ih =>
    cases skip with
    | succ k => simp only [cutFrom]; exact ih done (some c) k
    | zero =>
      simp only [cutFrom]
      split
      · rw [ih, ih [_]]; simp
      · rw [ih, ih [_]]; simp

end Recognizer

end Toolwire.Text
