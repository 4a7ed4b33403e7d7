import Toolwire.Text.Blank
import Toolwire.Text.Fold
/-!
# Scrubbing secrets from messages

A secret value is taken out on purpose only; wherever it would be printed, a fixed mark
stands in its place. In a message a pattern announces a secret; the value after it, up to a
blank, a quote, an ampersand or a comma, is replaced by the mark. The patterns of a list
are applied one after the other, each to the result of the one before.
-/
namespace Toolwire.Secret

open Text

/-! ## Values that are not shown -/

/-- What stands in the place of a secret. -/
def redacted : String := "[REDACTED]"

/-- A text that is not shown. -/
structure Value where
  /-- The text itself. -/
  expose : String

/-- The value as a text. -/
def Value.text (_ : Value) : String := redacted

/-- The value as diagnostics show it. -/
def Value.describe (v : Value) : String := "SecretValue(" ++ v.text ++ ")"

/-! ## Messages -/

/-- A character that ends a value. -/
def isSeparator (c : Char) : Bool :=
  isBlank c || c == '"' || c == '\'' || c == '&' || c == ','

/-- Replaces the value after each occurrence of a pattern. While `skip` is positive the
text belongs to the pattern; `inValue` says that it belongs to a value. The result is
built in reverse on `done`. -/
def scrubFrom (pattern : List Char) (done : List Char) (skip : Nat) (inValue : Bool) :
    List Char → List Char
  | [] =>
    if inValue then (redacted.toList.reverse ++ done).reverse else done.reverse
  | c :: rest =>
    match skip with
    | k + 1 => scrubFrom pattern (c :: done) k (k == 0) rest
    | 0 =>
      if inValue && !isSeparator c then scrubFrom pattern done 0 true rest
      else
        let done := if inValue then redacted.toList.reverse ++ done else done
        match dropLiteral? pattern (c :: rest) with
        | some _ =>
          scrubFrom pattern (c :: done) (pattern.length - 1) (pattern.length == 1) rest
        | none => scrubFrom pattern (c :: done) 0 false rest

/-- Replaces the values that one pattern announces; an empty pattern announces none. -/
def scrubPattern (pattern : String) (s : List Char) : List Char :=
  if pattern.isEmpty then s else scrubFrom pattern.toList [] 0 false s

/-- Replaces the values that any of the patterns announces. -/
def scrub (text : String) (patterns : List String) : String :=
  String.ofList (patterns.foldl (fun s p => scrubPattern p s) text.toList)

/-- The patterns that announce secrets in logs. -/
def commonPatterns : List String :=
  ["api_key=", "apikey=", "api-key=", "token=", "secret=", "password=",
    "Authorization: Bearer ", "Authorization: Basic ", "x-api-key: "]

end Toolwire.Secret
