import Toolwire.Text.Blank
import Toolwire.Text.Letter
/-!
# Scanning SQL

One pass over a query finds the `:named` placeholders outside quotes and comments, the
markers of string interpolation anywhere, and the keywords that open a writing statement.
Only the leading word of a statement counts as its keyword: the first word, the first word
behind a semicolon, behind `AS (` in a `WITH` list, and behind such a list.
-/
namespace Toolwire.Query

open Text

/-- What a scan has found. -/
structure Scan where
  /-- The distinct placeholders in order of first appearance. -/
  placeholders : List String := []
  /-- The interpolation markers as written. -/
  markers : List String := []
  /-- The distinct keywords in capitals that open a writing statement. -/
  keywords : List String := []
  deriving DecidableEq, Repr, Inhabited

/-- Whether a query writes or changes a schema. -/
def Scan.isMutating (s : Scan) : Bool := !s.keywords.isEmpty

/-- Adds an item to a list that lacks it. -/
def addNew (items : List String) (item : String) : List String :=
  if items.contains item then items else items ++ [item]

/-- The keywords of writing statements. -/
def mutatingKeywords : List String :=
  ["INSERT", "UPDATE", "DELETE", "MERGE", "UPSERT", "REPLACE", "DROP", "ALTER", "CREATE",
    "TRUNCATE", "GRANT", "REVOKE", "COPY"]

/-- The keywords that the main statement behind a `WITH` list can start with. -/
def statementKeywords : List String := ["SELECT", "VALUES", "TABLE"] ++ mutatingKeywords

/-- Where a scan stands in a statement. -/
structure Statement where
  /-- The next word opens a statement. -/
  expecting : Bool := true
  /-- Inside a `WITH` list whose main statement has not started. -/
  inList : Bool := false
  /-- Open parentheses. -/
  depth : Nat := 0
  /-- The last word, in capitals. -/
  lastWord : String := ""
  deriving DecidableEq, Repr, Inhabited

namespace Statement

/-- Passes an opening parenthesis. -/
def openParen (s : Statement) : Statement :=
  { s with
    depth := s.depth + 1
    expecting := s.expecting
      || (s.inList && (s.lastWord == "AS" || s.lastWord == "MATERIALIZED")) }

/-- Passes a closing parenthesis. -/
def closeParen (s : Statement) : Statement :=
  { s with
    depth := s.depth - 1
    expecting := s.expecting || (s.inList && s.depth - 1 == 0) }

/-- Whether a word opens a writing statement here. -/
def opensWrite (s : Statement) (word : String) (beforeParen : Bool) : Bool :=
  s.expecting && mutatingKeywords.contains word && !beforeParen

/-- Passes a word in capitals. -/
def word (s : Statement) (word : String) : Statement :=
  { s with
    expecting := false
    inList :=
      if s.expecting then
        if word = "WITH" then true
        else if statementKeywords.contains word && s.depth == 0 then false
        else s.inList
      else s.inList
    lastWord := word }

end Statement

/-- What a character belongs to. -/
inductive Mode where
  | code
  | singleQuoted
  | doubleQuoted
  | lineComment
  | blockComment
  deriving DecidableEq, Repr, Inhabited

/-- The state of a scan between two characters. -/
structure Scanner where
  mode : Mode := .code
  statement : Statement := {}
  found : Scan := {}
  deriving DecidableEq, Repr, Inhabited

/-- A character that a name starts with. -/
def isIdentStart (c : Char) : Bool := c.isAlpha || c == '_'

/-- A character that a name goes on with. -/
def isIdentChar (c : Char) : Bool := c.isAlphanum || c == '_'

/-- The characters up to and including the first `close`, if it occurs. -/
def upTo? (close : Char) (s : List Char) : Option (List Char) :=
  if s.contains close then some (s.takeWhile (· != close) ++ [close]) else none

/-- The interpolation marker at the head of a text. -/
def marker? (c : Char) (rest : List Char) : Option (List Char) :=
  if c = '%' then
    match rest with
    | [] => none
    | d :: more =>
      if d = '(' then
        (upTo? ')' more).map fun name => '%' :: '(' :: (name ++ (more.drop name.length).take 1)
      else if d = 's' || d = 'd' then
        if (more.head?.map isAlphanumeric).getD false then none else some ['%', d]
      else none
  else if c = '{' then
    match upTo? '}' rest with
    | some name => some ('{' :: name)
    | none => some ['{']
  else none

/-- Passes the characters at the head of a text in code: the new state and the number of
characters passed besides the first. -/
def stepCode (s : Scanner) (c : Char) (rest : List Char) : Scanner × Nat :=
  let next := rest.head?
  if c = '\'' then ({ s with mode := .singleQuoted }, 0)
  else if c = '"' then ({ s with mode := .doubleQuoted }, 0)
  else if c = '-' && next = some '-' then ({ s with mode := .lineComment }, 1)
  else if c = '/' && next = some '*' then ({ s with mode := .blockComment }, 1)
  else if c = ':' then
    if next = some ':' then (s, 1)
    else if (next.map isIdentStart).getD false then
      let name := rest.takeWhile isIdentChar
      let found := { s.found with
        placeholders := addNew s.found.placeholders (String.ofList name) }
      ({ s with found := found }, name.length)
    else (s, 0)
  else if c = '?' then
    ({ s with found := { s.found with markers := s.found.markers ++ ["?"] } }, 0)
  else if c = ';' then ({ s with statement := {} }, 0)
  else if c = '(' then ({ s with statement := s.statement.openParen }, 0)
  else if c = ')' then ({ s with statement := s.statement.closeParen }, 0)
  else if isIdentStart c then
    let tail := rest.takeWhile isIdentChar
    let word := String.ofList ((c :: tail).map Char.toUpper)
    let beforeParen := (rest.drop tail.length).find? (fun d => !isBlank d) == some '('
    let keywords :=
      if s.statement.opensWrite word beforeParen then addNew s.found.keywords word
      else s.found.keywords
    ({ s with statement := s.statement.word word, found := { s.found with keywords := keywords } },
      tail.length)
  else (s, 0)

/-- Passes the characters at the head of a text: the new state and the number of
characters passed besides the first. -/
def step (s : Scanner) (c : Char) (rest : List Char) : Scanner × Nat :=
  match marker? c rest with
  | some marker =>
    let markers := s.found.markers ++ [String.ofList marker]
    ({ s with found := { s.found with markers := markers } }, marker.length - 1)
  | none =>
    match s.mode with
    | .code => stepCode s c rest
    | .singleQuoted =>
      if c = '\'' then
        if rest.head? = some '\'' then (s, 1) else ({ s with mode := .code }, 0)
      else (s, 0)
    | .doubleQuoted => (if c = '"' then { s with mode := .code } else s, 0)
    | .lineComment => (if c = '\n' then { s with mode := .code } else s, 0)
    | .blockComment =>
      if c = '*' && rest.head? = some '/' then ({ s with mode := .code }, 1) else (s, 0)

/-- Runs over a text, `skip` characters of which are passed already. -/
def run (s : Scanner) (skip : Nat) : List Char → Scanner
  | [] => s
  | c :: rest =>
    match skip with
    | k + 1 => run s k rest
    | 0 =>
      let (s, k) := step s c rest
      run s k rest

/-- What a query holds. -/
def scanChars (s : List Char) : Scan := (run {} 0 s).found

/-- What a query holds. -/
def scan (query : String) : Scan := scanChars query.toList

end Toolwire.Query
