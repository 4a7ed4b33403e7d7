import Toolwire.Secret.Reference
import Toolwire.Text.Blank
import Toolwire.Text.Fold
import Toolwire.Text.Word
/-!
# Literal secrets

Heuristics that look for secrets written out in a text. References are stripped first,
so only the literal part of a text is looked at. The heuristics are tried from the most
specific to the least, and a finding carries no more of the match than its first four
characters.
-/
namespace Toolwire.Secret

open Text

/-- What a finding looks like. -/
inductive Kind where
  | bearerToken
  | basicCredentials
  | assignment
  | knownPrefix (label : String)
  | privateKey
  | urlPassword
  | encodedBlob
  | sensitiveField (key : String)
  deriving DecidableEq, Repr

/-- The short name of the kind. -/
def Kind.name : Kind → String
  | .bearerToken => "bearer_token"
  | .basicCredentials => "basic_credentials"
  | .assignment => "assignment"
  | .knownPrefix _ => "known_prefix"
  | .privateKey => "private_key"
  | .urlPassword => "url_password"
  | .encodedBlob => "encoded_blob"
  | .sensitiveField _ => "sensitive_field"

/-- What the kind is about, when it is about something in particular. -/
def Kind.detail? : Kind → Option String
  | .knownPrefix label => some label
  | .sensitiveField key => some key
  | _ => none

/-- The kind in words. -/
def Kind.describe : Kind → String
  | .bearerToken => "literal bearer token"
  | .basicCredentials => "literal basic-auth credentials"
  | .assignment => "inline secret assignment"
  | .knownPrefix label => label
  | .privateKey => "PEM private key"
  | .urlPassword => "password embedded in URL"
  | .encodedBlob => "long base64-like blob"
  | .sensitiveField key => "literal value for credential field '" ++ key ++ "'"

/-- A secret that was found, masked. -/
structure Finding where
  kind : Kind
  preview : String
  deriving DecidableEq, Repr

/-- How many characters of a secret a finding shows. -/
def previewLength : Nat := 4

/-- The finding of a kind for the text that gave it away. -/
def Finding.mask (kind : Kind) (secret : List Char) : Finding :=
  ⟨kind, String.ofList (secret.take previewLength ++ ['*', '*', '*', '*'])⟩

/-- The finding in words. -/
def Finding.describe (f : Finding) : String :=
  f.kind.describe ++ " (" ++ f.preview ++ "); use a $\x7bVAR\x7d reference instead"

/-- The number of leading characters of a class. -/
def runLength (p : Char → Bool) (s : List Char) : Nat := (s.takeWhile p).length

/-- A private key block opens with dashes, `BEGIN`, words in capitals and `PRIVATE KEY`. -/
def privateKey : Recognizer Unit := fun _ s =>
  match dropLiteral? "-----BEGIN ".toList s with
  | none => none
  | some rest =>
    let run := rest.takeWhile fun c => c.isUpper || c == ' '
    if "PRIVATE KEY".toList.isSuffixOf run then
      match dropLiteral? "-----".toList (rest.drop run.length) with
      | some _ => some ((), 11 + run.length + 5)
      | none => none
    else none

/-- The shape of the keys that a vendor hands out. -/
structure KeyShape where
  label : String
  /-- The texts that a key can start with. -/
  heads : List String
  /-- The characters that follow. -/
  body : Char → Bool
  /-- How many of them at least. -/
  least : Nat
  /-- Whether no more of them count. -/
  exact : Bool
  /-- Whether a word must end there. -/
  closed : Bool

/-- The part of a key after its head: how long it is. -/
def KeyShape.bodyLength? (k : KeyShape) (rest : List Char) : Option Nat :=
  let run := runLength k.body rest
  if run < k.least then none
  else
    let n := if k.exact then k.least else run
    if k.closed && !isBoundary (rest.take n).getLast? (rest.drop n).head? then none
    else some n

/-- Recognises a key at the start of a word. -/
def KeyShape.recognizer (k : KeyShape) : Recognizer Unit := fun before s =>
  if isBoundary before s.head? then
    k.heads.findSome? fun head =>
      match dropLiteral? head.toList s with
      | none => none
      | some rest => (k.bodyLength? rest).map fun n => ((), head.length + n)
  else none

/-- Letters, digits, underscore and hyphen. -/
def isKeyChar (c : Char) : Bool := c.isAlphanum || c == '_' || c == '-'

/-- The vendors whose keys are known, in the order in which they are tried. -/
def knownKeys : List KeyShape :=
  [⟨"OpenAI-style secret key", ["sk-"], isKeyChar, 16, false, false⟩,
   ⟨"Stripe live key", ["sk_live_", "rk_live_"], Char.isAlphanum, 16, false, false⟩,
   ⟨"GitHub token", ["ghp_", "gho_", "ghs_", "ghu_", "ghr_"], Char.isAlphanum, 20, false, false⟩,
   ⟨"GitHub fine-grained token", ["github_pat_"], fun c => c.isAlphanum || c == '_', 20, false,
     false⟩,
   ⟨"Slack token", ["xoxa-", "xoxb-", "xoxp-", "xoxr-", "xoxs-"],
     fun c => c.isAlphanum || c == '-', 10, false, false⟩,
   ⟨"AWS access key id", ["AKIA"], fun c => c.isDigit || c.isUpper, 16, true, true⟩,
   ⟨"Google API key", ["AIza"], isKeyChar, 35, true, false⟩,
   ⟨"GitLab token", ["glpat-"], isKeyChar, 20, false, false⟩]

/-- An authorization scheme at the start of a word, blanks, at least eight characters of
the token and any number of equals signs. -/
def schemeToken (scheme : String) (token : Char → Bool) : Recognizer Unit := fun before s =>
  if isBoundary before s.head? then
    match dropWord? scheme.toList s with
    | none => none
    | some rest =>
      let blanks := runLength isBlank rest
      let rest := rest.drop blanks
      let run := runLength token rest
      if blanks = 0 || run < 8 then none
      else
        let padding := runLength (· == '=') (rest.drop run)
        some ((), scheme.length + blanks + run + padding)
  else none

/-- The scheme `bearer` and a token. -/
def bearer : Recognizer Unit :=
  schemeToken "bearer" fun c => (fold c).isAlphanum || "-._~+/".toList.contains c

/-- The scheme `basic` and its credentials. -/
def basic : Recognizer Unit :=
  schemeToken "basic" fun c => (fold c).isAlphanum || c == '+' || c == '/'

/-- A character of a URL scheme. -/
def isSchemeChar (c : Char) : Bool := c.isAlphanum || c == '+' || c == '.' || c == '-'

/-- The length of a user, a password and the at sign that ends them. -/
def userInfoLength? (s : List Char) : Option Nat :=
  let user := runLength (fun c => !(c == '/' || isBlank c || c == ':' || c == '@')) s
  match s.drop user with
  | ':' :: rest =>
    let password := runLength (fun c => !(c == '@' || c == '/' || isBlank c)) rest
    match rest.drop password with
    | '@' :: _ => if user = 0 || password = 0 then none else some (user + 1 + password + 1)
    | _ => none
  | _ => none

/-- The first URL with a password in it. A scheme starts at the first letter of a run of
scheme characters, which `start` remembers. -/
def findUrlPassword (start : Option (List Char)) : List Char → Option (List Char)
  | [] => none
  | c :: rest =>
    if isSchemeChar c then
      findUrlPassword (if start.isNone && c.isAlpha then some (c :: rest) else start) rest
    else
      let found := match start, dropLiteral? "://".toList (c :: rest) with
        | some s, some authority =>
          (userInfoLength? authority).map fun n => s.take (s.length - authority.length + n)
        | _, _ => none
      match found with
      | some text => some text
      | none => findUrlPassword none rest

/-- Names that a secret is assigned to. -/
def assignedNames : List String :=
  ["password", "passwd", "pwd", "secret", "client_secret", "token", "access_token",
    "api_key", "api-key", "apikey"]

/-- A character inside an assigned value. -/
def isAssignedChar (c : Char) : Bool :=
  !(isBlank c || c == '"' || c == '\'' || c == '&' || c == ';' || c == ',')

/-- A character that an assigned value can start with. -/
def isAssignedStart (c : Char) : Bool :=
  isAssignedChar c && !(c == '{' || c == '}' || c == '$' || c == ':')

/-- A name for a secret, an equals sign or colon, perhaps a quote, and a value of at least
four characters. -/
def assignment : Recognizer Unit := fun before s =>
  if isBoundary before s.head? then
    match dropAnyWord? assignedNames s with
    | none => none
    | some rest =>
      match trimStart rest with
      | [] => none
      | mark :: rest =>
        if mark == '=' || mark == ':' then
          let rest := trimStart rest
          let rest := match rest with
            | c :: more => if c == '"' || c == '\'' then more else rest
            | [] => rest
          match rest with
          | [] => none
          | c :: more =>
            let run := runLength isAssignedChar more
            if isAssignedStart c && 3 ≤ run then
              some ((), s.length - more.length + run)
            else none
        else none
  else none

/-- At least forty characters of an encoding and up to two equals signs. -/
def blob : Recognizer (List Char) := fun _ s =>
  let run := runLength (fun c => isKeyChar c || c == '+') s
  if run < 40 then none
  else
    let n := run + min 2 (runLength (· == '=') (s.drop run))
    some (s.take n, n)

/-- Capitals, small letters and digits together: random material, not prose. -/
def looksEncoded (s : List Char) : Bool :=
  s.any Char.isUpper && s.any Char.isLower && s.any Char.isDigit

/-- The match of a recogniser as a candidate of a kind. -/
def candidate (kind : Kind) (r : Recognizer Unit) (s : List Char) :
    Option (Kind × List Char) :=
  (r.find s).map fun m => (kind, m.2)

/-- The first heuristic that applies to a literal text, and the text that it caught. -/
def detectLiteral (s : List Char) : Option (Kind × List Char) :=
  (candidate .privateKey privateKey s)
    <|> (knownKeys.findSome? fun k => candidate (.knownPrefix k.label) k.recognizer s)
    <|> (candidate .bearerToken bearer s)
    <|> (candidate .basicCredentials basic s)
    <|> ((findUrlPassword none s).map fun m => (.urlPassword, m))
    <|> (candidate .assignment assignment s)
    <|> (((blob.findAll s).find? looksEncoded).map fun m => (.encodedBlob, m))

/-- The secret written out in a text, if there is one. -/
def detectChars (s : List Char) : Option (Kind × List Char) :=
  detectLiteral (Reference.stripChars s)

/-- The finding for the secret written out in a text. -/
def detect (text : String) : Option Finding :=
  (detectChars text.toList).map fun m => Finding.mask m.1 m.2

/-- Names of fields that hold credentials, an optional `x-` before them apart. -/
def sensitiveNames : List String :=
  ["authorization", "proxy-authorization", "apikey", "api-key", "api_key", "accesstoken",
    "access-token", "access_token", "authtoken", "auth-token", "auth_token", "token",
    "secret", "clientsecret", "client-secret", "client_secret", "password", "passwd"]

/-- Whether a key names a credential, in any case. -/
def isSensitiveKey (key : String) : Bool :=
  let s := key.toList
  isAnyWord sensitiveNames ((dropWord? ['x', '-'] s).getD s)

/-- A name in braces. -/
def braced : Recognizer Unit := fun _ s =>
  (Reference.braced? s).map fun name => ((), name.length + 2)

/-- An authorization scheme that is a word of its own. -/
def schemeWord : Recognizer Unit := fun before s =>
  if isBoundary before s.head? then
    ["bearer", "basic", "token"].findSome? fun word =>
      match dropWord? word.toList s with
      | some rest =>
        if isBoundary (s.take word.length).getLast? rest.head? then some ((), word.length)
        else none
      | none => none
  else none

/-- What is literal in the value of a credential field: all but references, parameters,
authorization schemes and blanks at the ends. -/
def literalRest (s : List Char) : List Char :=
  trim (schemeWord.replaceAll [' '] (braced.replaceAll [' '] (Reference.stripChars s)))

/-- The secret written out in the value of a field. -/
def detectFieldChars (key : String) (value : List Char) : Option (Kind × List Char) :=
  match detectChars value with
  | some m => some m
  | none =>
    if isSensitiveKey key then
      let rest := literalRest value
      if rest.isEmpty then none else some (.sensitiveField key, rest)
    else none

/-- The finding for the secret written out in the value of a field. -/
def detectField (key value : String) : Option Finding :=
  (detectFieldChars key value.toList).map fun m => Finding.mask m.1 m.2

end Toolwire.Secret
