import Toolwire.Text.Escape
import Toolwire.Text.Letter
import Toolwire.Text.Quoted
/-!
# Request URLs

Which texts a request can be sent to: absolute URLs of the schemes `http` and `https` with
a valid host and port. Blanks and controls at the ends do not count, nor do tabs and line
breaks anywhere; backslashes are slashes, and any number of slashes may open the authority.
-/
namespace Toolwire.Http.Url

open Text

/-- Controls and the space. -/
def isControlOrSpace (c : Char) : Bool := c.toNat ≤ 32

/-- A text without what is ignored in URLs. -/
def cleaned (s : List Char) : List Char :=
  let s := ((s.dropWhile isControlOrSpace).reverse.dropWhile isControlOrSpace).reverse
  s.filter fun c => !(c == '\t' || c == '\n' || c == '\r')

/-- The scheme of a text in lower case and what follows its colon. -/
def scheme? (s : List Char) : Option (List Char × List Char) :=
  match s with
  | c :: _ =>
    if c.isAlpha then
      let name := s.takeWhile fun c => c.isAlphanum || c == '+' || c == '-' || c == '.'
      match s.drop name.length with
      | ':' :: rest => some (name.map Char.toLower, rest)
      | _ => none
    else none
  | [] => none

/-- A character that separates the authority from the path. -/
def isSlash (c : Char) : Bool := c == '/' || c == '\\'

/-- The authority of the text behind a scheme. -/
def authority (s : List Char) : List Char :=
  (s.dropWhile isSlash).takeWhile fun c => !(isSlash c || c == '?' || c == '#')

/-- The authority without user and password. -/
def hostAndPort (s : List Char) : List Char :=
  (s.reverse.takeWhile (· != '@')).reverse

/-- The bytes of a text with its percent escapes decoded. -/
def percentDecode : List Char → List UInt8
  | '%' :: a :: b :: rest =>
    match hexValue? a, hexValue? b with
    | some x, some y => UInt8.ofNat (x * 16 + y) :: percentDecode rest
    | _, _ => 0x25 :: percentDecode (a :: b :: rest)
  | c :: rest => (String.singleton c).toUTF8.toList ++ percentDecode rest
  | [] => []

/-- A character that no domain holds, or that no request can carry in one. -/
def isForbidden (c : Char) : Bool :=
  c.toNat ≤ 32 || c.toNat == 127 || "#/:<>?@[\\]^|%\"\x60\x7b\x7d".toList.contains c

/-- Whether a text is a port. -/
def isPort (s : List Char) : Bool :=
  s.all Char.isDigit && s.foldl (fun n c => min (n * 10 + (c.toNat - 48)) 65536) 0 < 65536

/-- The number of a part of an IPv4 address: decimal, octal behind `0`, hexadecimal behind
`0x`. -/
def partNumber? (s : List Char) : Option Nat :=
  let digits (base : Nat) (s : List Char) : Option Nat :=
    s.foldlM (fun n c => do
      let d ← hexValue? c
      if d < base then some (min (n * base + d) 0x10000000000) else none) 0
  match s with
  | [] => none
  | '0' :: x :: rest =>
    if x == 'x' || x == 'X' then digits 16 rest else digits 8 (x :: rest)
  | _ => digits 10 s

/-- The labels of a host without the empty one behind a final dot. -/
def significant (parts : List (List Char)) : List (List Char) :=
  if parts.length > 1 && parts.getLast? == some [] then parts.dropLast else parts

/-- Whether a host ends in a number, and so must be an IPv4 address. -/
def endsInNumber (parts : List (List Char)) : Bool :=
  match parts.getLast? with
  | none => false
  | some last =>
    (!last.isEmpty && last.all Char.isDigit)
      || (partNumber? last).isSome && (last.take 2 == ['0', 'x'] || last.take 2 == ['0', 'X'])

/-- Whether the parts are those of an IPv4 address. -/
def isIpv4 (parts : List (List Char)) : Bool :=
  if parts.length > 4 then false
  else
    match parts.mapM partNumber? with
    | none => false
    | some numbers =>
      numbers.dropLast.all (· ≤ 255) && numbers.getLastD 0 < Nat.pow 256 (5 - numbers.length)

/-- Whether a text is a group of an IPv6 address. -/
def isGroup (s : List Char) : Bool :=
  0 < s.length && s.length ≤ 4 && s.all isHex

/-- Whether a text is a plain IPv4 address inside an IPv6 address. -/
def isInnerIpv4 (s : List Char) : Bool :=
  let parts := s.splitOn '.'
  parts.length == 4 && parts.all fun p =>
    0 < p.length && p.length ≤ 3 && p.all Char.isDigit && (p.length == 1 || p.head? != some '0')
      && Nat.ofDigitChars 10 p 0 ≤ 255

/-- The number of groups that a list of parts stands for, if each is one. -/
def groupCount? (parts : List (List Char)) (last : Bool) : Option Nat :=
  match parts with
  | [] => some 0
  | [p] =>
    if isGroup p then some 1
    else if last && isInnerIpv4 p then some 2
    else none
  | p :: rest => if isGroup p then (groupCount? rest last).map (· + 1) else none

/-- The two sides of the first double colon. -/
def splitDouble (before : List Char) : List Char → Option (List Char × List Char)
  | ':' :: ':' :: rest => some (before.reverse, rest)
  | c :: rest => splitDouble (c :: before) rest
  | [] => none

/-- Whether a text is an IPv6 address. -/
def isIpv6 (s : List Char) : Bool :=
  let parts (s : List Char) : List (List Char) := if s.isEmpty then [] else s.splitOn ':'
  match splitDouble [] s with
  | none => groupCount? (parts s) true == some 8
  | some (left, right) =>
    match groupCount? (parts left) false, groupCount? (parts right) true with
    | some a, some b => a + b ≤ 7
    | _, _ => false

/-- Whether a character beyond ASCII can stand in a domain. -/
def isDomainChar (c : Char) : Bool := isVisible c || continuesName c

/-- Whether a text is a host. -/
def isHost (s : List Char) : Bool :=
  match s with
  | '[' :: rest => rest.getLast? == some ']' && isIpv6 rest.dropLast
  | _ =>
    match String.fromUTF8? (ByteArray.mk (percentDecode s).toArray) with
    | none => false
    | some decoded =>
      let domain := decoded.toList
      let parts := significant (domain.splitOn '.')
      !domain.isEmpty && domain.all (fun c => !isForbidden c && (c.toNat < 128 || isDomainChar c))
        && (!endsInNumber parts || isIpv4 parts)

/-- Splits a port off a host; the colons of an address in brackets do not count. -/
def splitPort (s : List Char) : List Char × List Char :=
  let tail := (s.reverse.takeWhile fun c => c != ':' && c != ']').reverse
  if tail.length < s.length && (s.reverse.drop tail.length).head? == some ':' then
    (s.take (s.length - tail.length - 1), tail)
  else (s, [])

/-- Whether a request can be sent to a text. -/
def isAcceptable (text : String) : Bool :=
  match scheme? (cleaned text.toList) with
  | none => false
  | some (scheme, rest) =>
    let (host, port) := splitPort (hostAndPort (authority rest))
    (scheme == "http".toList || scheme == "https".toList) && isHost host && isPort port
      && text.utf8ByteSize < 65535

end Toolwire.Http.Url
