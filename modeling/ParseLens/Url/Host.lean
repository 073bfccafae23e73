import ParseLens.Text.Spans
import ParseLens.Url.Escape

set_option autoImplicit false

/-!
# Url: hosts

The host of a URL is a name, an IPv4 address or an IPv6 address.  The schemes of the web read a
name that ends in a number as an IPv4 address, in any of its old spellings: with hexadecimal or
octal parts, or with the last part standing for several bytes.  Other schemes keep a name as it is
written.

In a name of the web, characters that are never shown count for nothing.  What is outside ASCII then
would have to be encoded in ASCII, which this library does not do; it is refused.  Nor are labels
checked that say that they are such an encoding (`xn--`); they are taken as they are.
-/

namespace ParseLens.Url

/-- Why a URL is refused. -/
inductive Fault where
  /-- A relative address, without another one to start from. -/
  | relative
  /-- A host is due, and there is none. -/
  | emptyHost
  /-- The port is not a number of 16 bits. -/
  | badPort
  /-- A name that ends in a number, but is no IPv4 address. -/
  | badIPv4
  /-- Brackets without an IPv6 address. -/
  | badIPv6
  /-- A name that the schemes of the web do not admit. -/
  | badName
  /-- A name with a character that no scheme admits. -/
  | badCharacter
  /-- An address that has no path to which another one could be relative. -/
  | opaqueBase
  deriving DecidableEq, Repr, Inhabited

/-- The message for a fault. -/
def Fault.message : Fault → String
  | .relative => "relative URL without a base"
  | .emptyHost => "empty host"
  | .badPort => "invalid port number"
  | .badIPv4 => "invalid IPv4 address"
  | .badIPv6 => "invalid IPv6 address"
  | .badName => "invalid international domain name"
  | .badCharacter => "invalid domain character"
  | .opaqueBase => "relative URL with a cannot-be-a-base base"

/-- A host. -/
inductive Host where
  | name (s : String)
  | ipv4 (address : Nat)
  | ipv6 (pieces : List Nat)
  deriving DecidableEq, Repr, Inhabited

/-- The parts of a text between the places where a character stands. -/
def splitAt (sep : Char) : List Char → List (List Char)
  | [] => [[]]
  | c :: s =>
    match splitAt sep s with
    | [] => [[c]]
    | part :: parts => if c = sep then [] :: part :: parts else (c :: part) :: parts

/-- The value of digits in a base of at most sixteen; none if there is another character. -/
def digitsIn (base : Nat) (s : List Char) : Option Nat :=
  s.foldl (fun n c =>
    match n, Json.hexDigit? c with
    | some n, some d => if d < base then some (n * base + d) else none
    | _, _ => none) (some 0)

/-! ## IPv4 addresses -/

/-- The value of one part of an address: hexadecimal behind `0x`, octal behind another zero, and
decimal otherwise. -/
def ipv4Number? (s : List Char) : Option Nat :=
  match s with
  | [] => none
  | '0' :: 'x' :: ds | '0' :: 'X' :: ds => digitsIn 16 ds
  | '0' :: d :: ds => digitsIn 8 (d :: ds)
  | ds => digitsIn 10 ds

/-- The parts of a name, without an empty one at the end. -/
def nameParts (s : List Char) : List (List Char) :=
  let parts := splitAt '.' s
  if parts.getLast? = some [] then parts.dropLast else parts

/-- Whether the last part of a name is a number, or consists of digits. -/
def endsInNumber (s : List Char) : Bool :=
  match (nameParts s).getLast? with
  | none => false
  | some part => (!part.isEmpty && part.all Char.isDigit) || (ipv4Number? part).isSome

/-- The address that a name stands for: each part but the last is a byte, the last one has the
bytes that are left. -/
def parseIPv4 (s : List Char) : Except Fault Host :=
  match (nameParts s).mapM ipv4Number? with
  | none => .error .badIPv4
  | some numbers =>
    match numbers.getLast? with
    | none => .error .badIPv4
    | some last =>
      let bytes := numbers.dropLast
      if 3 < bytes.length ∨ bytes.any (255 < ·) ∨ Nat.pow 256 (4 - bytes.length) ≤ last then
        .error .badIPv4
      else
        .ok (.ipv4 (bytes.foldl (fun n b => n * 256 + b) 0 * Nat.pow 256 (4 - bytes.length) + last))

/-! ## IPv6 addresses -/

/-- The value of a piece: one to four hexadecimal digits. -/
def ipv6Piece? (s : List Char) : Option Nat :=
  if s.isEmpty ∨ 4 < s.length then none else digitsIn 16 s

/-- The value of a byte in decimal digits, without a zero in front. -/
def decimalByte? (s : List Char) : Option Nat :=
  if s.isEmpty ∨ (s.head? = some '0' ∧ 1 < s.length) then none
  else (digitsIn 10 s).filter (· ≤ 255)

/-- The two pieces that four decimal bytes stand for. -/
def dottedPieces? (s : List Char) : Option (List Nat) :=
  match (splitAt '.' s).mapM decimalByte? with
  | some [a, b, c, d] => some [a * 256 + b, c * 256 + d]
  | _ => none

/-- The pieces between colons; the last one may be given by decimal bytes where `dotted`. -/
def ipv6Pieces? (dotted : Bool) : List (List Char) → Option (List Nat)
  | [] => some []
  | [part] =>
    if dotted && part.contains '.' then dottedPieces? part else (ipv6Piece? part).map ([·])
  | part :: parts => do return (← ipv6Piece? part) :: (← ipv6Pieces? dotted parts)

/-- Cut a text at its first two colons in a row. -/
def cutDoubleColon : List Char → Option (List Char × List Char)
  | [] => none
  | ':' :: ':' :: s => some ([], s)
  | c :: s => (cutDoubleColon s).map fun p => (c :: p.1, p.2)

/-- The parts between colons; an empty text has none. -/
def colonParts (s : List Char) : List (List Char) := if s.isEmpty then [] else splitAt ':' s

/-- The address between two brackets: eight pieces, of which one run of zeros may be left out. -/
def parseIPv6 (s : List Char) : Except Fault Host :=
  let pieces? : Option (List Nat) :=
    match cutDoubleColon s with
    | none => do
      let pieces ← ipv6Pieces? true (colonParts s)
      if pieces.length = 8 then some pieces else none
    | some (left, right) => do
      let front ← ipv6Pieces? false (colonParts left)
      let back ← ipv6Pieces? true (colonParts right)
      if front.length + back.length ≤ 7 then
        some (front ++ List.replicate (8 - front.length - back.length) 0 ++ back)
      else none
  match pieces? with
  | some pieces => .ok (.ipv6 pieces)
  | none => .error .badIPv6

/-! ## Names -/

/-- What a name of another scheme must not hold. -/
def isForbidden (c : Char) : Bool :=
  ['\x00', '\t', '\n', '\r', ' ', '#', '/', ':', '<', '>', '?', '@', '[', '\\', ']', '^',
    '|'].contains c

/-- What a name of a scheme of the web must not hold. -/
def isForbiddenInName (c : Char) : Bool := isForbidden c || inControlSet c || c == '%'

/-- Read a host between brackets, if the text starts with one. -/
def parseBracketed? : List Char → Option (Except Fault Host)
  | '[' :: s =>
    some (if s.getLast? = some ']' then parseIPv6 s.dropLast else .error .badIPv6)
  | _ => none

/-- Where the characters begin and end that count for nothing in a name of the web: the soft hyphen,
fillers, selectors of variants and others that are never shown. -/
def ignoredSpans : List Nat := [
  0xAD, 0xAE, 0x34F, 0x350, 0x115F, 0x1161, 0x17B4, 0x17B6, 0x180B, 0x1810, 0x200B, 0x200C, 0x2060,
  0x2065, 0x206A, 0x2070, 0x3164, 0x3165, 0xFE00, 0xFE10, 0xFEFF, 0xFF00, 0xFFA0, 0xFFA1, 0x1BCA0,
  0x1BCA4, 0x1D173, 0x1D17B, 0xE0100, 0xE01F0]

/-- Whether a character counts for nothing in a name of the web. -/
def isIgnored (c : Char) : Bool := Text.inSpans ignoredSpans c.toNat

/-- Read the host of a scheme of the web: escapes are undone, what counts for nothing is dropped,
and letters are made small.  International names are refused, and encoded labels are not checked. -/
def parseSpecialHost (s : List Char) : Except Fault Host :=
  match parseBracketed? s with
  | some r => r
  | none =>
    match unescapeText? s with
    | none => .error .badName
    | some cs =>
      let lower := (cs.filter fun c => !isIgnored c).map Char.toLower
      if lower.any isForbiddenInName then .error .badName
      else if lower.isEmpty then .error .emptyHost
      else if endsInNumber lower then parseIPv4 lower
      else .ok (.name (String.ofList lower))

/-- Read the host of another scheme. -/
def parseOpaqueHost (s : List Char) : Except Fault Host :=
  match parseBracketed? s with
  | some r => r
  | none =>
    if s.any isForbidden then .error .badCharacter
    else .ok (.name (String.ofList (escape inControlSet s)))

/-! ## Written hosts -/

/-- The number of zeros at the front. -/
def leadingZeros (pieces : List Nat) : Nat := (pieces.takeWhile (· = 0)).length

/-- Where the longest run of zeros starts, and its length; of several the first. -/
def longestZeros : List Nat → Nat × Nat
  | [] => (0, 0)
  | p :: ps =>
    let here := leadingZeros (p :: ps)
    let (start, length) := longestZeros ps
    if length ≤ here then (0, here) else (start + 1, length)

/-- Pieces in hexadecimal, with colons between them. -/
def piecesText (pieces : List Nat) : String :=
  ":".intercalate (pieces.map fun p => String.ofList (Nat.toDigits 16 p))

/-- The text of a host; two or more zero pieces in a row are left out, where the run is the longest
one. -/
def Host.text : Host → String
  | .name s => s
  | .ipv4 n =>
    ".".intercalate ([n / 0x1000000, n / 0x10000 % 256, n / 256 % 256, n % 256].map toString)
  | .ipv6 pieces =>
    let (start, length) := longestZeros pieces
    if length < 2 then "[" ++ piecesText pieces ++ "]"
    else
      "[" ++ piecesText (pieces.take start) ++ "::" ++ piecesText (pieces.drop (start + length)) ++ "]"

end ParseLens.Url
