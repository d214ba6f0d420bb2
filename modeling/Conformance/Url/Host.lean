import Conformance.Text.Numeral
import Conformance.Text.Split
import Conformance.Url.Domain
import Conformance.Url.Encode

/-!
# Hosts

The host of a URL: a name, an IPv4 address or an IPv6 address.

## Main definitions

- `Host` — the three kinds
- `Host.text` — the canonical form
- `Host.ofDomain` — the host of a special URL, where numbers are addresses
- `Host.ofName` — the host of any other URL, which is kept as it is
-/

namespace Conformance

/-- Why a text is no URL. -/
inductive UrlError where
  | relativeWithoutBase
  | emptyHost
  | invalidPort
  | invalidDomainCharacter
  | invalidDomainName
  | invalidIpv4
  | invalidIpv6
  deriving DecidableEq, Repr, Inhabited

/-- The wording of a URL error. -/
def UrlError.message : UrlError → String
  | relativeWithoutBase => "relative URL without a base"
  | emptyHost => "empty host"
  | invalidPort => "invalid port number"
  | invalidDomainCharacter => "invalid domain character"
  | invalidDomainName => "invalid international domain name"
  | invalidIpv4 => "invalid IPv4 address"
  | invalidIpv6 => "invalid IPv6 address"

/-- The host of a URL. A name may be empty. -/
inductive Host where
  | name (text : String)
  | ipv4 (address : Nat)
  | ipv6 (pieces : List Nat)
  deriving DecidableEq, Repr, Inhabited

namespace Host

/-! ## IPv4 -/

/-- A number in base 8, 10 or 16: nothing if a digit is wrong. -/
def digitsIn? (base : Nat) (cs : List Char) : Option Nat :=
  cs.foldlM (fun n c => (Encode.hexValue? c).bind fun d =>
    if d < base then some (n * base + d) else none) 0

/-- A part of an IPv4 address. The form of the part gives the base; a base without digits means
zero. -/
def ipv4Part? : List Char → Option Nat
  | [] => none
  | '0' :: 'x' :: rest => digitsIn? 16 rest
  | '0' :: 'X' :: rest => digitsIn? 16 rest
  | '0' :: c :: rest => digitsIn? 8 (c :: rest)
  | cs => digitsIn? 10 cs

/-- The parts of a dotted name, without an empty part at the end. -/
def dottedParts (cs : List Char) : List (List Char) :=
  let parts := Text.splitAll (· = '.') cs
  if parts.getLast? = some [] ∧ 1 < parts.length then parts.dropLast else parts

/-- Whether the last part of a name makes it an IPv4 address. -/
def endsInNumber (cs : List Char) : Bool :=
  match (dottedParts cs).getLast? with
  | some part => (!part.isEmpty && part.all Text.isDigit) || (ipv4Part? part).isSome
  | none => false

/-- The address with the given parts; the last part fills the bytes that are left. -/
def ipv4OfParts? (parts : List Nat) : Option Nat :=
  match parts.reverse with
  | [] => none
  | last :: before =>
    if 4 < parts.length ∨ Nat.pow 256 (5 - parts.length) ≤ last ∨ before.any (255 < ·) then none
    else some (before.reverse.zipIdx.foldl (fun n p => n + p.1 * Nat.pow 256 (3 - p.2)) last)

/-- Reads an IPv4 address. -/
def ipv4? (cs : List Char) : Option Nat := ((dottedParts cs).mapM ipv4Part?).bind ipv4OfParts?

/-- The dotted form of an IPv4 address. -/
def ipv4Text (n : Nat) : String :=
  ".".intercalate ([3, 2, 1, 0].map fun place => toString (n / Nat.pow 256 place % 256))

/-! ## IPv6 -/

/-- A byte in decimal notation without leading zeros. -/
def decimalByte? (cs : List Char) : Option Nat :=
  if cs.length = 0 ∨ 3 < cs.length ∨ (1 < cs.length ∧ cs.head? = some '0') then none
  else (digitsIn? 10 cs).filter (· ≤ 255)

/-- The two pieces of an IPv4 address at the end of an IPv6 address. -/
def embeddedIpv4? (cs : List Char) : Option (List Nat) :=
  match (Text.splitAll (· = '.') cs).mapM decimalByte? with
  | some [a, b, c, d] => some [256 * a + b, 256 * c + d]
  | _ => none

/-- A piece of one to four hexadecimal digits. -/
def ipv6Piece? (cs : List Char) : Option Nat :=
  if cs.length = 0 ∨ 4 < cs.length then none else digitsIn? 16 cs

/-- The pieces of groups, the last of which may be an IPv4 address. -/
def ipv6Pieces? : List (List Char) → Option (List Nat)
  | [] => some []
  | [last] => if last.contains '.' then embeddedIpv4? last else (ipv6Piece? last).map ([·])
  | group :: rest => do return (← ipv6Piece? group) :: (← ipv6Pieces? rest)

/-- The pieces of one side of the gap. -/
def ipv6Side? (cs : List Char) : Option (List Nat) :=
  if cs.isEmpty then some [] else ipv6Pieces? (Text.splitAll (· = ':') cs)

/-- The texts before and after the first gap `::`. -/
def splitGap : List Char → Option (List Char × List Char)
  | ':' :: ':' :: rest => some ([], rest)
  | c :: rest => (splitGap rest).map fun p => (c :: p.1, p.2)
  | [] => none

/-- Reads an IPv6 address. A gap stands for one or more zero pieces. -/
def ipv6? (cs : List Char) : Option (List Nat) :=
  match splitGap cs with
  | some (left, right) => do
    if left.contains '.' then none
    let before ← ipv6Side? left
    let after ← ipv6Side? right
    if before.length + after.length < 8 then
      return before ++ List.replicate (8 - before.length - after.length) 0 ++ after
    else none
  | none => (ipv6Side? cs).filter (·.length = 8)

/-- The start and the length of the longest run of zeros, the first one if there are several. -/
def longestZeros (pieces : List Nat) : Nat × Nat :=
  let runs := pieces.zipIdx.map fun p => (p.2, ((pieces.drop p.2).takeWhile (· = 0)).length)
  runs.foldl (fun best run => if best.2 < run.2 then run else best) (0, 0)

/-- Pieces in hexadecimal notation, with colons between them. -/
def hexPieces (pieces : List Nat) : String :=
  ":".intercalate (pieces.map fun n => String.ofList (Nat.toDigits 16 n))

/-- The canonical form of an IPv6 address: the longest run of two or more zeros is a gap. -/
def ipv6Text (pieces : List Nat) : String :=
  let (start, length) := longestZeros pieces
  if length < 2 then hexPieces pieces
  else hexPieces (pieces.take start) ++ "::" ++ hexPieces (pieces.drop (start + length))

/-! ## Hosts -/

/-- The canonical form of a host. -/
def text : Host → String
  | name s => s
  | ipv4 n => ipv4Text n
  | ipv6 pieces => "[" ++ ipv6Text pieces ++ "]"

/-- Reads the part of an IPv6 address after its opening bracket. -/
def ofBracketed (cs : List Char) : Except UrlError Host :=
  if cs.getLast? = some ']' then
    match ipv6? cs.dropLast with
    | some pieces => .ok (ipv6 pieces)
    | none => .error .invalidIpv6
  else .error .invalidIpv6

/-- The characters that no host may hold. -/
def forbidden (c : Char) : Bool :=
  c.toNat = 0 || c = '\t' || c = '\n' || c = '\r' || c = ' ' || c = '#' || c = '/' || c = ':'
    || c = '<' || c = '>' || c = '?' || c = '@' || c = '[' || c = '\\' || c = ']' || c = '^'
    || c = '|'

/-- The host of a URL that is not special. -/
def ofName (cs : List Char) : Except UrlError Host :=
  match cs with
  | '[' :: rest => ofBracketed rest
  | _ =>
    if cs.any forbidden then .error .invalidDomainCharacter
    else .ok (name (String.ofList (Encode.percent Encode.controls cs)))

/-- The host of a special URL: percent-decoded, written in ASCII, and an address if it ends in a
number. -/
def ofDomain (cs : List Char) : Except UrlError Host :=
  match cs with
  | '[' :: rest => ofBracketed rest
  | _ =>
    match (Text.ofBytes? (Encode.percentDecode cs)).bind fun s => Domain.ascii? s.toList with
    | none => .error .invalidDomainName
    | some ascii =>
      if ascii.any fun c => forbidden c || Encode.controls c || c = '%' then
        .error .invalidDomainName
      else if ascii.isEmpty then .error .emptyHost
      else if endsInNumber ascii then
        match ipv4? ascii with
        | some n => .ok (ipv4 n)
        | none => .error .invalidIpv4
      else .ok (name (String.ofList ascii))

end Host

end Conformance
