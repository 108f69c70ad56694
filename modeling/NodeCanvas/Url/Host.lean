import NodeCanvas.Url.Domain
import NodeCanvas.Url.Percent
/-!
# Hosts

The host of a URL is a domain name, an address of version 4 or 6, or, for schemes that are not well
known, any text. A name whose last part is a number is an address of version 4, written with up to
four decimal, octal or hexadecimal numbers.
-/

namespace NodeCanvas

/-- Why a text is no URL. -/
inductive UrlError where
  | emptyHost
  | badDomain
  | badPort
  | badIpv4
  | badIpv6
  | badCharacter
  | relative
  deriving DecidableEq

def UrlError.message : UrlError → String
  | .emptyHost => "empty host"
  | .badDomain => "invalid international domain name"
  | .badPort => "invalid port number"
  | .badIpv4 => "invalid IPv4 address"
  | .badIpv6 => "invalid IPv6 address"
  | .badCharacter => "invalid domain character"
  | .relative => "relative URL without a base"

inductive Host where
  | domain (name : String)
  | ipv4 (address : Nat)
  | ipv6 (pieces : List Nat)
  | text (name : String)
  deriving DecidableEq

namespace Host

/-! ## Addresses of version 4 -/

/-- The number of a text of digits in a base. -/
def number? (base : Nat) (digits : List Char) : Option Nat :=
  digits.foldlM (fun n c => do
    let d ← hexDigit? c
    guard (d < base)
    return n * base + d) 0

/-- A part of an address; an empty number counts as zero. -/
def ipv4Number? : List Char → Option Nat
  | [] => none
  | '0' :: 'x' :: digits | '0' :: 'X' :: digits => number? 16 digits
  | '0' :: d :: digits => number? 8 (d :: digits)
  | digits => number? 10 digits

/-- The parts of a name, without an empty last one. -/
def nameParts (name : List Char) : List (List Char) :=
  let parts := Text.splitOn (· == '.') name
  if parts.getLast? == some [] ∧ 1 < parts.length then parts.dropLast else parts

/-- Whether a name is meant to be an address of version 4. -/
def endsInNumber (name : List Char) : Bool :=
  match (nameParts name).getLast? with
  | none | some [] => false
  | some last => last.all Char.isDigit || (ipv4Number? last).isSome

/-- The address of some parts: all but the last are single bytes, and the last fills the rest. -/
def ipv4OfParts? (parts : List Nat) : Option Nat := do
  let last ← parts.getLast?
  let bytes := parts.dropLast
  guard (bytes.length ≤ 3 ∧ bytes.all (· < 256))
  guard (last < Nat.pow 256 (4 - bytes.length))
  return bytes.zipIdx.foldl (fun sum (b, i) => sum + b * Nat.pow 256 (3 - i)) last

def ipv4? (name : List Char) : Option Nat := do
  ipv4OfParts? (← (nameParts name).mapM ipv4Number?)

def ipv4Text (address : Nat) : String :=
  ".".intercalate ([3, 2, 1, 0].map fun i => Nat.repr (address / Nat.pow 256 i % 256))

/-! ## Addresses of version 6 -/

/-- A piece of up to four hexadecimal digits. -/
def piece? (digits : List Char) : Option Nat := do
  guard (1 ≤ digits.length ∧ digits.length ≤ 4)
  number? 16 digits

/-- A part of an address of version 4 inside one of version 6: decimal and without extra zeros. -/
def plainByte? (digits : List Char) : Option Nat := do
  guard (1 ≤ digits.length ∧ digits.length ≤ 3 ∧ (digits.length = 1 ∨ digits.head? ≠ some '0'))
  let n ← number? 10 digits
  guard (n < 256)
  return n

/-- The pieces of a run of groups; the last group may be an address of version 4. -/
def pieces? : List (List Char) → Option (List Nat)
  | [] => some []
  | [last] =>
    match piece? last with
    | some piece => some [piece]
    | none => do
      match ← (Text.splitOn (· == '.') last).mapM plainByte? with
      | [a, b, c, d] => return [a * 256 + b, c * 256 + d]
      | _ => none
  | group :: groups => do return (← piece? group) :: (← pieces? groups)

/-- The groups of one side of the double colon. -/
def side? (text : List Char) : Option (List Nat) :=
  if text.isEmpty then some [] else pieces? (Text.splitOn (· == ':') text)

/-- What stands before and after the first double colon. -/
def splitDouble : List Char → Option (List Char × List Char)
  | ':' :: ':' :: rest => some ([], rest)
  | c :: rest => (splitDouble rest).map fun (a, b) => (c :: a, b)
  | [] => none

def ipv6? (text : List Char) : Option (List Nat) :=
  match splitDouble text with
  | none => do
    let pieces ← side? text
    guard (pieces.length = 8)
    return pieces
  | some (left, right) => do
    let front ← (if left.isEmpty then some [] else (Text.splitOn (· == ':') left).mapM piece?)
    let back ← side? right
    guard (front.length + back.length ≤ 7)
    return front ++ List.replicate (8 - front.length - back.length) 0 ++ back

def hexText (n : Nat) : String := String.ofList (Nat.toDigits 16 n)

/-- The length of the run of zeros at the start. -/
def zeros (pieces : List Nat) : Nat := (pieces.takeWhile (· == 0)).length

/-- The longest run of zeros of at least two pieces, the first of several: its start and length. -/
def longestRun (pieces : List Nat) : Option (Nat × Nat) :=
  let runs := (List.range pieces.length).map fun i => (i, zeros (pieces.drop i))
  runs.foldl (fun best (i, n) =>
    if n < 2 then best
    else match best with
      | some (_, m) => if m < n then some (i, n) else best
      | none => some (i, n)) none

def ipv6Text (pieces : List Nat) : String :=
  let join (ps : List Nat) : String := ":".intercalate (ps.map hexText)
  match longestRun pieces with
  | some (start, length) => join (pieces.take start) ++ "::" ++ join (pieces.drop (start + length))
  | none => join pieces

/-! ## Hosts -/

/-- The host of a URL of a well-known scheme. -/
def ofText (text : List Char) : Except UrlError Host :=
  match text with
  | [] => .error .emptyHost
  | '[' :: rest =>
    if rest.getLast? == some ']' then
      match ipv6? rest.dropLast with
      | some pieces => .ok (.ipv6 pieces)
      | none => .error .badIpv6
    else .error .badIpv6
  | _ =>
    match Percent.decode? text >>= fun name => Domain.ascii? name.toList with
    | none => .error .badDomain
    | some ascii =>
      if ascii.isEmpty then .error .emptyHost
      else if endsInNumber ascii then
        match ipv4? ascii with
        | some address => .ok (.ipv4 address)
        | none => .error .badIpv4
      else .ok (.domain (String.ofList ascii))

/-- Characters that no host of any scheme holds. -/
def forbidden : List Char :=
  [Char.ofNat 0, '\t', '\n', '\r', ' ', '#', '/', ':', '<', '>', '?', '@', '[', '\\', ']', '^', '|']

/-- The host of a URL of any other scheme. -/
def ofOpaque (text : List Char) : Except UrlError Host :=
  match text with
  | '[' :: _ => ofText text
  | _ =>
    if text.any forbidden.contains then .error .badCharacter
    else .ok (.text (String.ofList (Percent.encode Percent.control text)))

def toText : Host → String
  | .domain name => name
  | .ipv4 address => ipv4Text address
  | .ipv6 pieces => "[" ++ ipv6Text pieces ++ "]"
  | .text name => name

end Host

end NodeCanvas
