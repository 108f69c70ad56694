import NodeCanvas.Text.Basic
/-!
# Percent-encoding

Characters that have a meaning of their own in a part of a URL are written as the bytes of their
UTF-8 form, each as a percent sign and two digits. Which characters these are depends on the part.
-/

namespace NodeCanvas.Percent

/-! ## Writing -/

/-- The capital digit of a number below sixteen. -/
def hexDigit (n : Nat) : Char :=
  if n < 10 then Char.ofNat (n + 48) else Char.ofNat (n + 55)

def encodeByte (b : UInt8) : List Char := ['%', hexDigit (b.toNat / 16), hexDigit (b.toNat % 16)]

/-- Encode the reserved characters of a text. -/
def encode (reserved : Char → Bool) (text : List Char) : List Char :=
  text.flatMap fun c =>
    if reserved c then (String.utf8EncodeChar c).flatMap encodeByte else [c]

/-! ## Reserved characters -/

/-- Controls and everything beyond ASCII. -/
def control (c : Char) : Bool := c.toNat < 0x20 || 0x7E < c.toNat

def inFragment (c : Char) : Bool := control c || [' ', '"', '<', '>', '\x60'].contains c

def inPath (c : Char) : Bool := inFragment c || ['#', '?', '\x7b', '\x7d'].contains c

def inUserinfo (c : Char) : Bool :=
  inPath c || ['/', ':', ';', '=', '@', '[', '\\', ']', '^', '|'].contains c

/-- In the query of a URL of a well-known scheme the single quote is reserved, too. -/
def inQuery (special : Bool) (c : Char) : Bool :=
  control c || [' ', '"', '#', '<', '>'].contains c || (special && c == '\x27')

/-! ## Reading -/

/-- The bytes of a text, with what is percent-encoded in it decoded. -/
def decodeBytes : List Char → List UInt8
  | [] => []
  | '%' :: a :: b :: rest =>
    match hexDigit? a, hexDigit? b with
    | some high, some low => UInt8.ofNat (high * 16 + low) :: decodeBytes rest
    | _, _ => 37 :: decodeBytes (a :: b :: rest)
  | c :: rest => String.utf8EncodeChar c ++ decodeBytes rest

/-- The text with what is percent-encoded in it decoded, unless the bytes are no text. -/
def decode? (text : List Char) : Option String := String.fromUTF8? (decodeBytes text).toByteArray

end NodeCanvas.Percent
