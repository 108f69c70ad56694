import NodeCanvas.Decimal.Shortest
/-!
# The float nearest to a decimal

`Ratio.nearest` rounds a fraction to the nearest float, a half to the even neighbour, and
`readFloat?` reads a number as people write it: a sign, digits with a point among them or at either
end, and an exponent, or one of the words for what is no number.
-/

namespace NodeCanvas

namespace Ratio

/-- The fraction divided by a power of two. -/
def unscale (r : Ratio) (exponent : Int) : Ratio :=
  if 0 ≤ exponent then ⟨r.num, r.den * Nat.pow 2 exponent.toNat⟩
  else ⟨r.num * Nat.pow 2 (-exponent).toNat, r.den⟩

/-- The exponent of the last place of the floats around a fraction above zero. -/
def lastPlace (r : Ratio) : Int :=
  let estimate : Int := (Nat.log2 r.num : Int) - Nat.log2 r.den - 53
  let scaled := r.unscale estimate
  let place := if Nat.pow 2 53 * scaled.den ≤ scaled.num then estimate + 1 else estimate
  max place (-1074)

/-- The float nearest to a fraction; of two equally near the one with the even last place. What is
too large for a float is infinite. -/
def nearest (r : Ratio) : Float :=
  if r.num = 0 then 0.0
  else
    let place := r.lastPlace
    (Float.ofNat (r.unscale place).roundEven).scaleB place

end Ratio

/-- The float nearest to a decimal. Far outside the range of floats nothing is computed. -/
def Decimal.nearest (d : Decimal) : Float :=
  let leading := d.exponent + digitCount d.digits
  if d.digits = 0 ∨ leading < -400 then 0.0
  else if 400 < leading then 1.0 / 0.0
  else (Ratio.shift ⟨d.digits, 1⟩ d.exponent).nearest

/-! ## Numbers as people write them -/

def isDigit (c : Char) : Bool := '0' ≤ c && c ≤ '9'

/-- The number that digits stand for. -/
def digitsValue (digits : List Char) : Nat :=
  digits.foldl (fun n c => 10 * n + (c.toNat - '0'.toNat)) 0

/-- A sign, if there is one, and what follows it. -/
def takeSign : List Char → Bool × List Char
  | '-' :: rest => (true, rest)
  | '+' :: rest => (false, rest)
  | rest => (false, rest)

/-- The exponent that a text consists of; none at all counts as zero. -/
def readExponent? : List Char → Option Int
  | [] => some 0
  | mark :: rest =>
    let (negative, digits) := takeSign rest
    if (mark = 'e' ∨ mark = 'E') ∧ !digits.isEmpty ∧ digits.all isDigit then
      let size : Int := digitsValue digits
      some (if negative then -size else size)
    else none

/-- The decimal that a text without sign consists of. -/
def readDecimal? (text : List Char) : Option Decimal :=
  let (whole, rest) := text.span isDigit
  let (fraction, rest) := match rest with
    | '.' :: rest => rest.span isDigit
    | rest => ([], rest)
  if whole.isEmpty ∧ fraction.isEmpty then none
  else (readExponent? rest).map fun exponent =>
    ⟨digitsValue (whole ++ fraction), exponent - fraction.length⟩

/-- The float that a text consists of. -/
def readFloat? (text : List Char) : Option Float :=
  let (negative, rest) := takeSign text
  let size? : Option Float :=
    match String.ofList (rest.map Char.toLower) with
    | "inf" | "infinity" => some (1.0 / 0.0)
    | "nan" => some (0.0 / 0.0)
    | _ => (readDecimal? rest).map Decimal.nearest
  size?.map fun size => if negative then -size else size

/-- The number below a bound that a text consists of; it may have a plus sign. -/
def readNatBelow? (bound : Nat) (text : List Char) : Option Nat :=
  let digits := match text with
    | '+' :: rest => rest
    | rest => rest
  if !digits.isEmpty ∧ digits.all isDigit ∧ digitsValue digits < bound then
    some (digitsValue digits)
  else none

end NodeCanvas
