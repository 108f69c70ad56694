import NodeCanvas.Decimal.Shortest
/-!
# How a float is written

The digits of a float are fixed by `Binary.shortest`; a `Layout` holds the remaining decisions:
which decimal exponents are written positionally, whether a whole number shows a fraction, and the
texts of the values that have no digits. `Layout.json` is the form of numbers in JSON text and
`Layout.plain` the form of numbers in messages and settings.
-/

namespace NodeCanvas

/-- The decisions left open once the digits of a float are known. -/
structure Layout where
  /-- Whether the exponent of the leading digit is written positionally. -/
  positional : Int → Bool
  /-- Whether a whole number ends in `.0`. -/
  wholeFraction : Bool

namespace Layout

/-- Numbers in JSON text: positional from `10 ^ -5` below `10 ^ 16`, whole numbers with `.0`. -/
def json : Layout where
  positional e := -5 ≤ e && e ≤ 15
  wholeFraction := true

/-- Numbers in messages: always positional, whole numbers without a fraction. -/
def plain : Layout where
  positional _ := true
  wholeFraction := false

/-- Digits with the decimal point in its place. -/
def writePositional (l : Layout) (d : Decimal) : String :=
  let digits := Nat.repr d.digits
  if 0 ≤ d.exponent then
    digits ++ "".pushn '0' d.exponent.toNat ++ (if l.wholeFraction then ".0" else "")
  else
    let places := (-d.exponent).toNat
    let padded := "".pushn '0' (places + 1 - digits.length) ++ digits
    let whole := padded.length - places
    String.ofList (padded.toList.take whole) ++ "." ++ String.ofList (padded.toList.drop whole)

/-- One leading digit, the others after a point, and a signed exponent. -/
def writeScientific (d : Decimal) (leading : Int) : String :=
  let digits := (Nat.repr d.digits).toList
  let fraction := digits.drop 1
  let mantissa := String.ofList (digits.take 1) ++
    (if fraction.isEmpty then "" else "." ++ String.ofList fraction)
  let sign := if leading < 0 then "e-" else "e+"
  mantissa ++ sign ++ Nat.repr leading.natAbs

/-- The text of a finite number. -/
def writeBinary (l : Layout) (b : Binary) : String :=
  let d := b.shortest
  let leading := d.exponent + digitCount d.digits - 1
  let size := if l.positional leading then l.writePositional d else writeScientific d leading
  if b.negative then "-" ++ size else size

/-- The text of a float; those that are no numbers are written `NaN`, `inf` and `-inf`. -/
def write (l : Layout) (x : Float) : String :=
  match Binary.ofFloat? x with
  | some b => l.writeBinary b
  | none => if x.isNaN then "NaN" else if x < 0.0 then "-inf" else "inf"

end Layout

end NodeCanvas
