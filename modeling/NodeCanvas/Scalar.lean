import NodeCanvas.Decimal.Binary
/-!
# Coordinates

Positions, sizes and zoom factors are numbers of some scalar type. The program runs with floats;
the same definitions make sense for rationals, where the laws of the canvas hold without rounding.
`Scalar` lists what they need of a number: arithmetic, comparison, decimal constants, and a float
form for reading and writing. Floats may be infinite or no number at all, and the operations here
say what happens then.
-/

namespace NodeCanvas

/-- A number type for coordinates. -/
class Scalar (R : Type) extends Add R, Sub R, Mul R, Div R, LT R, LE R, BEq R, OfScientific R where
  decLt (a b : R) : Decidable (a < b)
  decLe (a b : R) : Decidable (a ≤ b)
  isFinite : R → Bool
  isNaN : R → Bool
  ofNat : Nat → R
  ofFloat : Float → R
  toFloat : R → Float

instance Scalar.decidableLt {R : Type} [Scalar R] (a b : R) : Decidable (a < b) := Scalar.decLt a b
instance Scalar.decidableLe {R : Type} [Scalar R] (a b : R) : Decidable (a ≤ b) := Scalar.decLe a b

instance : Scalar Float where
  decLt a b := inferInstanceAs (Decidable (a < b))
  decLe a b := inferInstanceAs (Decidable (a ≤ b))
  isFinite := Float.isFinite
  isNaN := Float.isNaN
  ofNat := Float.ofNat
  ofFloat := id
  toFloat := id

/-- The exact value of a float, and zero for those that are no numbers. -/
def ratOfFloat (x : Float) : Rat := ((Binary.ofFloat? x).map Binary.toRat).getD 0

instance : Scalar Rat where
  decLt a b := inferInstanceAs (Decidable (a < b))
  decLe a b := inferInstanceAs (Decidable (a ≤ b))
  isFinite _ := true
  isNaN _ := false
  ofNat n := n
  ofFloat := ratOfFloat
  toFloat q := Float.ofInt q.num / Float.ofNat q.den

namespace Scalar

variable {R : Type} [Scalar R]

/-- The greater of two numbers; the first of two equal ones, and the other one if one is NaN. -/
def max (a b : R) : R := if a < b then b else if isNaN a then b else a

/-- The smaller of two numbers; the first of two equal ones, and the other one if one is NaN. -/
def min (a b : R) : R := if b < a then b else if isNaN a then b else a

/-- The number nearest to `x` between two bounds. -/
def clamp (x low high : R) : R := if x < low then low else if high < x then high else x

end Scalar

end NodeCanvas
