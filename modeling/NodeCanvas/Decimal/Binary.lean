/-!
# Floats as exact numbers

A finite float is a whole number times a power of two. `Binary.ofFloat?` reads that form off the
bits, and `Ratio` is the exact fraction it stands for; every rule of this library that depends on
the exact value of a float (the shortest decimal, the nearest nanosecond) goes through it.
-/

namespace NodeCanvas

/-- The number `± mantissa · 2 ^ exponent`. -/
structure Binary where
  negative : Bool
  mantissa : Nat
  exponent : Int
  deriving Repr, DecidableEq

/-- A fraction of natural numbers with a denominator of at least one. -/
structure Ratio where
  num : Nat
  den : Nat
  deriving Repr, DecidableEq

namespace Binary

/-- The exact value of a finite float, and nothing for an infinity or a NaN. -/
def ofFloat? (x : Float) : Option Binary :=
  let bits : Nat := x.toBits.toNat
  let negative := bits / Nat.pow 2 63 == 1
  let biased : Nat := bits / Nat.pow 2 52 % Nat.pow 2 11
  let fraction : Nat := bits % Nat.pow 2 52
  if biased = 2047 then none
  else if biased = 0 then some ⟨negative, fraction, -1074⟩
  else some ⟨negative, Nat.pow 2 52 + fraction, (biased : Int) - 1075⟩

/-- The size of the number, without its sign. -/
def ratio (b : Binary) : Ratio :=
  if 0 ≤ b.exponent then ⟨b.mantissa * Nat.pow 2 b.exponent.toNat, 1⟩
  else ⟨b.mantissa, Nat.pow 2 (-b.exponent).toNat⟩

/-- The number as a rational. -/
def toRat (b : Binary) : Rat :=
  let size : Rat := mkRat b.ratio.num b.ratio.den
  if b.negative then -size else size

end Binary

namespace Ratio

/-- The whole number nearest to the fraction; of two equally near the even one. -/
def roundEven (r : Ratio) : Nat :=
  let floor := r.num / r.den
  let twice := 2 * (r.num % r.den)
  if twice < r.den then floor
  else if r.den < twice then floor + 1
  else if floor % 2 = 0 then floor
  else floor + 1

/-- The fraction times a whole number. -/
def scale (r : Ratio) (factor : Nat) : Ratio := ⟨r.num * factor, r.den⟩

end Ratio

end NodeCanvas
