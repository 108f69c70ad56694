import NodeCanvas.Decimal.Binary
/-!
# The shortest decimal of a float

Every float is the nearest float to a whole interval of reals. `Binary.shortest` finds the decimal
with the fewest digits in that interval and, among those, the one nearest to the float. It looks at
grids of decimals with one digit, two digits and so on: a grid meets the interval exactly when one
of the two grid points around the float does, so only those two are tested, in exact arithmetic.
Seventeen digits always suffice.
-/

namespace NodeCanvas

/-- The number `digits · 10 ^ exponent`. -/
structure Decimal where
  digits : Nat
  exponent : Int
  deriving Repr, DecidableEq

/-- How many decimal digits a number has; zero has one. -/
def digitCount (n : Nat) : Nat := (Nat.toDigits 10 n).length

namespace Ratio

/-- The exponent of the leading decimal digit of a fraction above zero. -/
def leadingExponent (r : Ratio) : Int :=
  if r.den ≤ r.num then (digitCount (r.num / r.den) : Int) - 1
  else -(digitCount ((r.den - 1) / r.num) : Int)

/-- The fraction times a power of ten. -/
def shift (r : Ratio) (exponent : Int) : Ratio :=
  if 0 ≤ exponent then ⟨r.num * Nat.pow 10 exponent.toNat, r.den⟩
  else ⟨r.num, r.den * Nat.pow 10 (-exponent).toNat⟩

/-- How a fraction compares with a whole number. -/
def compareNat (r : Ratio) (n : Nat) : Ordering := compare r.num (n * r.den)

end Ratio

namespace Decimal

/-- The same number without trailing zero digits. -/
def trimZeros (d : Decimal) : Nat → Decimal
  | 0 => d
  | fuel + 1 =>
    if d.digits ≠ 0 ∧ d.digits % 10 = 0 then
      trimZeros ⟨d.digits / 10, d.exponent + 1⟩ fuel
    else d

end Decimal

namespace Binary

/-- The reals that are nearer to a number than to its neighbours, in quarters of its last place:
from `low` to `high` around `4 · mantissa`. Below a power of two the neighbours are closer. -/
def quarters (b : Binary) : Nat × Nat :=
  let low := if b.mantissa = Nat.pow 2 52 ∧ -1074 < b.exponent then 4 * b.mantissa - 1
    else 4 * b.mantissa - 2
  (low, 4 * b.mantissa + 2)

/-- A fraction of quarters of the last place, as a plain fraction. -/
def quarterRatio (b : Binary) (quarters : Nat) : Ratio :=
  ratio ⟨false, quarters, b.exponent - 2⟩

/-- Whether `candidate · 10 ^ place` reads back as the number. The ends of the interval belong to
it when the mantissa is even. -/
def readsBack (b : Binary) (place : Int) (candidate : Nat) : Bool :=
  let low := (b.quarterRatio b.quarters.1).shift (-place)
  let high := (b.quarterRatio b.quarters.2).shift (-place)
  let even := b.mantissa % 2 = 0
  match low.compareNat candidate, high.compareNat candidate with
  | .lt, .gt => true
  | .eq, _ => even
  | _, .eq => even
  | _, _ => false

/-- The better of the two grid points around the number at a place, if one reads back. -/
def onGrid? (b : Binary) (place : Int) : Option Decimal :=
  let scaled := b.ratio.shift (-place)
  let below := scaled.num / scaled.den
  let above := below + 1
  match b.readsBack place below, b.readsBack place above with
  | true, true =>
    let twice := 2 * (scaled.num % scaled.den)
    if scaled.den < twice ∨ (scaled.den = twice ∧ below % 2 = 1) then some ⟨above, place⟩
    else some ⟨below, place⟩
  | true, false => some ⟨below, place⟩
  | false, true => some ⟨above, place⟩
  | false, false => none

/-- The first grid with a hit, counting digits upwards. -/
def searchGrids (b : Binary) (leading : Int) : List Nat → Decimal
  | [] => ⟨b.mantissa, 0⟩
  | count :: more =>
    match b.onGrid? (leading - count + 1) with
    | some d => d
    | none => searchGrids b leading more

/-- The decimal with the fewest digits that reads back as the number's size. -/
def shortest (b : Binary) : Decimal :=
  if b.mantissa = 0 then ⟨0, 0⟩
  else (searchGrids b b.ratio.leadingExponent (List.range' 1 17)).trimZeros 20

end Binary

end NodeCanvas
