import NodeCanvas.Json.Basic
/-!
# Numbers as they are written in JSON text

A numeral without fraction and exponent is a whole number if it fits 64 bits. Every other numeral
is a float: its digits are collected into a 64-bit significand until the next one would not fit,
the digits left over before the point only raise the exponent and those after it are dropped, and
the significand is then scaled by one power of ten. The result is the nearest float whenever the
numeral has at most fifteen digits and a small exponent, and within a few last places otherwise.
A numeral too large for a float stands for no number.
-/

namespace NodeCanvas

/-- The parts of a number as written; digits are the numbers `0` to `9`. -/
structure Numeral where
  negative : Bool
  whole : List Nat
  fraction : List Nat := []
  exponent : Option (Bool × List Nat) := none
  deriving Repr, DecidableEq

namespace Numeral

/-- The greatest number of 64 bits. -/
def greatestWord : Nat := 18446744073709551615

def valueOf (digits : List Nat) : Nat := digits.foldl (fun n d => 10 * n + d) 0

/-- Digits appended to a significand as long as it fits a word, and the digits left over. -/
def collect (significand : Nat) : List Nat → Nat × List Nat
  | [] => (significand, [])
  | d :: rest =>
    if 10 * significand + d ≤ greatestWord then collect (10 * significand + d) rest
    else (significand, d :: rest)

/-- The powers of ten that a float can hold. -/
def powerOfTen (n : Nat) : Float := Float.ofScientific 1 false n

/-- A float divided by `10 ^ n` in steps of at most `10 ^ 308`. -/
def divideByPower (x : Float) (n : Nat) : Nat → Float
  | 0 => 0.0
  | steps + 1 =>
    if n ≤ 308 then x / powerOfTen n
    else if x == 0.0 then x
    else divideByPower (x / powerOfTen 308) (n - 308) steps

/-- `significand · 10 ^ exponent`, if a float can hold it. -/
def scale? (significand : Nat) (exponent : Int) : Option Float :=
  let x := Float.ofNat significand
  if exponent < 0 then
    some (divideByPower x exponent.natAbs 8)
  else if exponent ≤ 308 then
    let scaled := x * powerOfTen exponent.natAbs
    if scaled.isInf then none else some scaled
  else if significand = 0 then some x
  else none

/-- The size of the numeral as a float. -/
def size? (n : Numeral) : Option Float :=
  let (whole, leftBefore) := collect 0 n.whole
  let (significand, leftAfter) := collect whole n.fraction
  let place : Int := (leftBefore.length : Int) - ((n.fraction.length : Int) - leftAfter.length)
  match n.exponent with
  | none => scale? significand place
  | some (negative, digits) =>
    let size := valueOf digits
    if size < 2147483648 then scale? significand (if negative then place - size else place + size)
    else if significand = 0 ∨ negative then some 0.0
    else none

/-- The number that a numeral stands for. -/
def number? (n : Numeral) : Option Json.Number :=
  let whole := valueOf n.whole
  if n.fraction.isEmpty ∧ n.exponent.isNone ∧ whole ≤ greatestWord then
    if !n.negative then some (.int whole)
    else if whole = 0 ∨ 9223372036854775808 < whole then Json.Number.ofFloat? (-(Float.ofNat whole))
    else some (.int (-whole))
  else
    n.size?.bind fun size => Json.Number.ofFloat? (if n.negative then -size else size)

end Numeral

end NodeCanvas
