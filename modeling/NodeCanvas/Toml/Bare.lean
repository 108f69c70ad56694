import NodeCanvas.Decimal.Nearest
import NodeCanvas.Text.Basic
import NodeCanvas.Toml.Basic
/-!
# Values without quotes in TOML

Numbers, truth values, dates and times are runs of letters, digits and a few signs. Underscores may
stand between two digits. Whole numbers have 64 bits; a positive float must not be too large, and a
date must exist.
-/

namespace NodeCanvas

namespace Toml

/-- Whether a character can be part of a value without quotes. -/
def isBare (c : Char) : Bool :=
  c.isAlphanum || c == '+' || c == '-' || c == '_' || c == '.' || c == ':'

/-- Digits without the underscores between them, which must not stand anywhere else. -/
def plainDigits? (ok : Char → Bool) : List Char → Option (List Char)
  | [] => none
  | [c] => if ok c then some [c] else none
  | c :: '_' :: rest => do
    guard (ok c)
    return c :: (← plainDigits? ok rest)
  | c :: d :: rest => do
    guard (ok c)
    return c :: (← plainDigits? ok (d :: rest))

/-- The digits before point and exponent: a leading zero stands alone. -/
def wholeDigits? (text : List Char) : Option (List Char) := do
  let digits ← plainDigits? isDigit text
  guard (digits.head? ≠ some '0' ∨ digits.length = 1)
  return digits

/-- A number of 64 bits. -/
def word? (n : Int) : Option Toml :=
  if -9223372036854775808 ≤ n ∧ n < 9223372036854775808 then some (.integer n) else none

/-- A whole number in base ten. -/
def decimal? (text : List Char) : Option Toml := do
  let (negative, rest) := takeSign text
  let size : Int := digitsValue (← wholeDigits? rest)
  word? (if negative then -size else size)

/-- A whole number in another base, after the mark of the base. -/
def inBase? (base : Nat) (text : List Char) : Option Toml := do
  let ok (c : Char) : Bool := (hexDigit? c).any fun d => d < base
  let digits ← (← plainDigits? ok text).mapM hexDigit?
  word? (digits.foldl (fun n d => base * n + d) 0 : Nat)

/-- An exponent after its mark. -/
def exponentDigits? (text : List Char) : Option (List Char) := do
  let digits ← plainDigits? isDigit (takeSign text).2
  return (if (takeSign text).1 then ['-'] else []) ++ digits

/-- A float with a fraction or an exponent or both. -/
def decimalFloat? (text : List Char) : Option Toml := do
  let (negative, rest) := takeSign text
  let isMark (c : Char) : Bool := c == 'e' || c == 'E'
  let (mantissa, exponent) := rest.span (!isMark ·)
  let (whole, fraction) := mantissa.span (· ≠ '.')
  guard (!(exponent.isEmpty && fraction.isEmpty))
  let whole ← wholeDigits? whole
  let fraction ← if fraction.isEmpty then some [] else plainDigits? isDigit fraction.tail
  let exponent ← if exponent.isEmpty then some ['0'] else exponentDigits? exponent.tail
  let size ← readFloat? (whole ++ ['.'] ++ fraction ++ ['e'] ++ exponent)
  guard (negative || size.isFinite)
  return .float (if negative then -size else size)

/-! ## Dates and times -/

/-- A number of two digits from a range, and what follows it. -/
def twoDigits? (low high : Nat) : List Char → Option (Nat × List Char)
  | a :: b :: rest =>
    let n := digitsValue [a, b]
    if isDigit a ∧ isDigit b ∧ low ≤ n ∧ n ≤ high then some (n, rest) else none
  | _ => none

/-- How many days a month has. -/
def daysIn (year month : Nat) : Nat :=
  if month = 2 then
    if year % 4 = 0 ∧ (year % 100 ≠ 0 ∨ year % 400 = 0) then 29 else 28
  else if [4, 6, 9, 11].contains month then 30
  else 31

/-- What follows a date. -/
def afterDate? : List Char → Option (List Char)
  | a :: b :: c :: d :: '-' :: rest => do
    guard ([a, b, c, d].all isDigit)
    let (month, rest) ← twoDigits? 1 12 rest
    match rest with
    | '-' :: rest => return (← twoDigits? 1 (daysIn (digitsValue [a, b, c, d]) month) rest).2
    | _ => none
  | _ => none

/-- What follows a time of day, which may have at most so many hours. -/
def afterTime? (hours : Nat) (text : List Char) : Option (List Char) := do
  match (← twoDigits? 0 hours text).2 with
  | ':' :: rest =>
    match (← twoDigits? 0 59 rest).2 with
    | ':' :: rest =>
      match (← twoDigits? 0 60 rest).2 with
      | '.' :: rest =>
        guard ((rest.head?.map isDigit).getD false)
        return rest.dropWhile isDigit
      | rest => return rest
    | _ => none
  | _ => none

/-- Whether a text is nothing or a distance from universal time, in hours and minutes that are
allowed. -/
def isOffset (allows : Nat → Nat → Bool) : List Char → Bool
  | [] | ['Z'] | ['z'] => true
  | sign :: rest =>
    (sign == '+' || sign == '-') &&
      match twoDigits? 0 99 rest with
      | some (hours, ':' :: rest) =>
        (twoDigits? 0 99 rest).any fun (minutes, rest) => rest.isEmpty && allows hours minutes
      | _ => false

/-- Whether a text is a time of day and perhaps a distance from universal time. -/
def isTimeAndOffset (text : List Char) : Bool :=
  (afterTime? 23 text).any (isOffset fun hours minutes => hours ≤ 23 && minutes ≤ 59)

/-- A date, a time, or a date and a time with a letter between them. -/
def moment? (text : List Char) : Option Toml :=
  let isMoment : Bool :=
    match afterDate? text with
    | some [] => true
    | some (mark :: rest) => (mark == 'T' || mark == 't') && isTimeAndOffset rest
    | none => (afterTime? 23 text).any List.isEmpty
  if isMoment then some (.moment (String.ofList text)) else none

/-! ## Any value without quotes -/

/-- The value that a run of characters stands for. -/
def bareValue? (text : List Char) : Option Toml :=
  match text with
  | '0' :: 'x' :: rest => inBase? 16 rest
  | '0' :: 'o' :: rest => inBase? 8 rest
  | '0' :: 'b' :: rest => inBase? 2 rest
  | _ =>
    match String.ofList text with
    | "true" => some (.boolean true)
    | "false" => some (.boolean false)
    | "inf" | "+inf" => some (.float (1.0 / 0.0))
    | "-inf" => some (.float (-1.0 / 0.0))
    | "nan" | "+nan" | "-nan" => some (.float (0.0 / 0.0))
    | _ => moment? text <|> decimalFloat? text <|> decimal? text

/-- A value without quotes at the start of a text. A date may have a time after a blank. -/
def readBare (text : List Char) : Option (Toml × List Char) := do
  let (first, rest) := text.span isBare
  match afterDate? first, rest with
  | some [], ' ' :: next =>
    let (second, after) := next.span isBare
    if isTimeAndOffset second then
      return (.moment (String.ofList (first ++ ' ' :: second)), after)
    else return (.moment (String.ofList first), rest)
  | _, _ => return (← bareValue? first, rest)

end Toml

end NodeCanvas
