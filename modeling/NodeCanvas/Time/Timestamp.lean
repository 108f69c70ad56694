import NodeCanvas.Json.Form
import NodeCanvas.Text.Basic
/-!
# Times of day and date

A timestamp is a point in time in UTC to the nanosecond. A leap second is kept as a second that
lasts two billion nanoseconds. `Timestamp.text` writes the form `2024-01-01T00:00:00Z` with as many
fraction digits as needed in groups of three; `Timestamp.parse?` reads that form and its common
variants: blanks around the parts, a blank or a small `t` between date and time, any offset, and
`UTC` in place of an offset.
-/

namespace NodeCanvas

/-- A point in time: whole seconds since 1970 and the nanoseconds after them. From one billion on
the nanoseconds belong to a leap second. -/
structure Timestamp where
  seconds : Int
  nanos : Nat
  deriving Repr, DecidableEq, Inhabited

/-- A date of the Gregorian calendar, extended to all years. -/
structure CivilDate where
  year : Int
  month : Nat
  day : Nat
  deriving Repr, DecidableEq

namespace CivilDate

def isLeap (year : Int) : Bool := year % 4 == 0 && (year % 100 != 0 || year % 400 == 0)

def monthLength (year : Int) (month : Nat) : Nat :=
  if month = 2 then (if isLeap year then 29 else 28)
  else if month = 4 ∨ month = 6 ∨ month = 9 ∨ month = 11 then 30
  else 31

/-- Whether the calendar of the years -262143 to 262142 has the date. -/
def exists? (d : CivilDate) : Bool :=
  -262143 ≤ d.year && d.year ≤ 262142 && 1 ≤ d.month && d.month ≤ 12 && 1 ≤ d.day &&
    d.day ≤ monthLength d.year d.month

/-- Days from the first of January 1970. Years are counted from March in cycles of 400. -/
def toDays (d : CivilDate) : Int :=
  let year := if d.month ≤ 2 then d.year - 1 else d.year
  let cycle := year / 400
  let inCycle := year % 400
  let month : Int := if d.month ≤ 2 then d.month + 9 else d.month - 3
  let dayOfYear := (153 * month + 2) / 5 + d.day - 1
  cycle * 146097 + (inCycle * 365 + inCycle / 4 - inCycle / 100 + dayOfYear) - 719468

/-- The date some days after the first of January 1970. -/
def ofDays (days : Int) : CivilDate :=
  let shifted := days + 719468
  let cycle := shifted / 146097
  let dayOfCycle := shifted % 146097
  let yearOfCycle :=
    (dayOfCycle - dayOfCycle / 1460 + dayOfCycle / 36524 - dayOfCycle / 146096) / 365
  let dayOfYear := dayOfCycle - (365 * yearOfCycle + yearOfCycle / 4 - yearOfCycle / 100)
  let shiftedMonth := (5 * dayOfYear + 2) / 153
  let day := dayOfYear - (153 * shiftedMonth + 2) / 5 + 1
  let month := if shiftedMonth < 10 then shiftedMonth + 3 else shiftedMonth - 9
  let year := yearOfCycle + cycle * 400 + (if month ≤ 2 then 1 else 0)
  ⟨year, month.toNat, day.toNat⟩

end CivilDate

namespace Timestamp

/-! ## Writing -/

/-- A number with leading zeros up to a width. -/
def padded (width n : Nat) : String :=
  let digits := Nat.repr n
  "".pushn '0' (width - digits.length) ++ digits

/-- A year with four digits, or with a sign when it has more or lies before the year zero. -/
def yearText (year : Int) : String :=
  if 0 ≤ year ∧ year ≤ 9999 then padded 4 year.toNat
  else (if year < 0 then "-" else "+") ++ padded 4 year.natAbs

/-- The fraction of a second in groups of three digits. -/
def fractionText (nanos : Nat) : String :=
  if nanos = 0 then ""
  else if nanos % 1000000 = 0 then "." ++ padded 3 (nanos / 1000000)
  else if nanos % 1000 = 0 then "." ++ padded 6 (nanos / 1000)
  else "." ++ padded 9 nanos

def dateText (t : Timestamp) : String :=
  let date := CivilDate.ofDays (t.seconds / 86400)
  yearText date.year ++ "-" ++ padded 2 date.month ++ "-" ++ padded 2 date.day

def timeText (t : Timestamp) : String :=
  let ofDay := (t.seconds % 86400).toNat
  let leap := 1000000000 ≤ t.nanos
  let second := ofDay % 60 + (if leap then 1 else 0)
  padded 2 (ofDay / 3600) ++ ":" ++ padded 2 (ofDay / 60 % 60) ++ ":" ++ padded 2 second ++
    fractionText (if leap then t.nanos - 1000000000 else t.nanos)

/-- The form used in documents. -/
def text (t : Timestamp) : String := t.dateText ++ "T" ++ t.timeText ++ "Z"

/-- The form used in listings. -/
def listed (t : Timestamp) : String := t.dateText ++ " " ++ t.timeText ++ " UTC"

/-! ## Reading -/

/-- A number of one to `most` digits. -/
def number? (most : Nat) (s : List Char) : Option (Nat × List Char) :=
  let digits := (s.take most).takeWhile Markup.isDigit
  if digits.isEmpty then none
  else some (digits.foldl (fun n c => 10 * n + (c.toNat - 48)) 0, s.drop digits.length)

/-- A number after blanks. -/
def numeric? (most : Nat) (s : List Char) : Option (Nat × List Char) := number? most (skipBlanks s)

/-- A year: up to four digits, or any number of digits after a sign. -/
def year? (s : List Char) : Option (Int × List Char) :=
  match skipBlanks s with
  | '-' :: rest => (number? rest.length rest).map fun (n, rest) => (-(n : Int), rest)
  | '+' :: rest => (number? rest.length rest).map fun (n, rest) => ((n : Int), rest)
  | rest => (number? 4 rest).map fun (n, rest) => ((n : Int), rest)

/-- A mark after blanks. -/
def mark? (c : Char) (s : List Char) : Option (List Char) :=
  match skipBlanks s with
  | d :: rest => if d = c then some rest else none
  | [] => none

/-- The nanoseconds of a fraction, if one follows; digits after the ninth are dropped. -/
def fraction? : List Char → Option (Nat × List Char)
  | '.' :: rest => do
    let (n, after) ← number? 9 rest
    let count := rest.length - after.length
    return (n * Nat.pow 10 (9 - count), after.dropWhile Markup.isDigit)
  | rest => some (0, rest)

/-- Two digits. -/
def pair? : List Char → Option (Nat × List Char)
  | a :: b :: rest =>
    if Markup.isDigit a && Markup.isDigit b then
      some ((a.toNat - 48) * 10 + (b.toNat - 48), rest)
    else none
  | _ => none

/-- An offset of hours and minutes, in seconds. -/
def offset? (s : List Char) : Option (Int × List Char) := do
  let (negative, rest) ← match s with
    | '+' :: rest => some (false, rest)
    | '-' :: rest => some (true, rest)
    | '−' :: rest => some (true, rest)
    | _ => none
  let (hours, rest) ← pair? rest
  let (minutes, rest) ← pair? (rest.dropWhile fun c => c = ':' || isBlank c)
  guard (minutes < 60)
  let size : Int := hours * 3600 + minutes * 60
  return (if negative then -size else size, rest)

/-- A time zone: `Z`, `UTC` or an offset. -/
def zone? (s : List Char) : Option (Int × List Char) :=
  match s with
  | u :: t :: c :: rest =>
    if u.toUpper = 'U' ∧ t.toUpper = 'T' ∧ c.toUpper = 'C' then some (0, rest) else zulu? s
  | _ => zulu? s
where
  zulu? : List Char → Option (Int × List Char)
    | 'Z' :: rest => some (0, rest)
    | 'z' :: rest => some (0, rest)
    | s => offset? s

/-- The point in time of a date and a time of day at an offset. A sixtieth second is a leap
second. -/
def ofParts? (date : CivilDate) (hour minute second nanos : Nat) (offset : Int) :
    Option Timestamp := do
  guard (date.exists? && hour ≤ 23 && minute ≤ 59 && second ≤ 60 && offset.natAbs < 86400)
  let (second, nanos) := if second = 60 then (59, nanos + 1000000000) else (second, nanos)
  let seconds := date.toDays * 86400 + hour * 3600 + minute * 60 + second - offset
  guard (CivilDate.ofDays (seconds / 86400)).exists?
  return ⟨seconds, nanos⟩

/-- Read a timestamp. -/
def parse? (text : String) : Option Timestamp := do
  let (year, rest) ← year? text.toList
  let (month, rest) ← numeric? 2 (← mark? '-' rest)
  let (day, rest) ← numeric? 2 (← mark? '-' rest)
  let rest ← match rest with
    | c :: rest => if c = 'T' ∨ c = 't' ∨ c = ' ' then some rest else none
    | [] => none
  let (hour, rest) ← numeric? 2 rest
  let (minute, rest) ← numeric? 2 (← mark? ':' rest)
  let (second, rest) ← numeric? 2 (← mark? ':' rest)
  let (nanos, rest) ← fraction? rest
  let (offset, rest) ← zone? (skipBlanks rest)
  guard (skipBlanks rest).isEmpty
  ofParts? ⟨year, month, day⟩ hour minute second nanos offset

end Timestamp

instance : JsonForm Timestamp where
  ofJson? value := value.text? >>= Timestamp.parse?
  toJson t := .string t.text

end NodeCanvas
