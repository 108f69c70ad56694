import NodeCanvas.Json.Numeral
import NodeCanvas.Text.Basic
/-!
# JSON text

`Markup.parse?` reads a text into the tree that its punctuation describes, with numbers and strings
still as written. Whether a numeral fits a float, whether escapes name a character and how deep the
tree is are questions for whoever wants the value: `Markup.value?` answers them for a whole tree,
and a reader that skips a part of the text never asks.
-/

namespace NodeCanvas

/-- One element of a quoted string: a character, or a 16-bit code from a `\u` escape. -/
inductive CodeUnit where
  | char (c : Char)
  | code (n : Nat)

/-- The tree of a JSON text. A string that names no text, because it holds half of a surrogate
pair, is `none`. -/
inductive Markup where
  | null
  | bool (b : Bool)
  | number (n : Numeral)
  | string (s : Option String)
  | array (items : List Markup)
  | object (fields : List (Option String × Markup))

namespace Markup

/-- How many containers may be nested in a value. -/
def deepest : Nat := 127

/-! ## Strings -/

/-- The characters of a string; a pair of surrogate codes is one character and half a pair none. -/
def joinUnits : List CodeUnit → Option (List Char)
  | [] => some []
  | .char c :: rest => (joinUnits rest).map (c :: ·)
  | .code high :: .code low :: rest =>
    if 0xD800 ≤ high ∧ high < 0xDC00 ∧ 0xDC00 ≤ low ∧ low < 0xE000 then
      (joinUnits rest).map (Char.ofNat (0x10000 + (high - 0xD800) * 0x400 + (low - 0xDC00)) :: ·)
    else if 0xD800 ≤ high ∧ high < 0xE000 then none
    else (joinUnits (.code low :: rest)).map (Char.ofNat high :: ·)
  | .code n :: rest =>
    if 0xD800 ≤ n ∧ n < 0xE000 then none else (joinUnits rest).map (Char.ofNat n :: ·)

/-- The character that a letter after a backslash stands for. -/
def escaped? : Char → Option Char
  | '"' => some '"'
  | '\\' => some '\\'
  | '/' => some '/'
  | 'b' => some (Char.ofNat 8)
  | 'f' => some (Char.ofNat 12)
  | 'n' => some '\n'
  | 'r' => some '\r'
  | 't' => some '\t'
  | _ => none

/-- The units of a string up to its closing quote, and the text after it. -/
def parseUnits (units : List CodeUnit) : List Char → Option (List CodeUnit × List Char)
  | [] => none
  | '"' :: rest => some (units.reverse, rest)
  | '\\' :: 'u' :: a :: b :: c :: d :: rest => do
    let n := (← hexDigit? a) * 4096 + (← hexDigit? b) * 256 + (← hexDigit? c) * 16 + (← hexDigit? d)
    parseUnits (.code n :: units) rest
  | '\\' :: c :: rest => do parseUnits (.char (← escaped? c) :: units) rest
  | c :: rest => if c.toNat < 32 then none else parseUnits (.char c :: units) rest

/-- A string after its opening quote. -/
def parseString (text : List Char) : Option (Option String × List Char) := do
  let (units, rest) ← parseUnits [] text
  return ((joinUnits units).map String.ofList, rest)

/-! ## Numbers -/

def isDigit (c : Char) : Bool := '0' ≤ c && c ≤ '9'

/-- The leading digits of a text and what follows them. -/
def takeDigits (text : List Char) : List Nat × List Char :=
  ((text.takeWhile isDigit).map fun c => c.toNat - 48, text.dropWhile isDigit)

/-- An exponent, if one follows. -/
def parseExponent : List Char → Option (Option (Bool × List Nat) × List Char)
  | e :: rest =>
    if e = 'e' ∨ e = 'E' then
      let (negative, rest) := match rest with
        | '-' :: rest => (true, rest)
        | '+' :: rest => (false, rest)
        | rest => (false, rest)
      let (digits, rest) := takeDigits rest
      if digits.isEmpty then none else some (some (negative, digits), rest)
    else some (none, e :: rest)
  | [] => some (none, [])

/-- A fraction, if one follows. -/
def parseFraction : List Char → Option (List Nat × List Char)
  | '.' :: rest =>
    let (digits, rest) := takeDigits rest
    if digits.isEmpty then none else some (digits, rest)
  | rest => some ([], rest)

/-- A number after its sign. A leading zero stands alone. -/
def parseNumeral (negative : Bool) (text : List Char) : Option (Numeral × List Char) := do
  let (whole, rest) := takeDigits text
  guard !whole.isEmpty
  guard (whole.head? ≠ some 0 ∨ whole.length = 1)
  let (fraction, rest) ← parseFraction rest
  let (exponent, rest) ← parseExponent rest
  return (⟨negative, whole, fraction, exponent⟩, rest)

/-! ## Values -/

def isBlank (c : Char) : Bool := c == ' ' || c == '\n' || c == '\t' || c == '\r'

def skipBlanks (text : List Char) : List Char := text.dropWhile isBlank

mutual

/-- A value and the text after it. Every step consumes a character, so fuel above the length of the
text is never used up. -/
def parseValue : Nat → List Char → Option (Markup × List Char)
  | 0, _ => none
  | fuel + 1, text =>
    match skipBlanks text with
    | 'n' :: 'u' :: 'l' :: 'l' :: rest => some (.null, rest)
    | 't' :: 'r' :: 'u' :: 'e' :: rest => some (.bool true, rest)
    | 'f' :: 'a' :: 'l' :: 's' :: 'e' :: rest => some (.bool false, rest)
    | '"' :: rest => (parseString rest).map fun (s, rest) => (.string s, rest)
    | '-' :: rest => (parseNumeral true rest).map fun (n, rest) => (.number n, rest)
    | '[' :: rest =>
      match skipBlanks rest with
      | ']' :: rest => some (.array [], rest)
      | rest => (parseItems fuel [] rest).map fun (items, rest) => (.array items, rest)
    | c :: rest =>
      if c = '\x7b' then
        match skipBlanks rest with
        | [] => none
        | d :: after =>
          if d = '\x7d' then some (.object [], after)
          else (parseFields fuel [] (d :: after)).map fun (fields, rest) => (.object fields, rest)
      else (parseNumeral false (c :: rest)).map fun (n, rest) => (.number n, rest)
    | [] => none

/-- The items of a list up to its closing bracket. -/
def parseItems : Nat → List Markup → List Char → Option (List Markup × List Char)
  | 0, _, _ => none
  | fuel + 1, items, text => do
    let (item, rest) ← parseValue fuel text
    match skipBlanks rest with
    | ',' :: rest => parseItems fuel (item :: items) rest
    | ']' :: rest => return ((item :: items).reverse, rest)
    | _ => none

/-- The fields of an object up to its closing brace. -/
def parseFields : Nat → List (Option String × Markup) → List Char →
    Option (List (Option String × Markup) × List Char)
  | 0, _, _ => none
  | fuel + 1, fields, text =>
    match skipBlanks text with
    | '"' :: rest => do
      let (name, rest) ← parseString rest
      match skipBlanks rest with
      | ':' :: rest => do
        let (value, rest) ← parseValue fuel rest
        match skipBlanks rest with
        | ',' :: rest => parseFields fuel ((name, value) :: fields) rest
        | c :: rest => if c = '\x7d' then return (((name, value) :: fields).reverse, rest) else none
        | [] => none
      | _ => none
    | _ => none

end

/-- The tree of a text that holds one value and nothing else. -/
def parse? (text : String) : Option Markup :=
  let chars := text.toList
  match parseValue (2 * chars.length + 2) chars with
  | some (value, rest) => if (skipBlanks rest).isEmpty then some value else none
  | none => none

/-! ## The value of a tree -/

mutual

/-- The value of a tree whose containers are nested at most `depth` deep. -/
def valueWithin? (depth : Nat) : Markup → Option Json
  | .null => some .null
  | .bool b => some (.bool b)
  | .number n => n.number?.map .number
  | .string s => s.map .string
  | .array items =>
    match depth with
    | 0 => none
    | depth + 1 => (itemsWithin? depth items).map .array
  | .object fields =>
    match depth with
    | 0 => none
    | depth + 1 =>
      (fieldsWithin? depth fields).map fun fields => .object (Table.ofList fields).entries
termination_by structural tree => tree

def itemsWithin? (depth : Nat) : List Markup → Option (List Json)
  | [] => some []
  | item :: rest => do return (← valueWithin? depth item) :: (← itemsWithin? depth rest)
termination_by structural items => items

def fieldsWithin? (depth : Nat) : List (Option String × Markup) → Option (List (String × Json))
  | [] => some []
  | (name, value) :: rest => do
    return (← name, ← valueWithin? depth value) :: (← fieldsWithin? depth rest)
termination_by structural fields => fields

end

def value? (tree : Markup) : Option Json := valueWithin? deepest tree

end Markup

/-- The value of a JSON text. -/
def Json.parse? (text : String) : Option Json := do (← Markup.parse? text).value?

end NodeCanvas
