import NodeCanvas.Text.Basic
/-!
# Quoted text in TOML

Text in double quotes has escapes, text in single quotes has none, and with three quotes either kind
spans lines: a line end right after the opening quotes does not count, and up to two quotes may
stand before the closing ones. A line ends in a line feed, with or without a carriage return before
it; in the text it is a plain line feed.
-/

namespace NodeCanvas

namespace Toml

/-- Whether a character may stand in a comment and, quotes and backslashes apart, in quoted text. -/
def isPrintable (c : Char) : Bool := c == '\t' || (32 ≤ c.toNat && c.toNat ≠ 127)

/-- The character with a code, unless it is half of a surrogate pair or out of range. -/
def charOfCode? (code : Nat) : Option Char :=
  if code < 0xD800 ∨ (0xE000 ≤ code ∧ code < 0x110000) then some (Char.ofNat code) else none

/-- The character with a code of hexadecimal digits. -/
def charOfHex? (digits : List Char) : Option Char := do
  charOfCode? ((← digits.mapM hexDigit?).foldl (fun n d => 16 * n + d) 0)

/-- The character that a letter after a backslash stands for. -/
def escaped? : Char → Option Char
  | 'b' => some (Char.ofNat 8)
  | 't' => some '\t'
  | 'n' => some '\n'
  | 'f' => some (Char.ofNat 12)
  | 'r' => some '\r'
  | '"' => some '"'
  | '\\' => some '\\'
  | _ => none

/-- Whether only blanks stand before the end of the line. -/
def lineEndsHere : List Char → Bool
  | ' ' :: rest | '\t' :: rest => lineEndsHere rest
  | '\n' :: _ | '\r' :: '\n' :: _ => true
  | _ => false

/-- Text up to a closing double quote; `read` holds what was read before it, the latest first. -/
def readBasic (read : List Char) : List Char → Option (String × List Char)
  | '"' :: rest => some (String.ofList read.reverse, rest)
  | '\\' :: 'u' :: a :: b :: c :: d :: rest => do
    readBasic ((← charOfHex? [a, b, c, d]) :: read) rest
  | '\\' :: 'U' :: a :: b :: c :: d :: e :: f :: g :: h :: rest => do
    readBasic ((← charOfHex? [a, b, c, d, e, f, g, h]) :: read) rest
  | '\\' :: c :: rest => do readBasic ((← escaped? c) :: read) rest
  | c :: rest => if isPrintable c then readBasic (c :: read) rest else none
  | [] => none

/-- Text up to three closing double quotes. A backslash at the end of a line joins it with the next
text, without the blanks and line ends between them, which are skipped while `joining`. -/
def readLines (joining : Bool) (read : List Char) : List Char → Option (String × List Char)
  | '"' :: '"' :: '"' :: '"' :: '"' :: rest =>
    some (String.ofList ('"' :: '"' :: read).reverse, rest)
  | '"' :: '"' :: '"' :: '"' :: rest => some (String.ofList ('"' :: read).reverse, rest)
  | '"' :: '"' :: '"' :: rest => some (String.ofList read.reverse, rest)
  | '\\' :: 'u' :: a :: b :: c :: d :: rest => do
    readLines false ((← charOfHex? [a, b, c, d]) :: read) rest
  | '\\' :: 'U' :: a :: b :: c :: d :: e :: f :: g :: h :: rest => do
    readLines false ((← charOfHex? [a, b, c, d, e, f, g, h]) :: read) rest
  | '\\' :: c :: rest =>
    if lineEndsHere (c :: rest) then readLines true read (c :: rest)
    else do readLines false ((← escaped? c) :: read) rest
  | '\r' :: '\n' :: rest => readLines joining (if joining then read else '\n' :: read) rest
  | '\n' :: rest => readLines joining (if joining then read else '\n' :: read) rest
  | c :: rest =>
    if joining && (c == ' ' || c == '\t') then readLines true read rest
    else if isPrintable c then readLines false (c :: read) rest
    else none
  | [] => none

/-- Text up to a closing single quote. -/
def readLiteral (read : List Char) : List Char → Option (String × List Char)
  | '\x27' :: rest => some (String.ofList read.reverse, rest)
  | c :: rest => if isPrintable c then readLiteral (c :: read) rest else none
  | [] => none

/-- Text up to three closing single quotes. -/
def readLiteralLines (read : List Char) : List Char → Option (String × List Char)
  | '\x27' :: '\x27' :: '\x27' :: '\x27' :: '\x27' :: rest =>
    some (String.ofList ('\x27' :: '\x27' :: read).reverse, rest)
  | '\x27' :: '\x27' :: '\x27' :: '\x27' :: rest =>
    some (String.ofList ('\x27' :: read).reverse, rest)
  | '\x27' :: '\x27' :: '\x27' :: rest => some (String.ofList read.reverse, rest)
  | '\r' :: '\n' :: rest => readLiteralLines ('\n' :: read) rest
  | '\n' :: rest => readLiteralLines ('\n' :: read) rest
  | c :: rest => if isPrintable c then readLiteralLines (c :: read) rest else none
  | [] => none

/-- A text without the line end that it may start with. -/
def dropLineEnd : List Char → List Char
  | '\r' :: '\n' :: rest => rest
  | '\n' :: rest => rest
  | rest => rest

/-- Quoted text, if that is what comes first; the inner `none` stands for text that is not closed or
holds what it must not. -/
def readQuoted? : List Char → Option (Option (String × List Char))
  | '"' :: '"' :: '"' :: rest => some (readLines false [] (dropLineEnd rest))
  | '"' :: rest => some (readBasic [] rest)
  | '\x27' :: '\x27' :: '\x27' :: rest => some (readLiteralLines [] (dropLineEnd rest))
  | '\x27' :: rest => some (readLiteral [] rest)
  | _ => none

end Toml

end NodeCanvas
