import NodeCanvas.Toml.Moment
import NodeCanvas.Toml.Quoted
/-!
# Reading TOML

`Toml.parse?` reads a document of headers and assignments, one a line, into its table. Lists may
span lines and hold comments; tables in braces stand on one line. Values nest fewer than eighty deep
and a dotted key has fewer than eighty parts.
-/

namespace NodeCanvas

namespace Toml

/-- How deep values may be nested and how many parts a key may have, less one. -/
def deepest : Nat := 79

/-! ## Blanks and comments -/

def isWs (c : Char) : Bool := c == ' ' || c == '\t'

def skipWs (text : List Char) : List Char := text.dropWhile isWs

/-- The rest of a text after the end of a line, before which only blanks and a comment may stand. -/
def endLine (inComment : Bool) : List Char → Option (List Char)
  | [] => some []
  | '\n' :: rest => some rest
  | '\r' :: '\n' :: rest => some rest
  | c :: rest =>
    if inComment then if isPrintable c then endLine true rest else none
    else if isWs c then endLine false rest
    else if c = '#' then endLine true rest
    else none

/-- A text without the blanks, comments and line ends that it starts with. -/
def skipLines (inComment : Bool) : List Char → Option (List Char)
  | [] => some []
  | '\n' :: rest => skipLines false rest
  | '\r' :: '\n' :: rest => skipLines false rest
  | c :: rest =>
    if inComment then if isPrintable c then skipLines true rest else none
    else if isWs c then skipLines false rest
    else if c = '#' then skipLines true rest
    else some (c :: rest)

/-! ## Keys -/

def isKeyChar (c : Char) : Bool := c.isAlphanum || c == '-' || c == '_'

/-- One part of a key: quoted on one line, or a run of letters, digits, hyphens and underscores. -/
def readKeyPart : List Char → Option (String × List Char)
  | '"' :: rest => readBasic [] rest
  | '\x27' :: rest => readLiteral [] rest
  | text =>
    let (key, rest) := text.span isKeyChar
    if key.isEmpty then none else some (String.ofList key, rest)

/-- The parts of a key with dots between them, at most `count`, and blanks around each. -/
def readKey : Nat → List Char → Option (List String × List Char)
  | 0, _ => none
  | count + 1, text => do
    let (part, rest) ← readKeyPart (skipWs text)
    match skipWs rest with
    | '.' :: rest => do
      let (parts, rest) ← readKey count rest
      return (part :: parts, rest)
    | rest => return ([part], rest)

/-! ## Values -/

mutual

/-- A value at a depth, and the text after it. Two steps take at least a character, so that fuel
above twice the length of the text is never used up. -/
def readValue : Nat → Nat → List Char → Option (Toml × List Char)
  | 0, _, _ => none
  | fuel + 1, depth, text =>
    match readQuoted? text with
    | some quoted => do
      let (value, rest) ← quoted
      return (.string value, rest)
    | none =>
      match text with
      | '[' :: rest =>
        if depth < deepest then do
          let (items, rest) ← readItems fuel (depth + 1) rest
          return (.list items, rest)
        else none
      | '\x7b' :: rest =>
        if depth < deepest then do
          let (entries, rest) ←
            match skipWs rest with
            | '\x7d' :: rest => some ([], rest)
            | rest => readEntries fuel (depth + 1) [] rest
          return (.braces entries, rest)
        else none
      | _ => readBare text

/-- The items of a list up to its closing bracket; a comma may stand after the last. -/
def readItems : Nat → Nat → List Char → Option (List Toml × List Char)
  | 0, _, _ => none
  | fuel + 1, depth, text => do
    match ← skipLines false text with
    | ']' :: rest => return ([], rest)
    | text =>
      let (item, rest) ← readValue fuel depth text
      match ← skipLines false rest with
      | ',' :: rest =>
        let (items, rest) ← readItems fuel depth rest
        return (item :: items, rest)
      | ']' :: rest => return ([item], rest)
      | _ => none

/-- The entries of a table in braces up to the closing brace, added to those before. -/
def readEntries : Nat → Nat → Entries → List Char → Option (Entries × List Char)
  | 0, _, _, _ => none
  | fuel + 1, depth, entries, text => do
    let (path, rest) ← readKey deepest text
    match rest with
    | '=' :: rest =>
      let (value, rest) ← readValue fuel depth (skipWs rest)
      let entries ← entries.assign path.dropLast (path.getLast?.getD "") value
      match skipWs rest with
      | ',' :: rest => readEntries fuel depth entries rest
      | '\x7d' :: rest => return (entries, rest)
      | _ => none
    | _ => none

end

/-! ## Documents -/

/-- A header between its brackets, to the end of its line. -/
def readHeader (close : List Char) (text : List Char) : Option (List String × List Char) := do
  let (path, rest) ← readKey deepest text
  guard (close.isPrefixOf rest)
  return (path, ← endLine false (rest.drop close.length))

/-- Read lines into a draft. Every line takes a character, so that fuel above the length of the text
is never used up. -/
def readDocument : Nat → Draft → List Char → Option Draft
  | 0, _, _ => none
  | fuel + 1, draft, text =>
    match skipWs text with
    | [] => some draft
    | '\n' :: rest => readDocument fuel draft rest
    | '\r' :: '\n' :: rest => readDocument fuel draft rest
    | '#' :: rest => do readDocument fuel draft (← endLine true rest)
    | '[' :: '[' :: rest => do
      let (path, rest) ← readHeader [']', ']'] rest
      readDocument fuel (← draft.beginListed path) rest
    | '[' :: rest => do
      let (path, rest) ← readHeader [']'] rest
      readDocument fuel (← draft.beginTable path) rest
    | text => do
      let (path, rest) ← readKey deepest text
      match rest with
      | '=' :: rest =>
        let rest := skipWs rest
        let (value, rest) ← readValue (2 * rest.length + 2) 0 rest
        let rest ← endLine false rest
        readDocument fuel (← draft.assign path.dropLast (path.getLast?.getD "") value) rest
      | _ => none

/-- The table of a document, which may start with a byte order mark. -/
def parse? (text : String) : Option Entries := do
  let chars := match text.toList with
    | '\uFEFF' :: rest => rest
    | chars => chars
  let entries ← (← readDocument (chars.length + 1) {} chars).finish
  guard (allSoundEntries entries)
  return entries

end Toml

end NodeCanvas
