import NodeCanvas.Text.Basic
/-!
# Tables of code points

What is known of characters is kept as ranges of code points in ascending order. A table is written
as text: its entries stand between blanks, and each says how many code points lie between the range
before it and its own, and after a hyphen how many the range has beyond its first, followed by what
the table says of them. Numbers are in hexadecimal, and a number that is left out is zero.
-/

namespace NodeCanvas

/-- A range of code points, and what a table says of them. -/
structure CodeRange (α : Type) where
  first : Nat
  last : Nat
  note : α

/-- Ranges in ascending order that do not overlap. -/
structure CodeTable (α : Type) where
  ranges : Array (CodeRange α)

namespace CodeRange

variable {α : Type}

/-- Read an entry of a table whose earlier ranges end before a code point. -/
def ofText (note : List Char → α) (start : Nat) (entry : List Char) : CodeRange α :=
  let isDigit (c : Char) : Bool := (hexDigit? c).isSome
  let first := start + hexNumber (entry.takeWhile isDigit)
  match entry.dropWhile isDigit with
  | '-' :: rest =>
    ⟨first, first + hexNumber (rest.takeWhile isDigit), note (rest.dropWhile isDigit)⟩
  | rest => ⟨first, first, note rest⟩

/-- Read the entries of a table from a code point on. -/
def ofEntries (note : List Char → α) (start : Nat) : List (List Char) → List (CodeRange α)
  | [] => []
  | entry :: entries =>
    let range := ofText note start entry
    range :: ofEntries note (range.last + 1) entries

end CodeRange

namespace CodeTable

variable {α : Type}

/-- Read a table from texts that follow each other. -/
def ofTexts (note : List Char → α) (texts : List String) : CodeTable α :=
  let entries := texts.flatMap fun text => (Text.splitOn isBlank text.toList).filter (!·.isEmpty)
  ⟨(CodeRange.ofEntries note 0 entries).toArray⟩

/-- Search the ranges from index `low` up to `high` by halving. -/
def search (ranges : Array (CodeRange α)) (code low high : Nat) : Option (CodeRange α) :=
  if low < high then
    let middle := (low + high) / 2
    match ranges[middle]? with
    | none => none
    | some range =>
      if code < range.first then search ranges code low middle
      else if range.last < code then search ranges code (middle + 1) high
      else some range
  else none
termination_by high - low

/-- The range that holds a character. -/
def range? (t : CodeTable α) (c : Char) : Option (CodeRange α) :=
  search t.ranges c.toNat 0 t.ranges.size

/-- What the table says of a character. -/
def note? (t : CodeTable α) (c : Char) : Option α := (t.range? c).map (·.note)

def contains (t : CodeTable α) (c : Char) : Bool := (t.range? c).isSome

end CodeTable

end NodeCanvas
