import NodeCanvas.Text.Basic
/-!
# Paths and places

A path is a text with slashes. A `Place` is where it leads when every part of it is a directory:
somewhere below the working directory, below one of the directories above it, or below the root.
-/

namespace NodeCanvas

/-- The segments of a path, also the empty ones. -/
def pathSegments (path : String) : List String :=
  (Text.splitOn (· == '/') path.toList).map String.ofList

/-- Segments without those at their end that lead nowhere. The first one always stays. -/
def trimSegments (segments : List String) : List String :=
  segments.take 1 ++ ((segments.drop 1).reverse.dropWhile fun s => s == "" || s == ".").reverse

/-- The path of the directory that holds what a path names. The root and the empty path have
none. -/
def parentPath? (path : String) : Option String :=
  match trimSegments (pathSegments path) with
  | [""] => none
  | segments =>
    match trimSegments segments.dropLast with
    | [""] => some "/"
    | parents => some ("/".intercalate parents)

inductive PathBase where
  | here
  | above (levels : Nat)
  | root
  deriving DecidableEq, Repr

/-- A place in the file system, as names from the outermost directory inwards. -/
structure Place where
  base : PathBase := .here
  names : List String := []
  deriving DecidableEq, Repr

namespace Place

def down (p : Place) (name : String) : Place := { p with names := p.names ++ [name] }

def up (p : Place) : Place :=
  if p.names.isEmpty then
    match p.base with
    | .here => { base := .above 1 }
    | .above levels => { base := .above (levels + 1) }
    | .root => p
  else { p with names := p.names.dropLast }

/-- Where a segment of a path leads. -/
def follow (p : Place) (segment : String) : Place :=
  if segment == "" || segment == "." then p
  else if segment == ".." then p.up
  else p.down segment

/-- Where a path starts. -/
def start (path : String) : Place := if Text.startsWith path "/" then { base := .root } else {}

/-- Where a path leads. -/
def ofPath (path : String) : Place := (pathSegments path).foldl follow (start path)

/-- A path to the place. -/
def path (p : Place) : String :=
  let names := "/".intercalate p.names
  match p.base with
  | .here => names
  | .above levels => String.join (List.replicate levels "../") ++ names
  | .root => "/" ++ names

end Place

end NodeCanvas
