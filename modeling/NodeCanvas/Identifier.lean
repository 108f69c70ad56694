/-!
# Fresh identifiers

Entities that arrive without an id, or that exist only here, get one from a source of identifiers.
A source names its identifiers by the order in which they are drawn; what they look like is up to
the source, and nothing else in the library depends on it.
-/

namespace NodeCanvas

/-- An endless supply of identifiers, and how many have been drawn. -/
structure IdSource where
  name : Nat → String
  drawn : Nat := 0

namespace IdSource

def draw (s : IdSource) : String × IdSource := (s.name s.drawn, { s with drawn := s.drawn + 1 })

/-- Lower-case hexadecimal digits of a number, at least `width` of them. -/
def hex (width n : Nat) : String :=
  let digits := Nat.toDigits 16 n
  "".pushn '0' (width - digits.length) ++ String.ofList digits

/-- Identifiers in the usual form of 32 digits that count up from one. -/
def counting : IdSource where
  name n := "00000000-0000-4000-8000-" ++ hex 12 (n + 1)

/-- Identifiers of the same form that differ from run to run by a seed. -/
def seeded (seed : Nat) : IdSource where
  name n :=
    hex 8 (seed % Nat.pow 2 32) ++ "-" ++ hex 4 (seed / Nat.pow 2 32 % Nat.pow 2 16) ++
      "-4000-8000-" ++ hex 12 ((seed / Nat.pow 2 48 + n) % Nat.pow 2 48)

end IdSource

/-- A computation that may draw identifiers. -/
abbrev Drawing := StateM IdSource

/-- The next identifier. -/
def freshId : Drawing String := fun s => s.draw

/-- The start of every id that is made up here. -/
def localMark : String := "local-"

/-- An id for a node that the backend does not have. -/
def freshLocalNode : Drawing String := return localMark ++ (← freshId)

/-- An id for a connection that the backend does not have. -/
def freshLocalConnection : Drawing String := return localMark ++ "conn-" ++ (← freshId)

end NodeCanvas
