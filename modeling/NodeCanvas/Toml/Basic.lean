import NodeCanvas.Table
/-!
# TOML documents

A document is a table. Tables come about in several ways, and which of them can be extended later
depends on how: a table that a header or a dotted key only passes through is open to others of the
same way, while what a header or braces define is complete.
-/

namespace NodeCanvas

/-- How a table came about. -/
inductive TableOrigin where
  /-- It has a header of its own. -/
  | header
  /-- A header names something below it. -/
  | passedByHeader
  /-- A dotted key names something below it. -/
  | passedByKey
  deriving DecidableEq, Repr

inductive Toml where
  | string (value : String)
  | integer (value : Int)
  | float (value : Float)
  | boolean (value : Bool)
  /-- A date, a time or both, as written. -/
  | moment (value : String)
  | list (items : List Toml)
  /-- A table in braces. -/
  | braces (entries : List (String × Toml))
  | table (origin : TableOrigin) (entries : List (String × Toml))
  /-- A list of tables that headers in double brackets define. The last one stands first. -/
  | tables (latestFirst : List (List (String × Toml)))

namespace Toml

/-- The entries of a table; no key is repeated. -/
abbrev Entries := List (String × Toml)

namespace Entries

/-- Replace the value of a key, or add it. -/
def put (entries : Entries) (key : String) (value : Toml) : Entries :=
  match entries with
  | [] => [(key, value)]
  | (k, v) :: rest => if k = key then (key, value) :: rest else (k, v) :: put rest key value

/-- The entries without that of a key. -/
def erase (entries : Entries) (key : String) : Entries := entries.filter (·.1 ≠ key)

/-- Change the table at a path of headers or dotted keys, which comes about on the way if it has to.
A dotted key cannot enter a table that has a header; `change` gets the origin of the table that it
changes. -/
def changeAt (dotted : Bool) (origin : TableOrigin)
    (change : TableOrigin → Entries → Option Entries) : List String → Entries → Option Entries
  | [], entries => change origin entries
  | key :: path, entries =>
    let fresh : TableOrigin := if dotted then .passedByKey else .passedByHeader
    match entries.lookup key with
    | none => do return entries.put key (.table fresh (← changeAt dotted fresh change path []))
    | some (.table origin inner) =>
      if dotted ∧ origin = .header then none
      else do return entries.put key (.table origin (← changeAt dotted origin change path inner))
    | some (.tables (last :: others)) => do
      return entries.put key (.tables ((← changeAt dotted .header change path last) :: others))
    | some _ => none

/-- Add an entry that must be new. -/
def addNew (entries : Entries) (key : String) (value : Toml) : Option Entries :=
  if (entries.lookup key).isSome then none else some (entries ++ [(key, value)])

/-- Add the value of a dotted key. Below the first part only tables of dotted keys take entries. -/
def assign (entries : Entries) (path : List String) (key : String) (value : Toml) :
    Option Entries :=
  changeAt true .header (fun origin inner =>
    if path.isEmpty ∨ origin = .passedByKey then inner.addNew key value else none) path entries

end Entries

/-- A document while it is read: the tables finished so far, and the one that the last header has
begun. -/
structure Draft where
  root : Entries := []
  path : List String := []
  inList : Bool := false
  current : Entries := []

namespace Draft

/-- Put the current table in its place. -/
def finish (d : Draft) : Option Entries :=
  match d.path.getLast? with
  | none => some d.current
  | some key =>
    Entries.changeAt false .header (fun _ parent =>
      if d.inList then
        match parent.lookup key with
        | some (.tables others) => some (parent.put key (.tables (d.current :: others)))
        | none => some (parent.put key (.tables [d.current]))
        | some _ => none
      else some (parent.put key (.table .header d.current))) d.path.dropLast d.root

/-- What a table with a new header already holds: entries below it may have come first. They move
to the new table, which is going to be the last one in its parent. -/
def started (root : Entries) (parents : List String) (key : String) :
    Option (Entries × Entries) := do
  let rest ← Entries.changeAt false .header (fun _ parent =>
    match parent.lookup key with
    | none | some (.table .passedByHeader _) => some (parent.erase key)
    | some _ => none) parents root
  return (rest, (holding root (parents ++ [key])).getD [])
where
  /-- The entries of the table at a path. -/
  holding (entries : Entries) : List String → Option Entries
    | [] => some entries
    | key :: path =>
      match entries.lookup key with
      | some (.table _ inner) => holding inner path
      | some (.tables (last :: _)) => holding last path
      | _ => none

/-- Begin the table of a header. -/
def beginTable (d : Draft) (path : List String) : Option Draft := do
  let root ← d.finish
  let (root, current) ← started root path.dropLast (path.getLast?.getD "")
  return { root, path, inList := false, current }

/-- Begin another table of the list of a header in double brackets. -/
def beginListed (d : Draft) (path : List String) : Option Draft := do
  let root ← d.finish
  let key := path.getLast?.getD ""
  let root ← Entries.changeAt false .header (fun _ parent =>
    match parent.lookup key with
    | none | some (.tables _) => some parent
    | some _ => none) path.dropLast root
  return { root, path, inList := true, current := [] }

/-- Add an entry to the current table. -/
def assign (d : Draft) (path : List String) (key : String) (value : Toml) : Option Draft := do
  return { d with current := ← d.current.assign path key value }

end Draft

end Toml

end NodeCanvas
