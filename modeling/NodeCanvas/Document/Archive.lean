import NodeCanvas.Document.Store
import NodeCanvas.Json.Printer
/-!
# The archive

The lasting store is a table of rows with a text body each. A body need not be JSON and a version
need not fit a document; reading a row as a document fails then. Once the archive is closed, nothing
in it can be reached.
-/

namespace NodeCanvas

/-- A row of the archive, apart from its key. -/
structure Row where
  version : Int
  savedAt : Timestamp
  body : String
  deriving BEq

/-- A line of the list of documents. -/
structure RowSummary where
  key : String
  version : Int
  savedAt : Timestamp
  size : Nat

structure Archive where
  rows : Table Row := ∅
  /-- Whether rows can be written. -/
  writable : Bool := true
  closed : Bool := false

/-- The size of a body as it is listed: its characters up to the first null character. -/
def Row.size (row : Row) : Nat := (row.body.toList.takeWhile (· != '\x00')).length

/-- The document that a row stands for. -/
def Row.document (key : String) (row : Row) : Except StoreError StoredDocument :=
  match Json.parse? row.body with
  | none => .error (.notJson key)
  | some body =>
    if 0 ≤ row.version ∧ row.version < 4294967296 then .ok ⟨row.version.toNat, row.savedAt, body⟩
    else .error (.badVersion key row.version)

namespace Archive

def close (a : Archive) : Archive := { a with closed := true }

def check (a : Archive) : Except StoreError Unit :=
  if a.closed then .error .unreachable else .ok ()

def saveRow (a : Archive) (key : String) (row : Row) : Except StoreError Archive :=
  if a.closed || !a.writable then .error (.unsaved key)
  else .ok { a with rows := a.rows.insert key row }

def loadRow (a : Archive) (key : String) : Except StoreError (Option Row) :=
  if a.closed then .error (.unloaded key) else .ok (a.rows.get? key)

def deleteRow (a : Archive) (key : String) : Except StoreError (Bool × Archive) :=
  if a.closed || !a.writable then .error (.undeleted key)
  else .ok (a.rows.contains key, { a with rows := a.rows.erase key })

/-- All rows by ascending key. -/
def list (a : Archive) : Except StoreError (List RowSummary) :=
  if a.closed then .error .unlistable
  else .ok (a.rows.entries.map fun (key, row) => ⟨key, row.version, row.savedAt, row.size⟩)

instance : DocumentStore Archive where
  load a key := do
    match ← a.loadRow key with
    | some row => return some (← row.document key)
    | none => return none
  save a key document :=
    a.saveRow key ⟨document.version, document.savedAt, document.body.compact⟩
  delete := deleteRow

end Archive

end NodeCanvas
