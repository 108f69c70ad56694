import NodeCanvas.Json.Form
import NodeCanvas.Time.Timestamp
/-!
# Document stores

A document is a JSON value with a version and the time it was saved, kept under a key. A store
keeps at most one document for each key. `MemoryStore` forgets everything when the program ends;
`NodeCanvas.Document.Archive` is the lasting one.
-/

namespace NodeCanvas

structure StoredDocument where
  version : Nat
  savedAt : Timestamp
  body : Json
  deriving BEq

/-- Why a store could not do what it was asked. -/
inductive StoreError where
  | readOnly
  | unreachable
  | unlistable
  | unsaved (key : String)
  | unloaded (key : String)
  | undeleted (key : String)
  | notJson (key : String)
  | badVersion (key : String) (version : Int)
  deriving DecidableEq

def StoreError.message : StoreError → String
  | .readOnly => "document store is read-only"
  | .unreachable => "sqlite ping failed"
  | .unlistable => "failed to list documents"
  | .unsaved key => "failed to save document '" ++ key ++ "'"
  | .unloaded key => "failed to load document '" ++ key ++ "'"
  | .undeleted key => "failed to delete document '" ++ key ++ "'"
  | .notJson key => "stored document '" ++ key ++ "' is not valid json"
  | .badVersion key version =>
    "stored document '" ++ key ++ "' has bad version " ++ Int.repr version

/-- A place where documents are kept under keys. -/
class DocumentStore (σ : Type) where
  load : σ → String → Except StoreError (Option StoredDocument)
  save : σ → String → StoredDocument → Except StoreError σ
  /-- Delete a document; tells whether there was one. -/
  delete : σ → String → Except StoreError (Bool × σ)

/-- A store that lives as long as the program. It counts the saves of each key and can be made to
refuse them. -/
structure MemoryStore where
  documents : Table StoredDocument := ∅
  saves : Table Nat := ∅
  readOnly : Bool := false

namespace MemoryStore

/-- How often a key was saved. -/
def saveCount (s : MemoryStore) (key : String) : Nat := (s.saves.get? key).getD 0

/-- Put a document in place without counting it. -/
def put (s : MemoryStore) (key : String) (document : StoredDocument) : MemoryStore :=
  { s with documents := s.documents.insert key document }

def save (s : MemoryStore) (key : String) (document : StoredDocument) :
    Except StoreError MemoryStore :=
  if s.readOnly then .error .readOnly
  else .ok { s.put key document with saves := s.saves.insert key (s.saveCount key + 1) }

instance : DocumentStore MemoryStore where
  load s key := .ok (s.documents.get? key)
  save := save
  delete s key := .ok (s.documents.contains key, { s with documents := s.documents.erase key })

end MemoryStore

end NodeCanvas
