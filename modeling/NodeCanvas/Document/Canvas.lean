import NodeCanvas.Document.Store
import NodeCanvas.Import
/-!
# The documents of a canvas

A client keeps three documents: the canvas, the project it belongs to, and the user's settings. A
document of another version than the current one counts as absent. A canvas that does not decode
exactly is read as a foreign document instead.
-/

namespace NodeCanvas

def canvasKey : String := "canvas_state"
def projectKey : String := "project_meta"
def uiSettingsKey : String := "ui_settings"

def canvasVersion : Nat := 1
def projectVersion : Nat := 1
def uiSettingsVersion : Nat := 1

/-- Why a document could not be read or written. -/
inductive DocumentError where
  | store (cause : StoreError)
  | undecodable
  | unrecognized (cause : DocumentShapeError)

def DocumentError.message : DocumentError → String
  | .store cause => "document store failure: " ++ cause.message
  | .undecodable => "invalid document json"
  | .unrecognized cause => "unrecognized document shape: " ++ cause.message

namespace Document

variable {R : Type} [Scalar R] {σ : Type} [DocumentStore σ]

/-- The document under a key, if it has the expected version. -/
def loadVersioned (store : σ) (key : String) (expected : Nat) :
    Except DocumentError (Option StoredDocument) :=
  match DocumentStore.load store key with
  | .error cause => .error (.store cause)
  | .ok document => .ok (document.filter (·.version == expected))

/-- The canvas in a document. -/
def decodeSnapshot (body : Json) : Drawing (Except DocumentError (Snapshot R)) :=
  match ofJson? body with
  | some snapshot => return .ok snapshot
  | none =>
    match body with
    | .object fields => return .ok (← Import.snapshot fields)
    | _ => return .error .undecodable

/-- The canvas in a document that may be absent. -/
def decodeSnapshot? : Option StoredDocument → Drawing (Except DocumentError (Option (Snapshot R)))
  | some document => return (← decodeSnapshot document.body).map some
  | none => return .ok none

/-- The value in a document that may be absent, decoded exactly. -/
def decode? {α : Type} [JsonForm α] : Option StoredDocument → Except DocumentError (Option α)
  | none => .ok none
  | some document =>
    match ofJson? document.body with
    | some value => .ok (some value)
    | none => .error .undecodable

/-- The saved canvas. -/
def loadSnapshot (store : σ) : Drawing (Except DocumentError (Option (Snapshot R))) :=
  match loadVersioned store canvasKey canvasVersion with
  | .error e => return .error e
  | .ok document => decodeSnapshot? document

/-- The saved project. -/
def loadProject (store : σ) : Except DocumentError (Option ProjectMeta) := do
  decode? (← loadVersioned store projectKey projectVersion)

/-- Save a document; the store stays as it was if that fails. -/
def save (store : σ) (key : String) (document : StoredDocument) : Except DocumentError Unit × σ :=
  match DocumentStore.save store key document with
  | .ok store => (.ok (), store)
  | .error cause => (.error (.store cause), store)

/-- The document of a canvas. -/
def ofSnapshot (snapshot : Snapshot R) (savedAt : Timestamp) : StoredDocument :=
  ⟨canvasVersion, savedAt, JsonForm.toValue snapshot⟩

/-- The document of a project. -/
def ofProject (project : ProjectMeta) : StoredDocument :=
  ⟨projectVersion, project.savedAt, JsonForm.toValue project⟩

/-- Save a canvas and then its project. -/
def storeSnapshot (store : σ) (snapshot : Snapshot R) (project : ProjectMeta) :
    Except DocumentError Unit × σ :=
  match save store canvasKey (ofSnapshot snapshot project.savedAt) with
  | (.ok (), store) => save store projectKey (ofProject project)
  | (.error e, store) => (.error e, store)

/-- Delete the documents under some keys; lists those that were there. -/
def deleteAll (store : σ) : List String → Except DocumentError (List String) × σ
  | [] => (.ok [], store)
  | key :: keys =>
    match DocumentStore.delete store key with
    | .error cause => (.error (.store cause), store)
    | .ok (found, store) =>
      let (rest, store) := deleteAll store keys
      (rest.map fun removed => if found then key :: removed else removed, store)

/-- Delete every document of a canvas. -/
def reset (store : σ) : Except DocumentError (List String) × σ :=
  deleteAll store [canvasKey, projectKey, uiSettingsKey]

end Document

end NodeCanvas
