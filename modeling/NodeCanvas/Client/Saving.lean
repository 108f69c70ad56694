import NodeCanvas.Client.Program
import NodeCanvas.Json.Printer
/-!
# Saving and exporting

A save takes the snapshot in one section, writes it, and reports in another; the canvas may change
in between.
-/

namespace NodeCanvas.Client

variable {R σ : Type} [Scalar R] [DocumentStore σ]

/-- Take the snapshot to be saved: from now on nothing is scheduled. -/
def beginSave : Edit R (Snapshot R × ProjectMeta) := do
  Edit.onSaving fun s => { s with autosave := s.autosave.cancel }
  Edit.setSaveStatus .saving
  let canvas ← Edit.read id
  return (canvas.snapshot, ⟨canvas.saving.projectName, (← Edit.moment).clock⟩)

/-- Report how a save went. -/
def endSave (result : Except DocumentError Unit) : Edit R Unit :=
  match result with
  | .ok () => Edit.setSaveStatus .saved
  | .error _ => Edit.setSaveStatus .failed

/-- Save the canvas now, instead of any save that is scheduled. -/
def saveNow : Attempt R σ Unit := do
  let (snapshot, project) ← .atomically beginSave
  let result ← .access fun store => Document.storeSnapshot store snapshot project
  .atomically (endSave result)
  .document result

/-- The project as a file. -/
def exportProject : Program R σ (ProjectFile R) :=
  .atomically do
    let canvas ← Edit.read id
    let project : ProjectMeta := ⟨canvas.saving.projectName, (← Edit.moment).clock⟩
    return ⟨project, canvas.snapshot, canvas.saving.tabs⟩

/-- The text of a project file. -/
def exportText : Program R σ String := return (toJson (← exportProject (R := R))).pretty

/-! ## The user's settings -/

/-- The settings of a user who never saved any. -/
def defaultUiSettings (settings : Settings) : UiSettings :=
  { highlightDurationMs := settings.highlightDurationMs, executionSpeed := settings.executionSpeed }

/-- Read the user's settings and take them over. -/
def loadUiSettings (settings : Settings) : Attempt R σ UiSettings := do
  let document ← .document (← .consult fun store =>
    Document.loadVersioned store uiSettingsKey uiSettingsVersion)
  let loaded : Option UiSettings ← .document (Document.decode? document)
  let ui := loaded.getD (defaultUiSettings settings)
  .atomically (Edit.modify (·.applyUiSettings ui))
  return ui

/-- Save the user's settings and take them over. -/
def saveUiSettings (ui : UiSettings) : Attempt R σ Unit := do
  let moment ← .atomically Edit.moment
  let document : StoredDocument := ⟨uiSettingsVersion, moment.clock, JsonForm.toValue ui⟩
  .document (← .access fun store => Document.save store uiSettingsKey document)
  .atomically (Edit.modify (·.applyUiSettings ui))

end NodeCanvas.Client
