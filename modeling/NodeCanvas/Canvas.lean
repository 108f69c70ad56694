import NodeCanvas.Autosave
import NodeCanvas.Debug.Sessions
import NodeCanvas.Execution.Overlay
import NodeCanvas.Settings
/-!
# The canvas

Everything that a client keeps of a canvas, and what it tells its subscribers about it. Changes are
made in sections, each of which sees the canvas at one moment and leaves it in a consistent state;
`Edit` is the type of such a section.
-/

namespace NodeCanvas

/-- How serious a notification is. -/
inductive NotificationLevel where
  | info
  | warning
  | error
  deriving DecidableEq

/-- What subscribers are told. -/
inductive Event (R : Type) where
  | graphChanged (revision : Nat)
  | viewChanged (view : View R)
  | saveStatusChanged (status : SaveStatus)
  | notification (level : NotificationLevel) (message : String)
  | paradigmChanged (paradigm : String)
  | executionChanged (executing : Bool) (currentNode : Option NodeId)
  | debugSessionsChanged
  | pushesClosed (reason : String)

/-- What a client knows about saving, and what it saves beside the graph. -/
structure Saving where
  autosave : Autosave
  status : SaveStatus := .idle
  /-- Whether a restore is under way, during which nothing is scheduled to be saved. -/
  restoring : Bool := false
  /-- How many pushes that the canvas was cleared are still to come because of restores. -/
  owedClears : Nat := 0
  projectName : String
  tabs : List Json := []
  ui : UiSettings := {}

structure Canvas (R : Type) where
  graph : Graph R := {}
  viewport : Viewport R
  saving : Saving
  overlay : Overlay R
  debug : DebugSessions := {}
  paradigm : Option String := none

/-- The instant in a run and the time of day. -/
structure Moment where
  now : Instant
  clock : Timestamp

variable {R : Type} [Scalar R]

namespace Canvas

/-- The canvas before anything happened. -/
def initial (settings : Settings) : Canvas R where
  viewport := .initial
  saving :=
    { autosave := { debounce := settings.autosaveDebounce }, projectName := settings.projectName }
  overlay :=
    (Overlay.initial settings.highlightDuration settings.dataFlowDuration
      settings.eventLogCapacity).setSpeed settings.executionSpeed

def snapshot (c : Canvas R) : Snapshot R := c.graph.snapshot c.viewport.view

/-- Take over the user's settings. -/
def applyUiSettings (c : Canvas R) (ui : UiSettings) : Canvas R :=
  { c with
    overlay :=
      { c.overlay.setSpeed ui.executionSpeed with
        highlightDuration := .ofMillis ui.highlightDurationMs }
    saving := { c.saving with ui } }

/-- Log a step of a debug session and highlight the node it ran. -/
def applyDebugStep (c : Canvas R) (session : SessionId) (result : StepResult) (now : Instant) :
    Canvas R × Bool :=
  match c.debug.recordStep session result with
  | (_, false) => (c, false)
  | (debug, true) =>
    let overlay := match result.node with
      | some node => c.overlay.highlightStep node result.status now
      | none => c.overlay
    ({ c with debug, overlay }, true)

/-- Forget a debug session and the highlight of the node it is at. -/
def removeDebugSession (c : Canvas R) (session : SessionId) : Canvas R × Bool :=
  match c.debug.remove session with
  | (_, none) => (c, false)
  | (debug, some removed) =>
    let overlay := match removed.currentNode with
      | some node => c.overlay.clearNode node
      | none => c.overlay
    ({ c with debug, overlay }, true)

end Canvas

/-! ## Sections -/

/-- What a section leaves behind: a value, the canvas, and what subscribers are told. -/
structure Outcome (R α : Type) where
  value : α
  canvas : Canvas R
  events : List (Event R) := []

/-- A section: a change of the canvas at one moment. -/
def Edit (R α : Type) : Type := Moment → Canvas R → Outcome R α

namespace Edit

instance : Monad (Edit R) where
  pure a _ canvas := ⟨a, canvas, []⟩
  bind edit next moment canvas :=
    let first := edit moment canvas
    let second := next first.value moment first.canvas
    ⟨second.value, second.canvas, first.events ++ second.events⟩

/-- Look at the canvas. -/
def read {α : Type} (f : Canvas R → α) : Edit R α := fun _ canvas => ⟨f canvas, canvas, []⟩

/-- Change the canvas. -/
def modify (f : Canvas R → Canvas R) : Edit R Unit := fun _ canvas => ⟨(), f canvas, []⟩

/-- Change the canvas by a function that also answers something. -/
def apply {α : Type} (f : Canvas R → Canvas R × α) : Edit R α :=
  fun _ canvas => ⟨(f canvas).2, (f canvas).1, []⟩

/-- Tell subscribers. -/
def emit (event : Event R) : Edit R Unit := fun _ canvas => ⟨(), canvas, [event]⟩

def moment : Edit R Moment := fun moment canvas => ⟨moment, canvas, []⟩

def now : Edit R Instant := return (← moment).now

/-! ### Changes of the parts -/

def onGraph {α : Type} (f : Graph R → Graph R × α) : Edit R α :=
  apply fun c => let (graph, a) := f c.graph; ({ c with graph }, a)

def onViewport {α : Type} (f : Viewport R → Viewport R × α) : Edit R α :=
  apply fun c => let (viewport, a) := f c.viewport; ({ c with viewport }, a)

def onDebug {α : Type} (f : DebugSessions → DebugSessions × α) : Edit R α :=
  apply fun c => let (debug, a) := f c.debug; ({ c with debug }, a)

def onOverlay (f : Overlay R → Overlay R) : Edit R Unit :=
  modify fun c => { c with overlay := f c.overlay }

def onSaving (f : Saving → Saving) : Edit R Unit :=
  modify fun c => { c with saving := f c.saving }

/-! ### What follows a change -/

/-- Set the save status; only a change of it is told. -/
def setSaveStatus (status : SaveStatus) : Edit R Unit := do
  if (← read (·.saving.status)) = status then return
  onSaving fun s => { s with status }
  emit (.saveStatusChanged status)

/-- Schedule a save of what changed, unless a restore is under way. -/
def markDirty : Edit R Unit := do
  if ← read (·.saving.restoring) then return
  let now ← now
  onSaving fun s => { s with autosave := s.autosave.schedule now }
  setSaveStatus .saving

/-- The graph changed: schedule a save and tell. -/
def graphChanged : Edit R Unit := do
  markDirty
  emit (.graphChanged (← read (·.graph.revision)))

/-- Tell that debug sessions changed, if they did. -/
def sessionsChanged (changed : Bool) : Edit R Unit := do
  if changed then emit .debugSessionsChanged

/-- Patch a node, and if that is a change, let follow what follows one. -/
def patchNode (node : NodeId) (patch : NodePatch R) : Edit R Unit := do
  if ← onGraph (·.patchNode node patch) then graphChanged

end Edit

end NodeCanvas
