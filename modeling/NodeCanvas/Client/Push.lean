import NodeCanvas.Client.Saving
import NodeCanvas.Push.Event
/-!
# Pushes and timers

Pushes are applied one at a time in the order in which they arrive. Applying one a second time
changes nothing. Timers fire when they are polled.
-/

namespace NodeCanvas.Client

variable {R σ : Type} [Scalar R]

/-! ## Pushes -/

/-- The fields of a change set that replace a part of a node; all others are parameters. -/
def partNames : List String := ["inputs", "metadata", "outputs", "parameters", "position", "type"]

/-- What a change set makes of a node. -/
def patchOfChanges (node : Node R) (changes : Table Json) : NodePatch R :=
  let loose := changes.filter fun name _ => !partNames.contains name
  let parameters : Option Parameters := (changes.get? "parameters").map Bag.ofValue
  { type := changes.get? "type" >>= Json.text?
    position := (changes.get? "position").map fun value => Import.position (some value)
    parameters :=
      if loose.isEmpty then parameters
      else some (Bag.mergedWith (parameters.getD node.parameters) loose)
    metadata := (changes.get? "metadata").map Bag.ofValue
    inputs := (changes.get? "inputs").map fun value => Import.ports (some value) "input"
    outputs := (changes.get? "outputs").map fun value => Import.ports (some value) "output" }

/-- Let follow a change of the graph what follows one. -/
def ifChanged (change : Edit R Bool) : Edit R Unit := do
  if ← change then Edit.graphChanged

/-- The canvas was cleared. The announcement of a clearing by a restore is only counted, and none
clears a canvas that is being restored. -/
def applyCleared : Edit R Unit := do
  let saving ← Edit.read (·.saving)
  if saving.owedClears > 0 then
    Edit.onSaving fun s => { s with owedClears := s.owedClears - 1 }
  else unless saving.restoring do
    Edit.onOverlay (·.reset)
    ifChanged (Edit.onGraph (·.clear))

/-- Show an execution event. -/
def applyExecution (event : ExecutionEvent) : Edit R (Except OverlayFault Unit) := do
  let now ← Edit.now
  let canvas ← Edit.read id
  match canvas.overlay.apply event canvas.graph now with
  | .error fault => return .error fault
  | .ok (overlay, changed) =>
    Edit.modify fun c => { c with overlay }
    if changed then Edit.emit (.executionChanged overlay.executing overlay.currentNode)
    return .ok ()

/-- Apply a push other than an execution event. -/
def applyChange : PushEvent R → Edit R Unit
  | .nodeAdded node => ifChanged (Edit.onGraph (·.upsertNode node))
  | .nodeRemoved node => do
    Edit.onOverlay (·.clearNode node)
    ifChanged do return (← Edit.onGraph (·.removeNode node)).isSome
  | .nodeMoved node position => Edit.patchNode node { position := some position }
  | .nodeUpdated node changes => do
    match ← Edit.read (·.graph.node? node) with
    | some found => Edit.patchNode node (patchOfChanges found changes)
    | none => return
  | .nodeParametersUpdated node parameters =>
    Edit.patchNode node { parameters := some parameters }
  | .nodeMetadataUpdated node metadata => Edit.patchNode node { metadata := some metadata }
  | .nodePortsUpdated node inputs outputs =>
    Edit.patchNode node { inputs := some inputs, outputs := some outputs }
  | .connectionAdded connection =>
    ifChanged <| Edit.onGraph fun g =>
      match g.upsertConnection connection with
      | .ok (g, changed) => (g, changed)
      | .error _ => (g, false)
  | .connectionRemoved connection =>
    ifChanged do return (← Edit.onGraph (·.removeConnection connection)).isSome
  | .canvasCleared => applyCleared
  | .viewportChanged update => do
    if ← Edit.onViewport (·.applyUpdate update) then
      Edit.markDirty
      Edit.emit (.viewChanged (← Edit.read (·.viewport.view)))
  | .paradigmChanged paradigm => do
    if (← Edit.read (·.paradigm)) != some paradigm then
      Edit.modify fun c => { c with paradigm := some paradigm }
      Edit.emit (.paradigmChanged paradigm)
  | .execution _ => return
  | .debugSessionStarted session state => do
    Edit.sessionsChanged (← Edit.onDebug (·.setState session state))
  | .debugStepExecuted session result => do
    let now ← Edit.now
    Edit.sessionsChanged (← Edit.apply (·.applyDebugStep session result now))
  | .debugSessionStopped session => do
    Edit.sessionsChanged (← Edit.apply (·.removeDebugSession session))
  | .allSessionsCompleted results => do
    Edit.sessionsChanged (← Edit.onDebug (·.applyRunAll results))

/-- Apply a push. Only execution events can fail. -/
def applySection : PushEvent R → Edit R (Except OverlayFault Unit)
  | .execution event => applyExecution event
  | push => do
    applyChange push
    return .ok ()

/-- Apply a push; one that fails breaks the program down. -/
def applyPush (push : PushEvent R) : Program R σ Unit := do
  match ← .atomically (applySection push) with
  | .ok () => return
  | .error fault => .abort fault

/-- The pushes have ended: announcements that are still owed will not come. -/
def pushesClosed (reason : String) : Program R σ Unit := do
  .atomically (Edit.onSaving fun s => { s with owedClears := 0 })
  .tell (.pushesClosed reason)

/-! ## Timers -/

/-- Let highlights and markers end, and take the scheduled save if it is due. -/
def takeDue (now : Instant) : Edit R Bool := do
  Edit.onOverlay fun o => (o.expire now).1
  if ← Edit.read (·.saving.restoring) then return false
  Edit.apply fun c =>
    let (autosave, due) := c.saving.autosave.takeDue now
    ({ c with saving := { c.saving with autosave } }, due)

/-- Fire the timers that are due at an instant. -/
def pollTimers [DocumentStore σ] (now : Instant) : Program R σ Unit := do
  if ← .atomically (takeDue (R := R) now) then
    let _ ← (saveNow (R := R)).run

end NodeCanvas.Client
