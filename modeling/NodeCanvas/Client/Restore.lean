import NodeCanvas.Client.Saving
/-!
# Restoring a canvas

A snapshot is restored by clearing both sides and creating its nodes and connections anew on the
backend, which gives them new ids. What the backend refuses is kept here alone, under an id of its
own; a connection is dropped if one of its ends is not in the snapshot or both are the same.

The backend announces the clearing and every new entity while the restore goes on or after it. The
clearing is counted as owed, so that its announcement does not clear what was restored.
-/

namespace NodeCanvas

/-- What became of the parts of a snapshot. -/
structure RestoreReport where
  nodesReplayed : Nat := 0
  nodesLocal : Nat := 0
  connectionsReplayed : Nat := 0
  connectionsLocal : Nat := 0
  connectionsSkipped : Nat := 0
  remoteCleared : Bool := false
  saved : Bool := false
  deriving DecidableEq

namespace RestoreReport

/-- Whether anything is not on the backend as it was saved. -/
def isDegraded (r : RestoreReport) : Bool :=
  r.nodesLocal > 0 || r.connectionsLocal > 0 || r.connectionsSkipped > 0

def warning (r : RestoreReport) : String :=
  "Restored with " ++ Nat.repr r.nodesLocal ++ " local-only node(s), " ++
    Nat.repr r.connectionsLocal ++ " local-only connection(s), " ++
    Nat.repr r.connectionsSkipped ++ " skipped"

end RestoreReport

namespace Client

variable {R σ : Type} [Scalar R]

/-- How far a restore has come: the counts, and the new id of each saved node. -/
structure Replay where
  report : RestoreReport := {}
  names : Table NodeId := ∅

/-- Enter the restore: nothing is scheduled to be saved until it ends. -/
def beginRestore : Edit R Unit :=
  Edit.onSaving fun s => { s with restoring := true, autosave := s.autosave.cancel }

/-- Count a clearing of the backend, whose announcement is still to come. -/
def oweClear : Edit R Unit := Edit.onSaving fun s => { s with owedClears := s.owedClears + 1 }

/-- Clear the canvas of the backend; answers whether that succeeded. -/
def clearRemote : Program R σ Bool := do
  match ← .send (R := R) .clearCanvas with
  | .ok _ =>
    .atomically oweClear
    return true
  | .error _ => return false

/-- Clear the canvas here. -/
def clearHere : Edit R Unit := do
  let _ ← Edit.onGraph (·.clear)
  Edit.onOverlay (·.reset)

/-- Put a restored node on the canvas. -/
def placeNode (node : Node R) (identity : NodeIdentity) : Edit R Unit :=
  Edit.onGraph fun g =>
    let (g, _) := g.upsertNode { node with id := identity.id }
    (if identity.isLocal then g.markLocalNode identity.id else g, ())

/-- Ask the backend for a copy of a node; if it refuses, the node gets an id of its own. -/
def requestNode (node : Node R) : Program R σ NodeIdentity := do
  match ← .send (.createNode (.ofNode node)) with
  | .ok assigned => return .remote assigned
  | .error _ => return .localOnly (← .fresh freshLocalNode)

/-- Create a node anew, here alone if need be. -/
def replayNode (node : Node R) : Program R σ NodeIdentity := do
  let identity ← requestNode node
  .atomically (placeNode node identity)
  return identity

/-- Create nodes anew, one after the other. -/
def replayNodes : List (Node R) → Replay → Program R σ Replay
  | [], replay => return replay
  | node :: nodes, replay => do
    let identity ← replayNode node
    let report :=
      if identity.isLocal then { replay.report with nodesLocal := replay.report.nodesLocal + 1 }
      else { replay.report with nodesReplayed := replay.report.nodesReplayed + 1 }
    replayNodes nodes ⟨report, replay.names.insert node.id identity.id⟩

/-- Put a restored connection on the canvas. -/
def placeConnection (connection : Connection) (isLocal : Bool) : Edit R Unit :=
  Edit.onGraph fun g =>
    let g := if isLocal then g.markLocalConnection connection.id else g
    match g.upsertConnection connection with
    | .ok (g, _) => (g, ())
    | .error _ => (g, ())

/-- Ask the backend for a connection, unless it touches a node that exists only here. -/
def requestConnection (connection : Connection) : Program R σ (Option ConnectionId) := do
  let touchesLocal ← .read fun c =>
    c.graph.isLocalNode connection.source || c.graph.isLocalNode connection.target
  if touchesLocal then return none
  match ← .send (.createConnection (.ofConnection connection)) with
  | .ok assigned => return some assigned
  | .error _ => return none

/-- Create a connection anew, here alone if need be; answers whether the backend has it. -/
def replayConnection (connection : Connection) : Program R σ Bool := do
  match ← requestConnection (R := R) connection with
  | some assigned =>
    .atomically (placeConnection { connection with id := assigned } false)
    return true
  | none =>
    let id ← .fresh freshLocalConnection
    .atomically (placeConnection { connection with id } true)
    return false

/-- A saved connection between the new ids of its ends, unless it is to be skipped. -/
def renamed? (names : Table NodeId) (connection : Connection) : Option Connection := do
  let source ← names.get? connection.source
  let target ← names.get? connection.target
  guard (source ≠ target)
  return { connection with source, target }

/-- Create connections anew, one after the other. -/
def replayConnections (names : Table NodeId) :
    List Connection → RestoreReport → Program R σ RestoreReport
  | [], report => return report
  | connection :: connections, report => do
    match renamed? names connection with
    | none =>
      replayConnections names connections
        { report with connectionsSkipped := report.connectionsSkipped + 1 }
    | some connection =>
      if ← replayConnection (R := R) connection then
        replayConnections names connections
          { report with connectionsReplayed := report.connectionsReplayed + 1 }
      else
        replayConnections names connections
          { report with connectionsLocal := report.connectionsLocal + 1 }

/-- Leave the restore; answers the revision and the view. -/
def endRestore (view : View R) : Edit R (Nat × View R) := do
  let _ ← Edit.onViewport (·.apply view)
  Edit.onSaving fun s => { s with restoring := false }
  Edit.read fun c => (c.graph.revision, c.viewport.view)

variable [DocumentStore σ]

/-- Save what was restored, and warn if something is missing. -/
def saveRestored (report : RestoreReport) : Program R σ RestoreReport := do
  let saved ← (saveNow (R := R)).run
  let report := { report with saved := saved.isOk }
  if report.isDegraded then .notify .warning report.warning
  return report

/-- What a restore does once the backend was told to clear: clear here, create everything anew, and
save. -/
def replaySnapshot (snapshot : Snapshot R) (remoteCleared : Bool) : Program R σ RestoreReport := do
  .atomically clearHere
  let replay ← replayNodes snapshot.nodes { report := { remoteCleared } }
  let report ← replayConnections (R := R) replay.names snapshot.connections replay.report
  let (revision, view) ← .atomically (endRestore snapshot.view)
  .tell (.graphChanged revision)
  .tell (.viewChanged view)
  saveRestored report

/-- Clear both sides, create everything anew, and save. -/
def restoreSnapshot (snapshot : Snapshot R) : Program R σ RestoreReport := do
  .atomically beginRestore
  let remoteCleared ← clearRemote (R := R)
  replaySnapshot snapshot remoteCleared

/-- The rest of a restore of the saved canvas, once the project is known. -/
def restoreDocument : Attempt R σ (Option RestoreReport) := do
  let document ← .document (← .consult fun store =>
    Document.loadVersioned store canvasKey canvasVersion)
  let snapshot ← .document (← .fresh (Document.decodeSnapshot? (R := R) document))
  match snapshot with
  | none => return none
  | some snapshot =>
    if snapshot.isEmpty then return none
    else return some (← .always (restoreSnapshot snapshot))

/-- Restore the saved canvas, unless there is none or it is empty. -/
def restoreSaved : Attempt R σ (Option RestoreReport) := do
  let project ← .document (← .consult Document.loadProject)
  if let some project := project then
    .atomically (Edit.onSaving fun s => { s with projectName := project.name })
  restoreDocument

/-- Restore a project file, possibly a foreign one. -/
def importText (text : String) : Attempt R σ RestoreReport := do
  match Json.parse? text with
  | none => throw (.document .undecodable)
  | some value =>
    match ← .fresh (Import.project (R := R) value) with
    | .error cause => throw (.document (.unrecognized cause))
    | .ok imported =>
      .atomically (Edit.onSaving fun s =>
        { s with projectName := imported.name.getD s.projectName, tabs := imported.tabs })
      .always (restoreSnapshot imported.snapshot)

end Client

end NodeCanvas
