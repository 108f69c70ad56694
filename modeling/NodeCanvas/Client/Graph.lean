import NodeCanvas.Client.Program
/-!
# Editing the graph

Edits go to the backend first and are made here once it accepts them. New nodes and connections
appear when the backend announces them. What exists only here is edited here alone.
-/

namespace NodeCanvas.Client

variable {R σ : Type} [Scalar R]

/-- Whether the backend has a node; fails for a node that is not on the canvas. -/
def nodeIdentity (node : NodeId) : Attempt R σ NodeIdentity :=
  .checked do
    match ← Edit.read (·.graph.identity? node) with
    | some identity => return .ok identity
    | none => return .error (.unknownNode node)

/-- Replace the canvas by that of the backend. -/
def loadFromBackend : Attempt R σ Unit := do
  let load : Snapshot R ← .ask "Could not load the canvas" .fetchCanvas
  let (revision, view) ← .atomically do
    Edit.onGraph fun g => (g.replaceAll load.nodes load.connections, ())
    let _ ← Edit.onViewport (·.apply load.view)
    Edit.onSaving fun s => { s with owedClears := 0 }
    Edit.read fun c => (c.graph.revision, c.viewport.view)
  .tell (.graphChanged revision)
  .tell (.viewChanged view)

/-- Have the backend create a node. -/
def createNode (spec : CreateNode R) : Attempt R σ NodeId :=
  .ask "Could not create node" (.createNode spec)

def moveNode (node : NodeId) (position : Position R) : Attempt R σ Unit := do
  let identity ← nodeIdentity node
  unless identity.isLocal do
    .ask "Could not move node" (.moveNode node position)
  .atomically (Edit.patchNode node { position := some position })

def deleteNode (node : NodeId) : Attempt R σ Unit := do
  let identity ← nodeIdentity node
  unless identity.isLocal do
    .ask "Could not delete node" (.deleteNode node)
  .atomically do
    let removed ← Edit.onGraph (·.removeNode node)
    if removed.isSome then
      Edit.onOverlay (·.clearNode node)
      Edit.graphChanged

/-- What a field of a node that exists only here would become; fails if the node has gone. -/
def mergedHere {α : Type} (node : NodeId) (merge : Node R → α) : Attempt R σ α :=
  .checked do
    match ← Edit.read (·.graph.node? node) with
    | some found => return .ok (merge found)
    | none => return .error (.unknownNode node)

/-- Set some fields of a node's parameters. -/
def updateParameters (node : NodeId) (changes : Table Json) : Attempt R σ Unit := do
  let identity ← nodeIdentity node
  let parameters : Parameters ←
    if identity.isLocal then mergedHere node fun found => Bag.mergedWith found.parameters changes
    else .ask "Could not update node parameters" (.updateParameters node changes)
  .atomically (Edit.patchNode node { parameters := some parameters })

/-- Set some fields of a node's metadata. -/
def updateMetadata (node : NodeId) (changes : Table Json) : Attempt R σ Unit := do
  let identity ← nodeIdentity node
  let metadata : Metadata ←
    if identity.isLocal then mergedHere node fun found => Bag.mergedWith found.metadata changes
    else .ask "Could not update node metadata" (.updateMetadata node changes)
  .atomically (Edit.patchNode node { metadata := some metadata })

/-- Replace the ports of a node. -/
def updatePorts (node : NodeId) (ports : PortsUpdate) : Attempt R σ Unit := do
  let identity ← nodeIdentity node
  let accepted : PortsUpdate ←
    if identity.isLocal then pure ports
    else .ask "Could not update node ports" (.updatePorts node ports)
  let patch : NodePatch R := { inputs := some accepted.inputs, outputs := some accepted.outputs }
  .atomically (Edit.patchNode node patch)

/-- Add a connection that the backend does not have. -/
def connectHere (connection : Connection) : Attempt R σ ConnectionId :=
  .checked do
    match (← Edit.read (·.graph)).upsertConnection connection with
    | .error cause => return .error (.graph cause)
    | .ok (graph, _) =>
      Edit.modify fun c => { c with graph := graph.markLocalConnection connection.id }
      Edit.graphChanged
      return .ok connection.id

/-- Connect two nodes. A connection to a node that exists only here exists only here, too; others
appear when the backend announces them. -/
def connect (source : NodeId) (sourcePort : String) (target : NodeId) (targetPort : String) :
    Attempt R σ ConnectionId := do
  let id ← .fresh freshLocalConnection
  let connection : Connection := { id, source, sourcePort, target, targetPort }
  if connection.isSelfLoop then throw (.graph (.selfLoop id source))
  let sourceIdentity ← nodeIdentity source
  let targetIdentity ← nodeIdentity target
  if sourceIdentity.isLocal || targetIdentity.isLocal then connectHere connection
  else .ask "Could not connect nodes" (.createConnection (.ofConnection connection))

def disconnect (connection : ConnectionId) : Attempt R σ Unit := do
  let isLocal ← .checked do
    let graph ← Edit.read (·.graph)
    if (graph.connection? connection).isNone then return .error (.unknownConnection connection)
    return .ok (graph.isLocalConnection connection)
  unless isLocal do
    .ask "Could not remove connection" (.deleteConnection connection)
  .atomically do
    let removed ← Edit.onGraph (·.removeConnection connection)
    if removed.isSome then Edit.graphChanged

/-- Remove everything from the canvas, here and on the backend. -/
def clearCanvas : Attempt R σ Unit := do
  let _ ← .ask "Could not clear the canvas" .clearCanvas
  .atomically do
    Edit.onOverlay (·.reset)
    if ← Edit.onGraph (·.clear) then Edit.graphChanged

end NodeCanvas.Client
