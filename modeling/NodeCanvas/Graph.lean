import NodeCanvas.Snapshot
/-!
# The graph

The nodes and connections on the canvas, each under its id, and the marks of those that exist only
here because the backend does not have them. A connection may be stored before its nodes are, so
that messages may arrive in any order; it is drawn once both ends exist.

Every operation compares before it writes: repeating one changes nothing, and the revision grows by
one exactly when something did.
-/

namespace NodeCanvas

inductive GraphError where
  | selfLoop (connection : ConnectionId) (node : NodeId)
  deriving DecidableEq

def GraphError.message : GraphError → String
  | .selfLoop connection node =>
    "connection " ++ connection ++ " would connect node " ++ node ++ " to itself"

/-- New values for the parts of a node; absent parts stay as they are. -/
structure NodePatch (R : Type) where
  type : Option String := none
  position : Option (Position R) := none
  parameters : Option Parameters := none
  metadata : Option Metadata := none
  inputs : Option (List Port) := none
  outputs : Option (List Port) := none

/-- A node taken off the graph, and the connections that went with it. -/
structure RemovedNode (R : Type) where
  node : Node R
  connections : List ConnectionId

structure Graph (R : Type) where
  nodes : Table (Node R) := ∅
  connections : Table Connection := ∅
  localNodes : KeySet := ∅
  localConnections : KeySet := ∅
  revision : Nat := 0
  deriving Inhabited

variable {R : Type} [Scalar R]

namespace NodePatch

def isEmpty (p : NodePatch R) : Bool :=
  p.type.isNone && p.position.isNone && p.parameters.isNone && p.metadata.isNone &&
    p.inputs.isNone && p.outputs.isNone

/-- The old value if it equals the new one or there is none, else the new one, and whether that is
a change. -/
def replace {α : Type} [BEq α] (old : α) : Option α → α × Bool
  | some new => if old == new then (old, false) else (new, true)
  | none => (old, false)

/-- The patched node, and whether any part changed. -/
def apply (p : NodePatch R) (n : Node R) : Node R × Bool :=
  let (type, typeChanged) := replace n.type p.type
  let (position, positionChanged) := replace n.position p.position
  let (parameters, parametersChanged) := replace n.parameters p.parameters
  let (metadata, metadataChanged) := replace n.metadata p.metadata
  let (inputs, inputsChanged) := replace n.inputs p.inputs
  let (outputs, outputsChanged) := replace n.outputs p.outputs
  ({ n with type, position, parameters, metadata, inputs, outputs },
    typeChanged || positionChanged || parametersChanged || metadataChanged || inputsChanged ||
      outputsChanged)

end NodePatch

namespace Graph

def empty : Graph R := {}

def isEmpty (g : Graph R) : Bool := g.nodes.isEmpty && g.connections.isEmpty

/-! ## Changes -/

def upsertNode (g : Graph R) (node : Node R) : Graph R × Bool :=
  if g.nodes.get? node.id == some node then (g, false)
  else ({ g with nodes := g.nodes.insert node.id node, revision := g.revision + 1 }, true)

/-- Take a node off the graph, and with it every connection that touches it. -/
def removeNode (g : Graph R) (id : NodeId) : Graph R × Option (RemovedNode R) :=
  match g.nodes.get? id with
  | none => (g, none)
  | some node =>
    let cascaded := (g.connections.values.filter (·.touches id)).map (·.id)
    ({ g with
        nodes := g.nodes.erase id
        connections := cascaded.foldl Table.erase g.connections
        localNodes := g.localNodes.erase id
        localConnections := cascaded.foldl Table.erase g.localConnections
        revision := g.revision + 1 },
      some ⟨node, cascaded⟩)

def upsertConnection (g : Graph R) (c : Connection) : Except GraphError (Graph R × Bool) :=
  if c.isSelfLoop then .error (.selfLoop c.id c.source)
  else if g.connections.get? c.id = some c then .ok (g, false)
  else .ok ({ g with connections := g.connections.insert c.id c, revision := g.revision + 1 }, true)

def removeConnection (g : Graph R) (id : ConnectionId) : Graph R × Option Connection :=
  match g.connections.get? id with
  | none => (g, none)
  | some c =>
    ({ g with
        connections := g.connections.erase id
        localConnections := g.localConnections.erase id
        revision := g.revision + 1 },
      some c)

/-- Replace parts of a node, if it is there. -/
def patchNode (g : Graph R) (id : NodeId) (patch : NodePatch R) : Graph R × Bool :=
  match g.nodes.get? id with
  | none => (g, false)
  | some node =>
    let (patched, changed) := patch.apply node
    if changed then
      ({ g with nodes := g.nodes.modify id fun _ => patched, revision := g.revision + 1 }, true)
    else (g, false)

def clear (g : Graph R) : Graph R × Bool :=
  if g.isEmpty && g.localNodes.isEmpty then (g, false)
  else ({ revision := g.revision + 1 }, true)

/-- Replace everything. Of several entries with one id the last counts; self-loops are dropped. -/
def replaceAll (g : Graph R) (nodes : List (Node R)) (connections : List Connection) : Graph R where
  nodes := Table.ofList (nodes.map fun n => (n.id, n))
  connections := Table.ofList ((connections.filter (!·.isSelfLoop)).map fun c => (c.id, c))
  revision := g.revision + 1

def markLocalNode (g : Graph R) (id : NodeId) : Graph R :=
  { g with localNodes := g.localNodes.add id }

def markLocalConnection (g : Graph R) (id : ConnectionId) : Graph R :=
  { g with localConnections := g.localConnections.add id }

/-! ## Questions -/

def node? (g : Graph R) (id : NodeId) : Option (Node R) := g.nodes.get? id

def connection? (g : Graph R) (id : ConnectionId) : Option Connection := g.connections.get? id

def isLocalNode (g : Graph R) (id : NodeId) : Bool := g.localNodes.contains id

def isLocalConnection (g : Graph R) (id : ConnectionId) : Bool := g.localConnections.contains id

/-- The connections that start or end at a node. -/
def connectionsOf (g : Graph R) (id : NodeId) : List Connection :=
  g.connections.values.filter (·.touches id)

/-- The connections both of whose ends exist. -/
def renderable (g : Graph R) : List Connection :=
  g.connections.values.filter fun c => g.nodes.contains c.source && g.nodes.contains c.target

def identity? (g : Graph R) (id : NodeId) : Option NodeIdentity :=
  if !g.nodes.contains id then none
  else if g.isLocalNode id then some (.localOnly id)
  else some (.remote id)

def snapshot (g : Graph R) (view : View R) : Snapshot R :=
  ⟨g.nodes.values, g.connections.values, view⟩

end Graph

end NodeCanvas
