import NodeCanvas.Graph
/-!
# How the graph is drawn

Nodes are boxes of one width. Below a header a node has one row for each of its ports on the fuller
side, and a least height.
-/

namespace NodeCanvas

/-- The two sides of a node. -/
inductive PortSide where
  | input
  | output
  deriving DecidableEq

variable {R : Type} [Scalar R]

namespace Node

def width : R := 200.0
def headerHeight : R := 32.0
def portSpacing : R := 22.0
def leastBodyHeight : R := 40.0

def height (n : Node R) : R :=
  let rows : R := Scalar.ofNat (Nat.max n.inputs.length n.outputs.length)
  headerHeight + Scalar.max (portSpacing * rows) leastBodyHeight

/-- The corner of the node opposite to its position. -/
def farCorner (n : Node R) : Position R := ⟨n.position.x + width, n.position.y + n.height⟩

def center (n : Node R) : Position R :=
  ⟨n.position.x + width / 2.0, n.position.y + n.height / 2.0⟩

/-- Where connections to a port are drawn to. -/
def anchor? (n : Node R) (port : String) (side : PortSide) : Option (Position R) :=
  let (ports, x) := match side with
    | .input => (n.inputs, n.position.x)
    | .output => (n.outputs, n.position.x + width)
  (ports.findIdx? (·.name == port)).map fun index =>
    ⟨x, n.position.y + headerHeight + portSpacing * (Scalar.ofNat index + 0.5)⟩

end Node

namespace Graph

def nodeCenter? (g : Graph R) (id : NodeId) : Option (Position R) := (g.node? id).map Node.center

def portAnchor? (g : Graph R) (id : NodeId) (port : String) (side : PortSide) :
    Option (Position R) :=
  g.node? id >>= (·.anchor? port side)

/-- A rectangle grown to hold a node as well. -/
def growTo (r : Rect R) (n : Node R) : Rect R :=
  ⟨⟨Scalar.min r.min.x n.position.x, Scalar.min r.min.y n.position.y⟩,
    ⟨Scalar.max r.max.x n.farCorner.x, Scalar.max r.max.y n.farCorner.y⟩⟩

/-- The rectangle around all nodes. -/
def bounds (g : Graph R) : Option (Rect R) :=
  match g.nodes.values with
  | [] => none
  | first :: rest => some (rest.foldl growTo ⟨first.position, first.farCorner⟩)

end Graph

end NodeCanvas
