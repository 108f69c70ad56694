import NodeCanvas.Geometry
import NodeCanvas.Bag
/-!
# Nodes and connections

A node stands at a position of the canvas and has input and output ports; a connection leads from
an output of one node to an input of another.
-/

namespace NodeCanvas

abbrev NodeId := String
abbrev ConnectionId := String
abbrev SessionId := String

/-- Where a node's id comes from: assigned by the backend, or made up here for a node that the
backend does not have. -/
inductive NodeIdentity where
  | remote (id : NodeId)
  | localOnly (id : NodeId)
  deriving DecidableEq

namespace NodeIdentity

def id : NodeIdentity → NodeId
  | .remote id | .localOnly id => id

def isLocal : NodeIdentity → Bool
  | .remote _ => false
  | .localOnly _ => true

end NodeIdentity

/-- The type of a port that takes any data. -/
def unconstrained : String := "any"

/-- A named place where connections start or end. -/
structure Port where
  name : String
  type : String := unconstrained
  required : Bool := false
  deriving DecidableEq, Inhabited

namespace Port

def shape : Shape := .flat ["name", "type", "required"]

instance : JsonForm Port where
  shape := shape
  ofJson? value := do
    let fields ← value.record? shape
    return {
      name := ← Json.required fields "name" Json.text?
      type := ← Json.defaulted fields "type" unconstrained Json.text?
      required := ← Json.defaulted fields "required" false Json.bool? }
  toJson p := .object <| [("name", .string p.name), ("type", .string p.type)] ++
    (if p.required then [("required", .bool true)] else [])

end Port

structure Node (R : Type) where
  id : NodeId
  type : String
  position : Position R
  parameters : Parameters := {}
  metadata : Metadata := {}
  inputs : List Port := []
  outputs : List Port := []
  deriving BEq, Inhabited

variable {R : Type} [Scalar R]

namespace Node

/-- The type of a node that names none. -/
def defaultType : String := "custom"

/-- A node with one unconstrained port on each side. -/
def fresh (id : NodeId) (type : String) (position : Position R) : Node R :=
  { id, type, position, inputs := [{ name := "input" }], outputs := [{ name := "output" }] }

/-- What the node is called on the canvas. -/
def displayName (n : Node R) : String :=
  (n.parameters.name <|> n.metadata.displayName <|> n.metadata.rawName).getD n.type

def shape : Shape :=
  .record [("id", .whole), ("type", .whole), ("position", .whole),
    ("parameters", JsonForm.shape Parameters), ("metadata", JsonForm.shape Metadata),
    ("inputs", .list Port.shape), ("outputs", .list Port.shape)]

instance : JsonForm (Node R) where
  shape := shape
  ofJson? value := do
    let fields ← value.record? shape
    return {
      id := ← Json.required fields "id" Json.text?
      type := ← Json.defaulted fields "type" defaultType Json.text?
      position := ← Json.defaulted fields "position" .origin ofJson?
      parameters := ← Json.defaulted fields "parameters" {} ofJson?
      metadata := ← Json.defaulted fields "metadata" {} ofJson?
      inputs := ← Json.defaulted fields "inputs" [] ofJson?
      outputs := ← Json.defaulted fields "outputs" [] ofJson? }
  toJson n := .object [("id", .string n.id), ("type", .string n.type),
    ("position", toJson n.position), ("parameters", toJson n.parameters),
    ("metadata", toJson n.metadata), ("inputs", toJson n.inputs), ("outputs", toJson n.outputs)]

end Node

structure Connection where
  id : ConnectionId
  source : NodeId
  sourcePort : String
  target : NodeId
  targetPort : String
  dataType : Option String := none
  deriving DecidableEq, Inhabited

namespace Connection

/-- Whether the connection starts or ends at a node. -/
def touches (c : Connection) (node : NodeId) : Bool := c.source == node || c.target == node

/-- Whether the connection ends where it starts. -/
def isSelfLoop (c : Connection) : Bool := c.source == c.target

def shape : Shape :=
  .flat ["id", "source_node_id", "source_port", "target_node_id", "target_port", "data_type"]

instance : JsonForm Connection where
  shape := shape
  ofJson? value := do
    let fields ← value.record? shape
    return {
      id := ← Json.required fields "id" Json.text?
      source := ← Json.required fields "source_node_id" Json.text?
      sourcePort := ← Json.required fields "source_port" Json.text?
      target := ← Json.required fields "target_node_id" Json.text?
      targetPort := ← Json.required fields "target_port" Json.text?
      dataType := ← Json.optional fields "data_type" Json.text? }
  toJson c := .object <|
    [("id", .string c.id), ("source_node_id", .string c.source),
      ("source_port", .string c.sourcePort), ("target_node_id", .string c.target),
      ("target_port", .string c.targetPort)] ++ Json.optionalField "data_type" .string c.dataType

end Connection

end NodeCanvas
