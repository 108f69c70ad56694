import NodeCanvas.Identifier
import NodeCanvas.Snapshot
import NodeCanvas.Json.Printer
/-!
# Reading foreign documents

Documents come from several producers that never agreed on one shape. The readers here accept all
of them: fields go by several names, nodes and connections come as a list or as an object keyed by
id, ids may be numbers, and what is missing gets a default. An entity without an id is given a
fresh one.
-/

namespace NodeCanvas

/-- Why a document is not a canvas. -/
inductive DocumentShapeError where
  | rootNotObject
  | stateNotObject
  | nothingToImport
  deriving DecidableEq

def DocumentShapeError.message : DocumentShapeError → String
  | .rootNotObject => "import root must be a JSON object"
  | .stateNotObject => "`state` must be an object"
  | .nothingToImport => "expected `state` or `nodes`"

/-- The contents of a foreign project file. -/
structure ImportedProject (R : Type) where
  snapshot : Snapshot R
  name : Option String
  tabs : List Json

namespace Import

/-! ## Fields by several names -/

/-- The first of several fields that holds a text or a number; a number counts as its text. -/
def textField (fields : List (String × Json)) (names : List String) : Option String :=
  names.findSome? fun name =>
    match fields.lookup name with
    | some (.string s) => some s
    | some (.number n) => some n.text
    | _ => none

/-- The first of several fields that holds a number. -/
def numberField (fields : List (String × Json)) (names : List String) : Option Float :=
  names.findSome? fun name => fields.lookup name >>= Json.float?

def sourceNames : List String :=
  ["source_node_id", "source", "from", "from_node", "sourceNodeId"]
def targetNames : List String := ["target_node_id", "target", "to", "to_node", "targetNodeId"]
def sourcePortNames : List String := ["source_port", "sourcePort", "from_port"]
def targetPortNames : List String := ["target_port", "targetPort", "to_port"]
def nodeIdNames : List String := ["id", "node_id"]
def connectionIdNames : List String := ["id", "connection_id"]

variable {R : Type} [Scalar R]

/-! ## Parts of a node -/

/-- A number, or zero. -/
def coordinate (value : Option Json) : R := Scalar.ofFloat ((value >>= Json.float?).getD 0.0)

/-- A position written `[x, y]` or as an object with `x` and `y`; anything else is the origin. -/
def position (value : Option Json) : Position R :=
  match value with
  | some (.array (x :: y :: _)) => ⟨coordinate (some x), coordinate (some y)⟩
  | some (.object fields) => ⟨coordinate (fields.lookup "x"), coordinate (fields.lookup "y")⟩
  | _ => .origin

/-- A port from its name or from an object. -/
def port : Json → Option Port
  | .string name => some { name }
  | .object fields => do
    return {
      name := ← textField fields ["name"]
      type := (textField fields ["type", "data_type"]).getD unconstrained
      required := (fields.lookup "required" >>= Json.bool?).getD false }
  | _ => none

/-- A list of ports. A missing list is one unconstrained port; an empty list stays empty. -/
def ports (value : Option Json) (default : String) : List Port :=
  match value with
  | some (.array items) => items.filterMap port
  | _ => [{ name := default }]

/-- A view; values that are missing or unusable are those of the initial view. -/
def view (value : Option Json) : View R :=
  match value with
  | some (.object fields) =>
    let zoom : R := match fields.lookup "zoom" >>= Json.float? with
      | some z => if z > 0.0 then Scalar.ofFloat z else 1.0
      | none => 1.0
    let pan : Option (Position R) := (fields.lookup "pan").map fun pan => position (some pan)
    let component (names : List String) (other : Position R → R) : R :=
      match numberField fields names with
      | some x => Scalar.ofFloat x
      | none => (pan.map other).getD 0.0
    ⟨zoom, component ["pan_x", "panX"] (·.x), component ["pan_y", "panY"] (·.y)⟩
  | _ => .initial

/-! ## Nodes and connections -/

/-- An id from a field, else the given one, else a fresh one. -/
def idOr (found given : Option String) : Drawing String :=
  match found <|> given with
  | some id => return id
  | none => freshId

/-- A node from an object. -/
def node (value : Json) (key : Option String) : Drawing (Option (Node R)) :=
  match value with
  | .object fields => do
    let id ← idOr (textField fields nodeIdNames) key
    return some {
      id
      type := (textField fields ["type", "node_type"]).getD Node.defaultType
      position := position (fields.lookup "position")
      parameters := ((fields.lookup "parameters").map Bag.ofValue).getD {}
      metadata := ((fields.lookup "metadata").map Bag.ofValue).getD {}
      inputs := ports (fields.lookup "inputs") "input"
      outputs := ports (fields.lookup "outputs") "output" }
  | _ => return none

/-- A connection from an object that names both of its ends. -/
def connection (value : Json) : Drawing (Option Connection) :=
  match value with
  | .object fields =>
    match textField fields sourceNames, textField fields targetNames with
    | some source, some target => do
      let id ← idOr (textField fields connectionIdNames) none
      return some {
        id
        source
        sourcePort := (textField fields sourcePortNames).getD "output"
        target
        targetPort := (textField fields targetPortNames).getD "input"
        dataType := (textField fields ["data_type", "dataType"]).filter
          fun t => t ≠ "" ∧ t ≠ "None" }
    | _, _ => return none
  | _ => return none

/-- A connection from an entry of an object keyed by id: the key stands in for an absent id. -/
def keyedConnection (key : String) (value : Json) : Drawing (Option Connection) := do
  let found ← connection value
  return found.map fun c =>
    if (value.get? "id").isNone ∧ (value.get? "connection_id").isNone then { c with id := key }
    else c

/-- What a reader makes of each item, without the items it refuses. -/
def filterItems {α β : Type} (read : α → Drawing (Option β)) : List α → Drawing (List β)
  | [] => return []
  | item :: rest => do
    let found ← read item
    let more ← filterItems read rest
    return (found.map (· :: more)).getD more

/-- The nodes of a list or of an object keyed by id. -/
def nodes (value : Option Json) : Drawing (List (Node R)) :=
  match value with
  | some (.array items) => filterItems (fun item => node item none) items
  | some (.object fields) => filterItems (fun field => node field.2 (some field.1)) fields
  | _ => return []

/-- The connections of a list or of an object keyed by id. -/
def connections (value : Option Json) : Drawing (List Connection) :=
  match value with
  | some (.array items) => filterItems connection items
  | some (.object fields) => filterItems (fun field => keyedConnection field.1 field.2) fields
  | _ => return []

/-! ## Documents -/

/-- The snapshot of an object with nodes, connections and a viewport. -/
def snapshot (fields : List (String × Json)) : Drawing (Snapshot R) := do
  let nodes ← nodes (fields.lookup "nodes")
  let connections ← connections (fields.lookup "connections")
  return { nodes, connections, view := view (fields.lookup "viewport") }

/-- The fields that hold the canvas: those of `state`, or the root's own. -/
def stateFields (root : List (String × Json)) :
    Except DocumentShapeError (List (String × Json)) :=
  match root.lookup "state" with
  | some (.object state) => .ok state
  | some _ => .error .stateNotObject
  | none =>
    if (root.lookup "nodes").isSome ∨ (root.lookup "connections").isSome then .ok root
    else .error .nothingToImport

/-- A project file of any known shape. -/
def project (value : Json) : Drawing (Except DocumentShapeError (ImportedProject R)) :=
  match value with
  | .object root =>
    match stateFields root with
    | .ok state => do
      let snapshot ← snapshot state
      let tabs := match root.lookup "engine_tabs" with
        | some (.array tabs) => tabs
        | _ => []
      let name := root.lookup "project" >>= (·.get? "name") >>= Json.text?
      return .ok ⟨snapshot, name, tabs⟩
    | .error e => return .error e
  | _ => return .error .rootNotObject

end Import

end NodeCanvas
