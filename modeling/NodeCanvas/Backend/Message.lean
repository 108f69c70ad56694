import NodeCanvas.Snapshot
/-!
# Messages about the canvas

The bodies of requests to the backend and of its answers. Every answer comes in an envelope that
says whether the request succeeded and holds the answer proper under `data`, or beside it.
-/

namespace NodeCanvas

/-- The envelope of an answer. -/
structure Envelope where
  success : Bool
  data : Option Json := none
  error : Option String := none
  extra : Table Json := ∅

namespace Envelope

def ownFields : List String := ["success", "data", "error"]

/-- The answer proper. -/
def payload (e : Envelope) : Json :=
  match e.data with
  | some data => if data.isNull then .ofTable e.extra else data
  | none => .ofTable e.extra

def ok (data : Json) : Envelope := { success := true, data := some data }

def failed (error : String) : Envelope := { success := false, error := some error }

instance : JsonForm Envelope where
  shape := .bag ownFields
  ofJson?
    | .object fields => do
      return {
        success := ← Json.required fields "success" Json.bool?
        data := ← Json.optional fields "data" some
        error := ← Json.optional fields "error" Json.text?
        extra := otherFields ownFields fields }
    | _ => none
  toJson e := .object <| [("success", .bool e.success)] ++ Json.optionalField "data" id e.data ++
    Json.optionalField "error" .string e.error ++ e.extra.entries

end Envelope

/-- A request for a new node. Without ports the backend gives it the usual ones. -/
structure CreateNode (R : Type) where
  type : String
  position : Position R
  parameters : Parameters := {}
  metadata : Metadata := {}
  inputs : List Port := []
  outputs : List Port := []

variable {R : Type} [Scalar R]

namespace CreateNode

/-- The request that makes a copy of a node, ports included. -/
def ofNode (n : Node R) : CreateNode R :=
  ⟨n.type, n.position, n.parameters, n.metadata, n.inputs, n.outputs⟩

def shape : Shape :=
  .record [("type", .whole), ("position", .whole), ("parameters", JsonForm.shape Parameters),
    ("metadata", JsonForm.shape Metadata), ("inputs", .list Port.shape),
    ("outputs", .list Port.shape)]

instance : JsonForm (CreateNode R) where
  shape := shape
  ofJson? value := do
    let fields ← value.record? shape
    return {
      type := ← Json.required fields "type" Json.text?
      position := ← Json.required fields "position" ofJson?
      parameters := ← Json.defaulted fields "parameters" {} ofJson?
      metadata := ← Json.defaulted fields "metadata" {} ofJson?
      inputs := ← Json.defaulted fields "inputs" [] ofJson?
      outputs := ← Json.defaulted fields "outputs" [] ofJson? }
  toJson r := .object <|
    [("type", .string r.type), ("position", toJson r.position),
      ("parameters", toJson r.parameters), ("metadata", toJson r.metadata)] ++
    (if r.inputs.isEmpty then [] else [("inputs", toJson r.inputs)]) ++
    (if r.outputs.isEmpty then [] else [("outputs", toJson r.outputs)])

end CreateNode

/-- The answer to a request for a new node. -/
structure CreatedNode where
  node : NodeId

instance : JsonForm CreatedNode where
  shape := .flat ["node_id"]
  ofJson? value := do
    let fields ← value.record? (.flat ["node_id"])
    return { node := ← Json.required fields "node_id" Json.text? }
  toJson c := .object [("node_id", .string c.node)]

/-- A request for a new connection. -/
structure CreateConnection where
  source : NodeId
  sourcePort : String
  target : NodeId
  targetPort : String

namespace CreateConnection

def ofConnection (c : Connection) : CreateConnection :=
  ⟨c.source, c.sourcePort, c.target, c.targetPort⟩

def shape : Shape := .flat ["source_node_id", "source_port", "target_node_id", "target_port"]

instance : JsonForm CreateConnection where
  shape := shape
  ofJson? value := do
    let fields ← value.record? shape
    return {
      source := ← Json.required fields "source_node_id" Json.text?
      sourcePort := ← Json.required fields "source_port" Json.text?
      target := ← Json.required fields "target_node_id" Json.text?
      targetPort := ← Json.required fields "target_port" Json.text? }
  toJson r := .object [("source_node_id", .string r.source), ("source_port", .string r.sourcePort),
    ("target_node_id", .string r.target), ("target_port", .string r.targetPort)]

end CreateConnection

/-- The answer to a request for a new connection. -/
structure CreatedConnection where
  connection : ConnectionId

instance : JsonForm CreatedConnection where
  shape := .flat ["connection_id"]
  ofJson? value := do
    let fields ← value.record? (.flat ["connection_id"])
    return { connection := ← Json.required fields "connection_id" Json.text? }
  toJson c := .object [("connection_id", .string c.connection)]

/-- New or accepted fields of a node's parameters. -/
structure ParametersUpdate where
  parameters : Table Json := ∅

instance : JsonForm ParametersUpdate where
  shape := .flat ["parameters"]
  ofJson? value := do
    let fields ← value.record? (.flat ["parameters"])
    return { parameters := ← Json.defaulted fields "parameters" ∅ Json.table? }
  toJson u := .object [("parameters", .ofTable u.parameters)]

/-- New or accepted fields of a node's metadata. -/
structure MetadataUpdate where
  metadata : Table Json := ∅

instance : JsonForm MetadataUpdate where
  shape := .flat ["metadata"]
  ofJson? value := do
    let fields ← value.record? (.flat ["metadata"])
    return { metadata := ← Json.defaulted fields "metadata" ∅ Json.table? }
  toJson u := .object [("metadata", .ofTable u.metadata)]

/-- The ports of a node, on both sides. -/
structure PortsUpdate where
  inputs : List Port := []
  outputs : List Port := []
  deriving DecidableEq

instance : JsonForm PortsUpdate where
  shape := .record [("inputs", .list Port.shape), ("outputs", .list Port.shape)]
  ofJson? value := do
    let fields ← value.record? (.flat ["inputs", "outputs"])
    return {
      inputs := ← Json.defaulted fields "inputs" [] ofJson?
      outputs := ← Json.defaulted fields "outputs" [] ofJson? }
  toJson u := .object [("inputs", toJson u.inputs), ("outputs", toJson u.outputs)]

/-- The language of code that names none. -/
def defaultLanguage : String := "python"

/-- A search through the code of nodes. -/
structure PatternSearch (R : Type) where
  pattern : String
  language : String := defaultLanguage
  nodes : Option (List (Node R)) := none

instance : JsonForm (PatternSearch R) where
  shape := .record [("pattern", .whole), ("language", .whole), ("nodes_data", .list Node.shape)]
  ofJson? value := do
    let fields ← value.record? (.flat ["pattern", "language", "nodes_data"])
    return {
      pattern := ← Json.required fields "pattern" Json.text?
      language := ← Json.defaulted fields "language" defaultLanguage Json.text?
      nodes := ← Json.optional fields "nodes_data" ofJson? }
  toJson r := .object <| [("pattern", .string r.pattern), ("language", .string r.language)] ++
    Json.optionalField "nodes_data" toJson r.nodes

/-- A replacement in the code of nodes, tried out or applied. -/
structure PatternRefactor where
  search : String
  replacement : String
  language : String := defaultLanguage
  scope : Option (List NodeId) := none
  apply : Bool := false

instance : JsonForm PatternRefactor where
  shape := .flat ["search_pattern", "replace_pattern", "language", "node_ids", "apply"]
  ofJson? value := do
    let fields ← value.record?
      (.flat ["search_pattern", "replace_pattern", "language", "node_ids", "apply"])
    return {
      search := ← Json.required fields "search_pattern" Json.text?
      replacement := ← Json.required fields "replace_pattern" Json.text?
      language := ← Json.defaulted fields "language" defaultLanguage Json.text?
      scope := ← Json.optional fields "node_ids" ofJson?
      apply := ← Json.defaulted fields "apply" false Json.bool? }
  toJson r := .object <|
    [("search_pattern", .string r.search), ("replace_pattern", .string r.replacement),
      ("language", .string r.language)] ++
    Json.optionalField "node_ids" .ofTexts r.scope ++ [("apply", .bool r.apply)]

/-- A request to turn a graph into code. -/
structure CodeExport (R : Type) where
  nodes : List (Node R)
  connections : List Connection
  language : String := defaultLanguage
  options : Table Json := ∅

instance : JsonForm (CodeExport R) where
  shape := .record [("nodes", .list Node.shape), ("connections", .list Connection.shape),
    ("target_language", .whole), ("options", .whole)]
  ofJson? value := do
    let fields ← value.record? (.flat ["nodes", "connections", "target_language", "options"])
    return {
      nodes := ← Json.required fields "nodes" ofJson?
      connections := ← Json.required fields "connections" ofJson?
      language := ← Json.defaulted fields "target_language" defaultLanguage Json.text?
      options := ← Json.defaulted fields "options" ∅ Json.table? }
  toJson r := .object [("nodes", toJson r.nodes), ("connections", toJson r.connections),
    ("target_language", .string r.language), ("options", .ofTable r.options)]

end NodeCanvas
