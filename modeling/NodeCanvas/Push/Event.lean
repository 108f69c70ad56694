import NodeCanvas.Debug.Message
import NodeCanvas.Execution.Event
import NodeCanvas.Import
/-!
# Pushes

The backend announces every change by a named event with a JSON payload. `PushEvent.decode?`
understands the payloads of all producers. An event that does not say which entity it is about is
dropped: an id made up here would be another one at every delivery.
-/

namespace NodeCanvas

inductive PushEvent (R : Type) where
  | nodeAdded (node : Node R)
  | nodeRemoved (node : NodeId)
  | nodeMoved (node : NodeId) (position : Position R)
  | nodeUpdated (node : NodeId) (changes : Table Json)
  | nodeParametersUpdated (node : NodeId) (parameters : Parameters)
  | nodeMetadataUpdated (node : NodeId) (metadata : Metadata)
  | nodePortsUpdated (node : NodeId) (inputs outputs : List Port)
  | connectionAdded (connection : Connection)
  | connectionRemoved (connection : ConnectionId)
  | canvasCleared
  | viewportChanged (update : ViewUpdate R)
  | paradigmChanged (paradigm : String)
  | execution (event : ExecutionEvent)
  | debugSessionStarted (session : SessionId) (state : SessionState)
  | debugStepExecuted (session : SessionId) (result : StepResult)
  | debugSessionStopped (session : SessionId)
  | allSessionsCompleted (results : Table Json)

namespace PushEvent

variable {R : Type} [Scalar R]

def name : PushEvent R → String
  | .nodeAdded _ => "node_added"
  | .nodeRemoved _ => "node_removed"
  | .nodeMoved _ _ => "node_moved"
  | .nodeUpdated _ _ => "node_updated"
  | .nodeParametersUpdated _ _ => "node_parameters_updated"
  | .nodeMetadataUpdated _ _ => "node_metadata_updated"
  | .nodePortsUpdated _ _ _ => "node_ports_updated"
  | .connectionAdded _ => "connection_added"
  | .connectionRemoved _ => "connection_removed"
  | .canvasCleared => "canvas_cleared"
  | .viewportChanged _ => "viewport_changed"
  | .paradigmChanged _ => "paradigm_changed"
  | .execution _ => "execution_event"
  | .debugSessionStarted _ _ => "debug_session_started"
  | .debugStepExecuted _ _ => "debug_step_executed"
  | .debugSessionStopped _ => "debug_session_stopped"
  | .allSessionsCompleted _ => "all_sessions_completed"

/-- A field of a payload that can be read as a type. -/
def field? {α : Type} [JsonForm α] (payload : Json) (name : String) : Option α :=
  payload.get? name >>= ofJson?

/-- A field of a payload that is an object; anything else counts as an empty one. -/
def objectField (payload : Json) (name : String) : Table Json :=
  (payload.get? name >>= Json.table?).getD ∅

/-- Whether one of several fields of an entity holds a text or a number. -/
def carriesId (entity : Json) (names : List String) : Bool :=
  names.any fun name =>
    match entity.get? name with
    | some (.string _) | some (.number _) => true
    | _ => false

/-- A node that has an id of its own or is named beside it. -/
def decodeNodeAdded? (payload : Json) : Drawing (Option (PushEvent R)) :=
  let given : Option String := field? payload "node_id"
  let entity := (payload.get? "node").getD payload
  if given.isNone && !carriesId entity Import.nodeIdNames then return none
  else return (← Import.node entity given).map .nodeAdded

/-- A connection that has an id. -/
def decodeConnectionAdded? (payload : Json) : Drawing (Option (PushEvent R)) :=
  let entity := (payload.get? "connection").getD payload
  if !carriesId entity Import.connectionIdNames then return none
  else return (← Import.connection entity).map .connectionAdded

/-- The event of any other name. -/
def decodeOther? (name : String) (payload : Json) : Option (PushEvent R) :=
  let node? : Option NodeId := field? payload "node_id"
  let session? : Option SessionId := field? payload "session_id"
  match name with
  | "node_removed" => node?.map .nodeRemoved
  | "node_moved" => do
    return .nodeMoved (← node?) (Import.position (some (← payload.get? "position")))
  | "node_updated" => node?.map fun node => .nodeUpdated node (objectField payload "changes")
  | "node_parameters_updated" => node?.map fun node =>
    .nodeParametersUpdated node (Bag.ofValue (.ofTable (objectField payload "parameters")))
  | "node_metadata_updated" => node?.map fun node =>
    .nodeMetadataUpdated node (Bag.ofValue (.ofTable (objectField payload "metadata")))
  | "node_ports_updated" => node?.map fun node =>
    .nodePortsUpdated node (Import.ports (payload.get? "inputs") "input")
      (Import.ports (payload.get? "outputs") "output")
  | "connection_removed" => (field? payload "connection_id").map .connectionRemoved
  | "canvas_cleared" => some .canvasCleared
  | "viewport_changed" => some (.viewportChanged ((ofJson? payload).getD {}))
  | "paradigm_changed" =>
    (field? payload "type" <|> field? payload "paradigm").map .paradigmChanged
  | "execution_event" => (ofJson? payload).map .execution
  | "debug_session_started" => session?.map fun session =>
    .debugSessionStarted session ((field? payload "state").getD .running)
  | "debug_step_executed" => session?.map fun session =>
    .debugStepExecuted session ((field? payload "result").getD {})
  | "debug_session_stopped" => session?.map .debugSessionStopped
  | "all_sessions_completed" => some (.allSessionsCompleted (objectField payload "results"))
  | _ => none

/-- The event of a name and a payload; nothing for an unknown name or a payload without the fields
that identify its entity. -/
def decode? (name : String) (payload : Json) : Drawing (Option (PushEvent R)) :=
  match name with
  | "node_added" => decodeNodeAdded? payload
  | "connection_added" => decodeConnectionAdded? payload
  | _ => return decodeOther? name payload

end PushEvent

end NodeCanvas
