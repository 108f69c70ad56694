import NodeCanvas.Node
/-!
# Execution events

What the backend reports while it runs the graph.
-/

namespace NodeCanvas

/-- How the backend runs the graph. -/
inductive ExecutionMode where
  | normal
  | debug
  | step
  deriving DecidableEq, Inhabited

namespace ExecutionMode

def all : List ExecutionMode := [.normal, .debug, .step]

def name : ExecutionMode → String
  | .normal => "normal"
  | .debug => "debug"
  | .step => "step"

instance : JsonForm ExecutionMode where
  shape := .choice
  ofJson? := Json.choice? fun s => all.find? (·.name == s)
  toJson mode := .string mode.name

end ExecutionMode

/-- What happened. Any other word of the backend is `unknown`. -/
inductive ExecutionEventKind where
  | nodeStart
  | nodeComplete
  | nodeError
  | dataFlow
  | variableUpdate
  | breakpointHit
  | executionPause
  | executionResume
  | executionComplete
  | executionError
  | unknown
  deriving DecidableEq, Inhabited

namespace ExecutionEventKind

def known : List ExecutionEventKind :=
  [.nodeStart, .nodeComplete, .nodeError, .dataFlow, .variableUpdate, .breakpointHit,
    .executionPause, .executionResume, .executionComplete, .executionError]

def name : ExecutionEventKind → String
  | .nodeStart => "node_start"
  | .nodeComplete => "node_complete"
  | .nodeError => "node_error"
  | .dataFlow => "data_flow"
  | .variableUpdate => "variable_update"
  | .breakpointHit => "breakpoint_hit"
  | .executionPause => "execution_pause"
  | .executionResume => "execution_resume"
  | .executionComplete => "execution_complete"
  | .executionError => "execution_error"
  | .unknown => "unknown"

def ofName (s : String) : ExecutionEventKind := (known.find? (·.name == s)).getD .unknown

instance : JsonForm ExecutionEventKind where
  shape := .choice
  ofJson? := Json.choice? fun s => some (ofName s)
  toJson kind := .string kind.name

end ExecutionEventKind

structure ExecutionEvent where
  kind : ExecutionEventKind
  timestamp : Option Float := none
  node : Option NodeId := none
  connection : Option ConnectionId := none
  data : Option (Table Json) := none
  message : Option String := none
  deriving BEq, Inhabited

namespace ExecutionEvent

/-- A value that the event carries under a name. -/
def datum? (e : ExecutionEvent) (name : String) : Option Json := e.data >>= (·.get? name)

def textDatum? (e : ExecutionEvent) (name : String) : Option String := e.datum? name >>= Json.text?

def numberDatum? (e : ExecutionEvent) (name : String) : Option Float :=
  e.datum? name >>= Json.float?

def shape : Shape :=
  .record [("event_type", .choice), ("timestamp", .whole), ("node_id", .whole),
    ("connection_id", .whole), ("data", .whole), ("message", .whole)]

instance : JsonForm ExecutionEvent where
  shape := shape
  ofJson? value := do
    let fields ← value.record? shape
    return {
      kind := ← Json.required fields "event_type" ofJson?
      timestamp := ← Json.optional fields "timestamp" Json.float?
      node := ← Json.optional fields "node_id" Json.text?
      connection := ← Json.optional fields "connection_id" Json.text?
      data := ← Json.optional fields "data" Json.table?
      message := ← Json.optional fields "message" Json.text? }
  toJson e := .object [("event_type", toJson e.kind), ("timestamp", .ofOption .ofFloat e.timestamp),
    ("node_id", .ofOption .string e.node), ("connection_id", .ofOption .string e.connection),
    ("data", .ofOption .ofTable e.data), ("message", .ofOption .string e.message)]

end ExecutionEvent

end NodeCanvas
