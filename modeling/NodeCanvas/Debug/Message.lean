import NodeCanvas.Node
/-!
# Messages about debug sessions

What is sent to the backend to create and step debug sessions, and what comes back.
-/

namespace NodeCanvas

/-- Where a debug session is in its life. -/
inductive SessionState where
  | created
  | running
  | paused
  | stopped
  | completed
  deriving DecidableEq, Inhabited

namespace SessionState

def all : List SessionState := [.created, .running, .paused, .stopped, .completed]

def name : SessionState → String
  | .created => "created"
  | .running => "running"
  | .paused => "paused"
  | .stopped => "stopped"
  | .completed => "completed"

/-- Whether a session in this state is over. -/
def isTerminal (s : SessionState) : Bool := s == .stopped || s == .completed

instance : JsonForm SessionState where
  shape := .choice
  ofJson? := Json.choice? fun s => all.find? (·.name == s)
  toJson state := .string state.name

end SessionState

/-- How far one step goes. -/
inductive StepKind where
  | next
  | into
  | over
  | out
  deriving DecidableEq, Inhabited

namespace StepKind

def all : List StepKind := [.next, .into, .over, .out]

def name : StepKind → String
  | .next => "next"
  | .into => "into"
  | .over => "over"
  | .out => "out"

instance : JsonForm StepKind where
  shape := .choice
  ofJson? := Json.choice? fun s => all.find? (·.name == s)
  toJson kind := .string kind.name

end StepKind

/-- How one step ended. Any other word of the backend is `unknown`. -/
inductive StepStatus where
  | stepped
  | completed
  | paused
  | unknown
  deriving DecidableEq, Inhabited

namespace StepStatus

def name : StepStatus → String
  | .stepped => "stepped"
  | .completed => "completed"
  | .paused => "paused"
  | .unknown => "unknown"

def ofName (s : String) : StepStatus :=
  ([.stepped, .completed, .paused].find? (·.name == s)).getD .unknown

instance : JsonForm StepStatus where
  shape := .choice
  ofJson? := Json.choice? fun s => some (ofName s)
  toJson status := .string status.name

/-- The state of a session after a step with this ending. -/
def nextState : StepStatus → SessionState
  | .completed => .completed
  | .paused => .paused
  | .stepped | .unknown => .running

end StepStatus

/-- What one step did: the node it ran, the result, and the variables it wrote. -/
structure StepResult where
  status : StepStatus := .stepped
  node : Option NodeId := none
  result : Json := .null
  written : Table Json := ∅
  deriving BEq, Inhabited

namespace StepResult

def shape : Shape :=
  .record [("status", .choice), ("node_id", .whole), ("result", .whole), ("variables", .whole)]

instance : JsonForm StepResult where
  shape := shape
  ofJson? value := do
    let fields ← value.record? shape
    return {
      status := ← Json.defaulted fields "status" .stepped ofJson?
      node := ← Json.optional fields "node_id" Json.text?
      result := ← Json.defaulted fields "result" .null some
      written := ← Json.defaulted fields "variables" ∅ Json.table? }
  toJson r := .object [("status", toJson r.status), ("node_id", .ofOption .string r.node),
    ("result", r.result), ("variables", .ofTable r.written)]

end StepResult

/-- The answer to a step request. -/
structure StepResponse where
  session : SessionId
  result : StepResult := {}

instance : JsonForm StepResponse where
  shape := .record [("session_id", .whole), ("result", StepResult.shape)]
  ofJson? value := do
    let fields ← value.record? (.flat ["session_id", "result"])
    return {
      session := ← Json.required fields "session_id" Json.text?
      result := ← Json.defaulted fields "result" {} ofJson? }
  toJson r := .object [("session_id", .string r.session), ("result", toJson r.result)]

/-- A node as a debug session runs it. -/
structure DebugNode where
  id : NodeId
  code : String := ""
  type : String := ""
  deriving DecidableEq, Inhabited

namespace DebugNode

def shape : Shape := .flat ["id", "code_snippet", "type"]

instance : JsonForm DebugNode where
  shape := shape
  ofJson? value := do
    let fields ← value.record? shape
    return {
      id := ← Json.required fields "id" Json.text?
      code := ← Json.defaulted fields "code_snippet" "" Json.text?
      type := ← Json.defaulted fields "type" "" Json.text? }
  toJson n := .object [("id", .string n.id), ("code_snippet", .string n.code),
    ("type", .string n.type)]

end DebugNode

/-- A request for a new session that runs some nodes in order. -/
structure CreateSession where
  session : SessionId
  nodes : List DebugNode
  options : Table Json := ∅

instance : JsonForm CreateSession where
  shape := .record [("session_id", .whole), ("nodes", .list DebugNode.shape), ("options", .whole)]
  ofJson? value := do
    let fields ← value.record? (.flat ["session_id", "nodes", "options"])
    return {
      session := ← Json.required fields "session_id" Json.text?
      nodes := ← Json.required fields "nodes" ofJson?
      options := ← Json.defaulted fields "options" ∅ Json.table? }
  toJson r := .object [("session_id", .string r.session), ("nodes", toJson r.nodes),
    ("options", .ofTable r.options)]

/-- The answer to creating or starting a session. -/
structure SessionAck where
  session : SessionId
  state : SessionState := .created

instance : JsonForm SessionAck where
  shape := .record [("session_id", .whole), ("state", .choice)]
  ofJson? value := do
    let fields ← value.record? (.flat ["session_id", "state"])
    return {
      session := ← Json.required fields "session_id" Json.text?
      state := ← Json.defaulted fields "state" .created ofJson? }
  toJson a := .object [("session_id", .string a.session), ("state", toJson a.state)]

/-- A session as the backend lists it. -/
structure SessionInfo where
  id : SessionId
  state : SessionState := .created
  currentNode : Option NodeId := none
  results : Table Json := ∅
  written : Table Json := ∅

namespace SessionInfo

def shape : Shape :=
  .record [("id", .whole), ("state", .choice), ("current_node", .whole), ("results", .whole),
    ("variables", .whole)]

instance : JsonForm SessionInfo where
  shape := shape
  ofJson? value := do
    let fields ← value.record? shape
    return {
      id := ← Json.required fields "id" Json.text?
      state := ← Json.defaulted fields "state" .created ofJson?
      currentNode := ← Json.optional fields "current_node" Json.text?
      results := ← Json.defaulted fields "results" ∅ Json.table?
      written := ← Json.defaulted fields "variables" ∅ Json.table? }
  toJson i := .object [("id", .string i.id), ("state", toJson i.state),
    ("current_node", .ofOption .string i.currentNode), ("results", .ofTable i.results),
    ("variables", .ofTable i.written)]

end SessionInfo

/-- All sessions of the backend. -/
structure SessionList where
  sessions : List SessionInfo := []

instance : JsonForm SessionList where
  shape := .record [("sessions", .list SessionInfo.shape)]
  ofJson? value := do
    let fields ← value.record? (.flat ["sessions"])
    return { sessions := ← Json.defaulted fields "sessions" [] ofJson? }
  toJson l := .object [("sessions", toJson l.sessions)]

/-- The outcome of running every session to its end: for each its final state, or an error. -/
structure RunAllReply where
  results : Table Json := ∅

instance : JsonForm RunAllReply where
  shape := .flat ["results"]
  ofJson? value := do
    let fields ← value.record? (.flat ["results"])
    return { results := ← Json.defaulted fields "results" ∅ Json.table? }
  toJson r := .object [("results", .ofTable r.results)]

end NodeCanvas
