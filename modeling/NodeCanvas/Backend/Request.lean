import NodeCanvas.Backend.Error
import NodeCanvas.Backend.Message
import NodeCanvas.Debug.Message
import NodeCanvas.Execution.Event
import NodeCanvas.Time.Span
/-!
# Requests

Everything that the client asks of the backend, and for each request the type of its reply. A
backend is whatever answers requests: the one in this process, or one behind HTTP.
-/

namespace NodeCanvas

inductive Request (R : Type) where
  | fetchCanvas
  | createNode (spec : CreateNode R)
  | moveNode (node : NodeId) (position : Position R)
  | deleteNode (node : NodeId)
  | updateParameters (node : NodeId) (changes : Table Json)
  | updateMetadata (node : NodeId) (changes : Table Json)
  | updatePorts (node : NodeId) (ports : PortsUpdate)
  | createConnection (spec : CreateConnection)
  | deleteConnection (connection : ConnectionId)
  | clearCanvas
  | setZoom (zoom : R) (center : R × R)
  | pan (dx dy : R)
  | startExecution (mode : ExecutionMode)
  | stepExecution
  | stopExecution
  | createSession (spec : CreateSession)
  | startSession (session : SessionId)
  | stepSession (session : SessionId) (kind : StepKind)
  | stopSession (session : SessionId)
  | runAllSessions (timeout : Span)
  | listSessions
  | searchPattern (spec : PatternSearch R)
  | refactorPattern (spec : PatternRefactor)
  | exportCode (spec : CodeExport R)
  | setParadigm (paradigm : String)

namespace Request

variable {R : Type}

/-- What a request is answered with when it succeeds. -/
abbrev Reply : Request R → Type
  | fetchCanvas => Snapshot R
  | createNode _ => NodeId
  | moveNode _ _ | deleteNode _ => Unit
  | updateParameters _ _ => Parameters
  | updateMetadata _ _ => Metadata
  | updatePorts _ _ => PortsUpdate
  | createConnection _ => ConnectionId
  | deleteConnection _ | clearCanvas => Unit
  | setZoom _ _ | pan _ _ => ViewUpdate R
  | startExecution _ | stepExecution | stopExecution => Json
  | createSession _ | startSession _ => SessionAck
  | stepSession _ _ => StepResponse
  | stopSession _ => Unit
  | runAllSessions _ => RunAllReply
  | listSessions => SessionList
  | searchPattern _ | refactorPattern _ | exportCode _ => Json
  | setParadigm _ => Option String

/-- The name under which a request is recorded. -/
def name : Request R → String
  | fetchCanvas => "fetch_canvas"
  | createNode _ => "create_node"
  | moveNode _ _ => "move_node"
  | deleteNode _ => "delete_node"
  | updateParameters _ _ => "update_node_parameters"
  | updateMetadata _ _ => "update_node_metadata"
  | updatePorts _ _ => "update_node_ports"
  | createConnection _ => "create_connection"
  | deleteConnection _ => "delete_connection"
  | clearCanvas => "clear_canvas"
  | setZoom _ _ => "set_viewport_zoom"
  | pan _ _ => "pan_viewport"
  | startExecution _ => "start_execution"
  | stepExecution => "step_execution"
  | stopExecution => "stop_execution"
  | createSession _ => "create_debug_session"
  | startSession _ => "start_debug_session"
  | stepSession _ _ => "step_debug_session"
  | stopSession _ => "stop_debug_session"
  | runAllSessions _ => "run_all_debug_sessions"
  | listSessions => "list_debug_sessions"
  | searchPattern _ => "pattern_search"
  | refactorPattern _ => "pattern_refactor"
  | exportCode _ => "export_code"
  | setParadigm _ => "set_active_paradigm"

/-- What a request is about, as it is recorded. -/
def target : Request R → Option String
  | createNode spec => some spec.type
  | moveNode node _ | deleteNode node | updateParameters node _ | updateMetadata node _
  | updatePorts node _ => some node
  | createConnection spec => some (spec.source ++ "->" ++ spec.target)
  | deleteConnection connection => some connection
  | createSession spec => some spec.session
  | startSession session | stepSession session _ | stopSession session => some session
  | runAllSessions timeout => some (Nat.repr timeout.wholeSeconds)
  | searchPattern spec => some spec.pattern
  | refactorPattern spec => some spec.search
  | exportCode spec => some spec.language
  | setParadigm paradigm => some paradigm
  | fetchCanvas | clearCanvas | setZoom _ _ | pan _ _ | startExecution _ | stepExecution
  | stopExecution | listSessions => none

end Request

end NodeCanvas
