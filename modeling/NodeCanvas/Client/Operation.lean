import NodeCanvas.Client.Debug
import NodeCanvas.Client.Execution
import NodeCanvas.Client.Graph
import NodeCanvas.Client.Push
import NodeCanvas.Client.Restore
import NodeCanvas.Client.View
/-!
# What a client can be asked to do

Everything that a client does is listed here, once: the calls that may be refused, and all other
operations, among them what it does by itself when a push arrives, when pushes end and when a timer
is due.
-/

namespace NodeCanvas

namespace Client

variable {R σ : Type}

/-- A call that the backend may refuse, or the client itself because it makes no sense. -/
inductive Call (R : Type) where
  | loadFromBackend
  | createNode (spec : CreateNode R)
  | moveNode (node : NodeId) (position : Position R)
  | deleteNode (node : NodeId)
  | updateParameters (node : NodeId) (changes : Table Json)
  | updateMetadata (node : NodeId) (changes : Table Json)
  | updatePorts (node : NodeId) (ports : PortsUpdate)
  | connect (source : NodeId) (sourcePort : String) (target : NodeId) (targetPort : String)
  | disconnect (connection : ConnectionId)
  | clearCanvas
  | setParadigm (paradigm : String)
  | startExecution (mode : ExecutionMode)
  | stepExecution
  | stopExecution
  | searchPattern (pattern language : String)
  | refactorPattern (spec : PatternRefactor)
  | exportCode (language : String) (options : Table Json)
  | createSession (nodes : List NodeId) (options : Table Json)
  | startSession (session : SessionId)
  | stepSession (session : SessionId) (kind : StepKind)
  | stopSession (session : SessionId)
  | runAllSessions (settings : Settings)

namespace Call

/-- What a call results in when it succeeds. -/
abbrev Result : Call R → Type
  | createNode _ => NodeId
  | connect _ _ _ _ => ConnectionId
  | startExecution _ | stepExecution | stopExecution => Json
  | searchPattern _ _ | refactorPattern _ | exportCode _ _ => Json
  | createSession _ _ => SessionId
  | stepSession _ _ => StepResult
  | runAllSessions _ => RunAllReply
  | _ => Unit

/-- What a client does at a call. -/
def attempt [Scalar R] : (call : Call R) → Attempt R σ call.Result
  | loadFromBackend => Client.loadFromBackend
  | createNode spec => Client.createNode spec
  | moveNode node position => Client.moveNode node position
  | deleteNode node => Client.deleteNode node
  | updateParameters node changes => Client.updateParameters node changes
  | updateMetadata node changes => Client.updateMetadata node changes
  | updatePorts node ports => Client.updatePorts node ports
  | connect source sourcePort target targetPort =>
    Client.connect source sourcePort target targetPort
  | disconnect connection => Client.disconnect connection
  | clearCanvas => Client.clearCanvas
  | setParadigm paradigm => Client.setParadigm paradigm
  | startExecution mode => Client.startExecution mode
  | stepExecution => Client.stepExecution
  | stopExecution => Client.stopExecution
  | searchPattern pattern language => Client.searchPattern pattern language
  | refactorPattern spec => Client.refactorPattern spec
  | exportCode language options => Client.exportCode language options
  | createSession nodes options => Client.createSession nodes options
  | startSession session => Client.startSession session
  | stepSession session kind => Client.stepSession session kind
  | stopSession session => Client.stopSession session
  | runAllSessions settings => Client.runAllSessions settings

end Call

/-- What a client can be asked to do, and what it does by itself. -/
inductive Operation (R : Type) where
  | call (c : Call R)
  | setSurface (width height : R)
  | setZoom (factor : R) (anchor : Option (R × R))
  | zoomIn (anchor : Option (R × R))
  | zoomOut (anchor : Option (R × R))
  | panBy (dx dy : R)
  | fitToContent
  | stopAllSessions
  | refreshSessions
  | saveNow
  | exportProject
  | exportText
  | loadUiSettings (settings : Settings)
  | saveUiSettings (ui : UiSettings)
  | restoreSnapshot (snapshot : Snapshot R)
  | restoreSaved
  | importText (text : String)
  | applyPush (push : PushEvent R)
  | pushesClosed (reason : String)
  | pollTimers (now : Instant)

namespace Operation

/-- What an operation results in. -/
abbrev Result : Operation R → Type
  | call c => Except ClientError c.Result
  | setZoom _ _ | zoomIn _ | zoomOut _ | panBy _ _ | fitToContent => Bool
  | stopAllSessions => StopAllReport
  | refreshSessions | saveNow | saveUiSettings _ => Except ClientError Unit
  | exportProject => ProjectFile R
  | exportText => String
  | loadUiSettings _ => Except ClientError UiSettings
  | restoreSnapshot _ => RestoreReport
  | restoreSaved => Except ClientError (Option RestoreReport)
  | importText _ => Except ClientError RestoreReport
  | setSurface _ _ | applyPush _ | pushesClosed _ | pollTimers _ => Unit

/-- What a client does in an operation. -/
def program [Scalar R] [DocumentStore σ] : (op : Operation R) → Program R σ op.Result
  | call c => c.attempt.run
  | setSurface width height => Client.setSurface width height
  | setZoom factor anchor => Client.setZoom factor anchor
  | zoomIn anchor => Client.zoomIn anchor
  | zoomOut anchor => Client.zoomOut anchor
  | panBy dx dy => Client.panBy dx dy
  | fitToContent => Client.fitToContent
  | stopAllSessions => Client.stopAllSessions
  | refreshSessions => Client.refreshSessions.run
  | saveNow => Client.saveNow.run
  | exportProject => Client.exportProject
  | exportText => Client.exportText
  | loadUiSettings settings => (Client.loadUiSettings settings).run
  | saveUiSettings ui => (Client.saveUiSettings ui).run
  | restoreSnapshot snapshot => Client.restoreSnapshot snapshot
  | restoreSaved => Client.restoreSaved.run
  | importText text => (Client.importText text).run
  | applyPush push => Client.applyPush push
  | pushesClosed reason => Client.pushesClosed reason
  | pollTimers now => Client.pollTimers now

end Operation

end Client

end NodeCanvas
