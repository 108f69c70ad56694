import NodeCanvas.Client.Program
/-!
# Debugging

Debug sessions live on the backend; the client keeps what it learns of them. A session that the
backend no longer knows counts as stopped.
-/

namespace NodeCanvas

/-- The outcome of stopping all sessions, each of which succeeds or fails on its own. -/
structure StopAllReport where
  stopped : List SessionId := []
  failed : List (SessionId × RequestError) := []

def StopAllReport.isComplete (r : StopAllReport) : Bool := r.failed.isEmpty

namespace Client

variable {R σ : Type} [Scalar R]

/-- A node as a session runs it. -/
def debugNode (node : Node R) : DebugNode :=
  { id := node.id, code := node.parameters.sourceText.getD "", type := node.type }

/-- The nodes of some ids; fails with the first that is not on the canvas. -/
def debugNodes (graph : Graph R) : List NodeId → Except ClientError (List DebugNode)
  | [] => .ok []
  | id :: ids => do
    match graph.node? id with
    | none => throw (.unknownNode id)
    | some node => return debugNode node :: (← debugNodes graph ids)

/-- Create a session that runs some nodes in order. -/
def createSession (nodes : List NodeId) (options : Table Json) : Attempt R σ SessionId := do
  let specs ← .checked (Edit.read fun c => debugNodes c.graph nodes)
  let session ← .fresh freshId
  let ack : SessionAck ← .ask "Could not create debug session"
    (.createSession { session, nodes := specs, options })
  .atomically (Edit.onDebug fun d => (d.register ack.session nodes ack.state, ()))
  .tell .debugSessionsChanged
  return ack.session

/-- Fail for a session that the client does not know. -/
def requireSession (session : SessionId) : Attempt R σ Unit :=
  .checked do
    if (← Edit.read (·.debug.session? session)).isSome then return .ok ()
    else return .error (.unknownSession session)

/-- Make a change of the sessions, and tell if it was one. -/
def changeSessions (change : Edit R Bool) : Attempt R σ Unit := do
  if ← .atomically change then .tell .debugSessionsChanged

def startSession (session : SessionId) : Attempt R σ Unit := do
  requireSession session
  let ack : SessionAck ← .ask "Could not start debug session" (.startSession session)
  changeSessions (Edit.onDebug (·.setState session ack.state))

def stepSession (session : SessionId) (kind : StepKind) : Attempt R σ StepResult := do
  requireSession session
  let response : StepResponse ← .ask "Debug step failed" (.stepSession session kind)
  changeSessions do
    let now ← Edit.now
    Edit.apply (·.applyDebugStep session response.result now)
  return response.result

def stopSession (session : SessionId) : Attempt R σ Unit := do
  requireSession session
  match ← .send (.stopSession session) with
  | .ok () => pure ()
  | .error cause =>
    unless cause.isNotFound do .refuse "Could not stop debug session" cause
  changeSessions (Edit.apply (·.removeDebugSession session))

/-- Stop sessions one after the other. -/
def stopSessions : List SessionId → Program R σ StopAllReport
  | [] => return {}
  | session :: sessions => do
    match ← .send (.stopSession session) with
    | .ok () => stopped session sessions
    | .error cause =>
      if cause.isNotFound then stopped session sessions
      else
        let report ← stopSessions sessions
        return { report with failed := (session, cause) :: report.failed }
where
  /-- Forget a session and go on. -/
  stopped (session : SessionId) (sessions : List SessionId) : Program R σ StopAllReport := do
    let _ ← .atomically (Edit.apply (·.removeDebugSession session))
    let report ← stopSessions sessions
    return { report with stopped := session :: report.stopped }

def stopAllSessions : Program R σ StopAllReport := do
  let sessions ← .read (·.debug.ids)
  let report ← stopSessions sessions
  unless report.isComplete do
    .notify .warning (Nat.repr report.failed.length ++ " debug session(s) could not be stopped")
  unless report.stopped.isEmpty do
    .tell .debugSessionsChanged
  return report

/-- Run every session to its end. -/
def runAllSessions (settings : Settings) : Attempt R σ RunAllReply := do
  let reply : RunAllReply ←
    .ask "Run all sessions failed" (.runAllSessions settings.runAllTimeout)
  changeSessions (Edit.onDebug (·.applyRunAll reply.results))
  return reply

/-- Take over what the backend knows of its sessions. -/
def refreshSessions : Attempt R σ Unit := do
  match ← .send .listSessions with
  | .error cause => throw (.request cause)
  | .ok listing => changeSessions (Edit.onDebug (·.applyListing listing))

end Client

end NodeCanvas
