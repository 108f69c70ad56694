import NodeCanvas.Debug.Message
import NodeCanvas.Debug.Namespace
/-!
# Debug sessions

The sessions that the client knows, each with the log of its steps. A step reaches the client twice,
as the answer to the request and as a push; a result equal to the last one of its session is taken
for the second arrival and not logged again.
-/

namespace NodeCanvas

/-- A logged step. -/
structure StepRecord where
  index : Nat
  node : Option NodeId
  status : StepStatus
  result : Json
  deriving BEq

structure DebugSession where
  id : SessionId
  state : SessionState
  nodes : List NodeId
  steps : List StepRecord := []
  currentNode : Option NodeId := none
  deriving BEq

structure DebugSessions where
  sessions : Table DebugSession := ∅
  shared : SharedNamespace := {}

/-- Whether a logged step is the same result. -/
def StepRecord.isResult (step : StepRecord) (result : StepResult) : Bool :=
  step.node == result.node && step.status == result.status && step.result == result.result

/-- The session after one more step. -/
def DebugSession.addStep (session : DebugSession) (result : StepResult) : DebugSession :=
  { session with
    steps := session.steps ++ [⟨session.steps.length, result.node, result.status, result.result⟩]
    state := result.status.nextState
    currentNode := result.node <|> session.currentNode }

namespace DebugSessions

def session? (d : DebugSessions) (id : SessionId) : Option DebugSession := d.sessions.get? id

def ids (d : DebugSessions) : List SessionId := d.sessions.keys

/-- Add a session; one that is known only changes its state. -/
def register (d : DebugSessions) (id : SessionId) (nodes : List NodeId) (state : SessionState) :
    DebugSessions :=
  match d.session? id with
  | some session => { d with sessions := d.sessions.insert id { session with state } }
  | none => { d with sessions := d.sessions.insert id { id, state, nodes } }

/-- Set the state of a session, which is added if it is unknown; tells whether that is a change. -/
def setState (d : DebugSessions) (id : SessionId) (state : SessionState) : DebugSessions × Bool :=
  match d.session? id with
  | some session =>
    if session.state = state then (d, false)
    else ({ d with sessions := d.sessions.insert id { session with state } }, true)
  | none => (d.register id [] state, true)

/-- Log a step of a known session, unless it repeats the last one, and publish its variables. -/
def recordStep (d : DebugSessions) (id : SessionId) (result : StepResult) : DebugSessions × Bool :=
  match d.session? id with
  | none => (d, false)
  | some session =>
    if session.steps.getLast?.any (·.isResult result) then (d, false)
    else
      ({ sessions := d.sessions.insert id (session.addStep result)
         shared := d.shared.publish id result.written }, true)

def remove (d : DebugSessions) (id : SessionId) : DebugSessions × Option DebugSession :=
  match d.session? id with
  | none => (d, none)
  | some session => ({ d with sessions := d.sessions.erase id }, some session)

/-- Take over the outcome of one session that ran to its end. An error leaves the session as it
was; a missing or strange state counts as completed. -/
def applyOutcome (d : DebugSessions) (id : SessionId) (outcome : Json) : DebugSessions × Bool :=
  if (outcome.get? "error" >>= Json.text?).isSome then (d, false)
  else
    let state : SessionState := (outcome.get? "state" >>= ofJson?).getD .completed
    let (d, changed) := d.setState id state
    match outcome.get? "variables" >>= Json.table? with
    | some written => ({ d with shared := d.shared.publish id written }, changed)
    | none => (d, changed)

/-- Take over the outcomes of all sessions. -/
def applyRunAll (d : DebugSessions) (results : Table Json) : DebugSessions × Bool :=
  results.entries.foldl
    (fun (d, changed) entry =>
      let (d, more) := d.applyOutcome entry.1 entry.2
      (d, changed || more))
    (d, false)

/-- Take over what the backend lists of one session. -/
def applyInfo (d : DebugSessions) (info : SessionInfo) : DebugSessions × Bool :=
  let (d, changed) := d.setState info.id info.state
  match d.session? info.id with
  | some session =>
    if info.currentNode.isSome ∧ session.currentNode ≠ info.currentNode then
      let session := { session with currentNode := info.currentNode }
      ({ d with sessions := d.sessions.insert info.id session }, true)
    else (d, changed)
  | none => (d, changed)

def applyListing (d : DebugSessions) (listing : SessionList) : DebugSessions × Bool :=
  listing.sessions.foldl
    (fun (d, changed) info =>
      let (d, more) := d.applyInfo info
      (d, changed || more))
    (d, false)

end DebugSessions

end NodeCanvas
