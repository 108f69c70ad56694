import NodeCanvas.Backend.Request
import NodeCanvas.Backend.Session
import NodeCanvas.Push.Event
import NodeCanvas.Text.Basic
/-!
# The backend in this process

It keeps a canvas and debug sessions of its own, answers each request at once and announces every
change that it accepts by a push. All calls are recorded. For trying out failures, rules can be
installed that refuse calls of one kind, from some call on, once or always.
-/

namespace NodeCanvas

/-- A request as it was recorded. -/
structure RecordedCall where
  name : String
  target : Option String
  deriving DecidableEq

/-- Refuse calls of one name once `skip` of them have been made, `remaining` times or for ever. -/
structure FailureRule where
  name : String
  skip : Nat := 0
  remaining : Option Nat := none
  error : RequestError

structure Backend (R : Type) where
  nodes : Table (Node R) := ∅
  connections : Table Connection := ∅
  view : View R
  sessions : Table BackendSession := ∅
  paradigm : Option String := none
  /-- How many ids have been given out. -/
  allocated : Nat := 0
  calls : List RecordedCall := []
  failures : List FailureRule := []

/-- A request that was carried out: its reply, the backend after it, and what it announces. -/
structure Accepted (R α : Type) where
  reply : α
  backend : Backend R
  pushes : List (PushEvent R) := []

variable {R : Type} [Scalar R]

namespace FailureRule

/-- Whether a rule refuses the call of a name before which `earlier` calls of it were made. -/
def applies (rule : FailureRule) (name : String) (earlier : Nat) : Bool :=
  rule.name == name && rule.skip ≤ earlier && rule.remaining != some 0

/-- The rule after it refused one call. -/
def used (rule : FailureRule) : FailureRule :=
  { rule with remaining := rule.remaining.map (· - 1) }

/-- The error of the first rule that applies to a call, and the rules after it. -/
def consult (name : String) (earlier : Nat) :
    List FailureRule → Option RequestError × List FailureRule
  | [] => (none, [])
  | rule :: rules =>
    if rule.applies name earlier then (some rule.error, rule.used :: rules)
    else
      let (error, rules) := consult name earlier rules
      (error, rule :: rules)

end FailureRule

namespace Backend

def initial : Backend R := { view := .initial }

/-! ## Set-up -/

def seedNode (b : Backend R) (node : Node R) : Backend R :=
  { b with nodes := b.nodes.insert node.id node }

/-- Refuse every call of a name. -/
def failAlways (b : Backend R) (name : String) (error : RequestError) : Backend R :=
  { b with failures := b.failures ++ [{ name, error }] }

/-- Refuse one call of a name after the first `nth`. -/
def failCall (b : Backend R) (name : String) (nth : Nat) (error : RequestError) : Backend R :=
  { b with failures := b.failures ++ [{ name, skip := nth, remaining := some 1, error }] }

def clearFailures (b : Backend R) : Backend R := { b with failures := [] }

/-- Queue a result for a step of a session. -/
def scriptStep (b : Backend R) (session : SessionId) (result : StepResult) : Backend R :=
  { b with sessions := b.sessions.modify session fun s =>
      { s with scripted := s.scripted ++ [result] } }

def callCount (b : Backend R) (name : String) : Nat := b.calls.countP (·.name == name)

/-! ## Answers -/

/-- Record a call, and find out whether a rule refuses it. -/
def record (b : Backend R) (name : String) (target : Option String) :
    Option RequestError × Backend R :=
  let (error, failures) := FailureRule.consult name (b.callCount name) b.failures
  (error, { b with calls := b.calls ++ [⟨name, target⟩], failures })

/-- A new id. -/
def allocate (b : Backend R) (kind : String) : String × Backend R :=
  (kind ++ "-" ++ Nat.repr (b.allocated + 1), { b with allocated := b.allocated + 1 })

def findNode (b : Backend R) (id : NodeId) : Except RequestError (Node R) :=
  match b.nodes.get? id with
  | some node => .ok node
  | none => .error (.notFound ("node " ++ id ++ " not found"))

def findSession (b : Backend R) (id : SessionId) : Except RequestError BackendSession :=
  match b.sessions.get? id with
  | some session => .ok session
  | none => .error (.notFound ("session " ++ id ++ " not found"))

/-- The new node that a request describes; sides without ports get the usual one. -/
def newNode (id : NodeId) (spec : CreateNode R) : Node R :=
  let node := Node.fresh id spec.type spec.position
  { node with
    parameters := spec.parameters
    metadata := spec.metadata
    inputs := if spec.inputs.isEmpty then node.inputs else spec.inputs
    outputs := if spec.outputs.isEmpty then node.outputs else spec.outputs }

def createNode (b : Backend R) (spec : CreateNode R) : Accepted R NodeId :=
  let (id, b) := b.allocate "node"
  let node := newNode id spec
  ⟨id, { b with nodes := b.nodes.insert id node }, [.nodeAdded node]⟩

/-- Put a changed node in the place of a stored one. -/
def putNode (b : Backend R) (id : NodeId) (node : Node R) : Backend R :=
  { b with nodes := b.nodes.insert id node }

def moveNode (b : Backend R) (id : NodeId) (position : Position R) :
    Except RequestError (Accepted R Unit) := do
  let node ← b.findNode id
  return ⟨(), b.putNode id { node with position }, [.nodeMoved id position]⟩

def deleteNode (b : Backend R) (id : NodeId) : Except RequestError (Accepted R Unit) := do
  let _ ← b.findNode id
  let b := { b with
    nodes := b.nodes.erase id
    connections := b.connections.filter fun _ c => !c.touches id }
  return ⟨(), b, [.nodeRemoved id]⟩

def updateParameters (b : Backend R) (id : NodeId) (changes : Table Json) :
    Except RequestError (Accepted R Parameters) := do
  let node ← b.findNode id
  let parameters := Bag.mergedWith node.parameters changes
  return ⟨parameters, b.putNode id { node with parameters }, [.nodeParametersUpdated id parameters]⟩

def updateMetadata (b : Backend R) (id : NodeId) (changes : Table Json) :
    Except RequestError (Accepted R Metadata) := do
  let node ← b.findNode id
  let metadata := Bag.mergedWith node.metadata changes
  return ⟨metadata, b.putNode id { node with metadata }, [.nodeMetadataUpdated id metadata]⟩

def updatePorts (b : Backend R) (id : NodeId) (ports : PortsUpdate) :
    Except RequestError (Accepted R PortsUpdate) := do
  let node ← b.findNode id
  let node := { node with inputs := ports.inputs, outputs := ports.outputs }
  return ⟨ports, b.putNode id node, [.nodePortsUpdated id ports.inputs ports.outputs]⟩

def createConnection (b : Backend R) (spec : CreateConnection) :
    Except RequestError (Accepted R ConnectionId) := do
  let _ ← b.findNode spec.source
  let _ ← b.findNode spec.target
  if spec.source = spec.target then
    throw (.rejected ⟨.validation, "cannot connect a node to itself"⟩)
  let (id, b) := b.allocate "conn"
  let connection : Connection :=
    { id, source := spec.source, sourcePort := spec.sourcePort, target := spec.target,
      targetPort := spec.targetPort }
  let b := { b with connections := b.connections.insert id connection }
  return ⟨id, b, [.connectionAdded connection]⟩

def deleteConnection (b : Backend R) (id : ConnectionId) :
    Except RequestError (Accepted R Unit) :=
  if b.connections.contains id then
    .ok ⟨(), { b with connections := b.connections.erase id }, [.connectionRemoved id]⟩
  else .error (.notFound ("connection " ++ id ++ " not found"))

def clearCanvas (b : Backend R) : Accepted R Unit :=
  ⟨(), { b with nodes := ∅, connections := ∅ }, [.canvasCleared]⟩

/-- Take over a view and announce it. -/
def display (b : Backend R) (view : View R) : Accepted R (ViewUpdate R) :=
  ⟨view.toUpdate, { b with view }, [.viewportChanged view.toUpdate]⟩

def createSession (b : Backend R) (spec : CreateSession) : Accepted R SessionAck :=
  ⟨⟨spec.session, .created⟩,
    { b with sessions := b.sessions.insert spec.session { nodes := spec.nodes } }, []⟩

def startSession (b : Backend R) (id : SessionId) :
    Except RequestError (Accepted R SessionAck) := do
  let session ← b.findSession id
  let b := { b with sessions := b.sessions.insert id { session with state := .running } }
  return ⟨⟨id, .running⟩, b, [.debugSessionStarted id .running]⟩

def stepSession (b : Backend R) (id : SessionId) :
    Except RequestError (Accepted R StepResponse) := do
  let session ← b.findSession id
  let (session, result) := session.step id
  let b := { b with sessions := b.sessions.insert id session }
  return ⟨⟨id, result⟩, b, [.debugStepExecuted id result]⟩

def stopSession (b : Backend R) (id : SessionId) : Except RequestError (Accepted R Unit) := do
  let _ ← b.findSession id
  return ⟨(), { b with sessions := b.sessions.erase id }, [.debugSessionStopped id]⟩

def runAllSessions (b : Backend R) : Accepted R RunAllReply :=
  let sessions := b.sessions.mapValues fun _ session => session.runAll
  let results := sessions.mapValues fun _ session => session.report
  ⟨⟨results⟩, { b with sessions }, [.allSessionsCompleted results]⟩

/-- The nodes whose code a pattern occurs in. -/
def searchPattern (b : Backend R) (pattern : String) : Json :=
  let found := b.nodes.values.filter fun node =>
    node.parameters.sourceText.any (Text.contains · pattern)
  .object [("matches", .array (found.map fun node => .object [("node_id", .string node.id)])),
    ("pattern", .string pattern)]

/-- The code of a node after a replacement, if the node is in its scope and the pattern occurs. -/
def refactored? (spec : PatternRefactor) (node : Node R) : Option String := do
  guard (spec.scope.all (·.contains node.id))
  let code ← node.parameters.sourceText
  guard (Text.contains code spec.search)
  return Text.replace code spec.search spec.replacement

/-- The node with other code. -/
def withCode (node : Node R) (code : String) : Node R :=
  { node with parameters := { node.parameters with sourceCode := some code } }

/-- Replace a pattern in the code of nodes. Unless it is to be applied, only show the outcome. -/
def refactorPattern (b : Backend R) (spec : PatternRefactor) : Accepted R Json :=
  let changed := b.nodes.values.filterMap fun node =>
    (refactored? spec node).map fun code => (node.id, code)
  let results : Json := .array <| changed.map fun (id, code) =>
    .object [("node_id", .string id), ("refactored_code", .string code)]
  let reply : Json := .object [("applied", .bool spec.apply), ("results", results)]
  if spec.apply then
    let nodes := b.nodes.mapValues fun _ node =>
      match refactored? spec node with
      | some code => withCode node code
      | none => node
    ⟨reply, { b with nodes }, changed.map fun (id, code) =>
      .nodeUpdated id (Table.empty.insert "source_code" (.string code))⟩
  else ⟨reply, b, []⟩

/-- The code of nodes, one after the other. -/
def exportCode (spec : CodeExport R) : Json :=
  let code := "\n\n".intercalate (spec.nodes.filterMap (·.parameters.sourceText))
  .object [("code", .string code), ("language", .string spec.language)]

/-- Carry out a request that no rule refuses. -/
def perform (b : Backend R) : (r : Request R) → Except RequestError (Accepted R r.Reply)
  | .fetchCanvas => .ok ⟨⟨b.nodes.values, b.connections.values, b.view⟩, b, []⟩
  | .createNode spec => .ok (b.createNode spec)
  | .moveNode node position => b.moveNode node position
  | .deleteNode node => b.deleteNode node
  | .updateParameters node changes => b.updateParameters node changes
  | .updateMetadata node changes => b.updateMetadata node changes
  | .updatePorts node ports => b.updatePorts node ports
  | .createConnection spec => b.createConnection spec
  | .deleteConnection connection => b.deleteConnection connection
  | .clearCanvas => .ok b.clearCanvas
  | .setZoom zoom center => .ok (b.display (b.view.zoomAbout (clampZoom zoom) center))
  | .pan dx dy => .ok (b.display (b.view.panBy dx dy))
  | .startExecution mode =>
    .ok ⟨.object [("mode", toJson mode), ("nodes", .ofNat b.nodes.size)], b, []⟩
  | .stepExecution => .ok ⟨.object [("stepped", .bool true)], b, []⟩
  | .stopExecution => .ok ⟨.object [("stopped", .bool true)], b, []⟩
  | .createSession spec => .ok (b.createSession spec)
  | .startSession session => b.startSession session
  | .stepSession session _ => b.stepSession session
  | .stopSession session => b.stopSession session
  | .runAllSessions _ => .ok b.runAllSessions
  | .listSessions => .ok ⟨⟨b.sessions.entries.map fun (id, session) => session.info id⟩, b, []⟩
  | .searchPattern spec => .ok ⟨b.searchPattern spec.pattern, b, []⟩
  | .refactorPattern spec => .ok (b.refactorPattern spec)
  | .exportCode spec => .ok ⟨exportCode spec, b, []⟩
  | .setParadigm paradigm =>
    .ok ⟨some paradigm, { b with paradigm := some paradigm }, [.paradigmChanged paradigm]⟩

/-- Answer a request: the reply or why there is none, the backend after it, and the pushes. -/
def answer (b : Backend R) (r : Request R) :
    Except RequestError r.Reply × Backend R × List (PushEvent R) :=
  match b.record r.name r.target with
  | (some error, b) => (.error error, b, [])
  | (none, b) =>
    match b.perform r with
    | .ok done => (.ok done.reply, done.backend, done.pushes)
    | .error error => (.error error, b, [])

end Backend

end NodeCanvas
