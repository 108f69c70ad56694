import NodeCanvas.Debug.Message
/-!
# Debug sessions of the backend

A session runs its nodes in order, one at each step, and keeps a table of their results. Results can
be queued up in advance; a step then answers with the oldest of them.
-/

namespace NodeCanvas

structure BackendSession where
  nodes : List DebugNode
  state : SessionState := .created
  cursor : Nat := 0
  scripted : List StepResult := []
  results : Table Json := ∅

namespace BackendSession

/-- What running a node yields. -/
def outcome (node : DebugNode) : Json := .object [("executed", .string node.code)]

/-- The variables that a step of a session leaves behind. -/
def stepVariables (id : SessionId) (node : DebugNode) (cursor : Nat) : Table Json :=
  (Table.empty.insert "last_node" (.string node.id)).insert ("_" ++ id ++ "_cursor")
    (.ofNat (cursor + 1))

/-- The result of the next step when none is queued: the node at the cursor, or the whole table once
all nodes have run. -/
def nextResult (s : BackendSession) (id : SessionId) : StepResult :=
  match s.nodes[s.cursor]? with
  | some node =>
    { status := .stepped, node := some node.id, result := outcome node,
      written := stepVariables id node s.cursor }
  | none => { status := .completed, result := .ofTable s.results }

/-- The session after a step with a result. -/
def advance (s : BackendSession) (result : StepResult) : BackendSession :=
  { s with
    state := result.status.nextState
    cursor := if result.status.nextState = .running then s.cursor + 1 else s.cursor
    results := match result.node with
      | some node => s.results.insert node result.result
      | none => s.results }

/-- Make one step. -/
def step (s : BackendSession) (id : SessionId) : BackendSession × StepResult :=
  match s.scripted with
  | result :: scripted => ({ s with scripted }.advance result, result)
  | [] =>
    let result := s.nextResult id
    (s.advance result, result)

/-- The nodes from a place on, which must not be past their end. -/
def nodesFrom (s : BackendSession) (start : Nat) (_ : start ≤ s.nodes.length) : List DebugNode :=
  s.nodes.drop start

/-- Run the nodes that are left: none if queued results have moved the cursor past the end. -/
def runAll (s : BackendSession) : BackendSession :=
  { s with
    state := .completed
    cursor := s.nodes.length
    results := (s.nodesFrom (min s.cursor s.nodes.length) (Nat.min_le_right ..)).foldl
      (fun results node => results.insert node.id (outcome node)) s.results }

/-- The node that ran last. -/
def currentNode (s : BackendSession) : Option NodeId :=
  if s.cursor = 0 then none else s.nodes[s.cursor - 1]?.map (·.id)

def info (s : BackendSession) (id : SessionId) : SessionInfo :=
  { id, state := s.state, currentNode := s.currentNode, results := s.results }

/-- What is reported of a session that ran to its end. -/
def report (s : BackendSession) : Json :=
  .object [("results", .ofTable s.results), ("state", toJson s.state)]

end BackendSession

end NodeCanvas
