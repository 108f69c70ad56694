import NodeCanvas.Client.Program
/-!
# Running and searching the graph

Requests whose answers are handed on as they are, and the choice of the paradigm.
-/

namespace NodeCanvas.Client

variable {R σ : Type} [Scalar R]

/-- Switch to a paradigm; the backend may answer with another one. -/
def setParadigm (paradigm : String) : Attempt R σ Unit := do
  let answered : Option String ← .ask "Could not switch paradigm" (.setParadigm paradigm)
  let active := answered.getD paradigm
  let changed ← .atomically do
    let before ← Edit.read (·.paradigm)
    Edit.modify fun c => { c with paradigm := some active }
    return before != some active
  if changed then .tell (.paradigmChanged active)

def startExecution (mode : ExecutionMode) : Attempt R σ Json :=
  .ask "Could not start execution" (.startExecution mode)

def stepExecution : Attempt R σ Json := .ask "Could not step execution" .stepExecution

def stopExecution : Attempt R σ Json := do
  let answer : Json ← .ask "Could not stop execution" .stopExecution
  .atomically (Edit.onOverlay (·.reset))
  .tell (.executionChanged false none)
  return answer

/-- Search the code of all nodes on the canvas. -/
def searchPattern (pattern language : String) : Attempt R σ Json := do
  let nodes ← .read (·.graph.nodes.values)
  .ask "Could not search code" (.searchPattern { pattern, language, nodes := some nodes })

/-- Replace a pattern in code; what changed is announced by the backend. -/
def refactorPattern (spec : PatternRefactor) : Attempt R σ Json :=
  .ask "Could not refactor code" (.refactorPattern spec)

/-- Turn the whole graph into code. -/
def exportCode (language : String) (options : Table Json) : Attempt R σ Json := do
  let graph ← .read (·.graph)
  let spec : CodeExport R :=
    { nodes := graph.nodes.values, connections := graph.connections.values, language, options }
  .ask "Could not export code" (.exportCode spec)

end NodeCanvas.Client
