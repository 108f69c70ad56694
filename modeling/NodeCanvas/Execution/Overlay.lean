import NodeCanvas.Execution.Event
import NodeCanvas.Graph.Layout
import NodeCanvas.Debug.Message
import NodeCanvas.Time.Span
/-!
# The execution overlay

What the canvas shows of a running graph: highlighted nodes, markers that travel along connections,
the node that runs now, a log of the latest events and watched variables. Highlights and markers
end at set instants; an ending at exactly the current instant has passed.
-/

namespace NodeCanvas

inductive HighlightState where
  | executing
  | completed (elapsed : Option Span)
  | error (message : String)
  deriving DecidableEq

structure Highlight where
  state : HighlightState
  expiresAt : Instant
  deriving DecidableEq

/-- Data on its way from one node to another. -/
structure FlowMarker (R : Type) where
  connection : Option ConnectionId
  start : Position R
  finish : Position R
  startedAt : Instant
  duration : Span

structure Overlay (R : Type) where
  highlights : Table Highlight := ∅
  markers : List (FlowMarker R) := []
  currentNode : Option NodeId := none
  executing : Bool := false
  log : List ExecutionEvent := []
  logCapacity : Nat
  watches : Table Json := ∅
  highlightDuration : Span
  baseFlowDuration : Span
  speed : Float := 1.0

/-- What an event can ask for that cannot be shown: a span longer than any span. -/
inductive OverlayFault where
  | elapsedTooLong
  deriving DecidableEq

variable {R : Type} [Scalar R]

namespace FlowMarker

def arrivesAt (m : FlowMarker R) : Instant := m.startedAt + m.duration

/-- Where the marker is at an instant. -/
def positionAt (m : FlowMarker R) (now : Instant) : Position R :=
  if m.duration = 0 then m.finish
  else
    let elapsed : Span := now - m.startedAt
    m.start.lerp m.finish
      (Scalar.ofFloat (Span.toSeconds elapsed / Span.toSeconds m.duration))

end FlowMarker

namespace Overlay

/-- An overlay that shows nothing. Its log holds at least one event. -/
def initial (highlightDuration baseFlowDuration : Span) (logCapacity : Nat) : Overlay R :=
  { logCapacity := Nat.max logCapacity 1, highlightDuration, baseFlowDuration }

def leastSpeed : Float := 0.1

/-- Set how fast markers travel; what is no number is ignored. -/
def setSpeed (o : Overlay R) (speed : Float) : Overlay R :=
  if speed.isFinite then { o with speed := Scalar.max speed leastSpeed } else o

/-- How long a marker travels at the current speed. -/
def flowDuration (o : Overlay R) : Span :=
  (Span.ofSeconds? (Span.toSeconds o.baseFlowDuration / o.speed)).getD 0

/-- The markers under way at an instant, each with its place. -/
def markersAt (o : Overlay R) (now : Instant) : List (Option ConnectionId × Position R) :=
  (o.markers.filter fun m => now < m.arrivesAt).map fun m => (m.connection, m.positionAt now)

def highlight? (o : Overlay R) (node : NodeId) : Option Highlight := o.highlights.get? node

/-- Note an event in the log, which keeps only the latest. -/
def appendLog (o : Overlay R) (event : ExecutionEvent) : Overlay R :=
  { o with log := o.log.drop (o.log.length + 1 - o.logCapacity) ++ [event] }

def setHighlight (o : Overlay R) (node : NodeId) (state : HighlightState) (expiresAt : Instant) :
    Overlay R :=
  { o with highlights := o.highlights.insert node ⟨state, expiresAt⟩ }

/-- A node that has finished no longer runs now. -/
def releaseCurrent (o : Overlay R) (node : NodeId) : Overlay R :=
  if o.currentNode = some node then { o with currentNode := none } else o

/-- Show nothing; watched variables stay. -/
def reset (o : Overlay R) : Overlay R :=
  { o with executing := false, currentNode := none, highlights := ∅, markers := [], log := [] }

/-- Show nothing of a node. -/
def clearNode (o : Overlay R) (node : NodeId) : Overlay R :=
  { o with highlights := o.highlights.erase node }.releaseCurrent node

/-- The two nodes between which an event says data flows: those of its connection, or those it
names. -/
def flowEnds? (event : ExecutionEvent) (graph : Graph R) : Option (NodeId × NodeId) :=
  ((event.connection >>= graph.connection?).map fun c => (c.source, c.target)) <|> do
    return (← event.textDatum? "source_node", ← event.textDatum? "target_node")

/-- Send a marker from one node to the other, if both are on the canvas. -/
def addMarker (o : Overlay R) (event : ExecutionEvent) (graph : Graph R) (now : Instant) :
    Overlay R :=
  match flowEnds? event graph with
  | none => o
  | some (source, target) =>
    match graph.nodeCenter? source, graph.nodeCenter? target with
    | some start, some finish =>
      { o with markers := o.markers ++ [⟨event.connection, start, finish, now, o.flowDuration⟩] }
    | _, _ => o

/-- The time that a node took, from the first number under one of the usual names. -/
def elapsedSeconds? (event : ExecutionEvent) : Option Float :=
  (["execution_time", "elapsed", "duration"].findSome? event.numberDatum?).filter
    fun seconds => seconds.isFinite && 0.0 ≤ seconds

/-- What an event does to an overlay, apart from the log. -/
def effect (o : Overlay R) (event : ExecutionEvent) (graph : Graph R) (now : Instant) :
    Except OverlayFault (Overlay R) :=
  match event.kind with
  | .nodeStart | .breakpointHit =>
    match event.node with
    | some node => .ok <| { o with executing := true, currentNode := some node }.setHighlight node
        .executing (now + o.highlightDuration)
    | none => .ok o
  | .nodeComplete =>
    match event.node with
    | some node =>
      let done (elapsed : Option Span) := (o.setHighlight node (.completed elapsed)
        (now + o.highlightDuration)).releaseCurrent node
      match elapsedSeconds? event with
      | none => .ok (done none)
      | some seconds =>
        match Span.ofSeconds? seconds with
        | some elapsed => .ok (done (some elapsed))
        | none => .error .elapsedTooLong
    | none => .ok o
  | .nodeError =>
    match event.node with
    | some node =>
      let message := (event.message <|> event.textDatum? "error").getD "execution failed"
      .ok <| (o.setHighlight node (.error message)
        (now + 2 * o.highlightDuration)).releaseCurrent node
    | none => .ok o
  | .dataFlow => .ok (o.addMarker event graph now)
  | .variableUpdate =>
    match event.textDatum? "name" <|> event.textDatum? "variable" with
    | some name =>
      .ok { o with watches := o.watches.insert name ((event.datum? "value").getD .null) }
    | none => .ok o
  | .executionComplete | .executionError => .ok o.reset
  | .executionPause | .executionResume | .unknown => .ok o

/-- Whether two overlays agree on what runs now. -/
def sameProgress (a b : Overlay R) : Bool :=
  a.executing == b.executing && a.currentNode == b.currentNode

/-- Show an event, and tell whether what runs now changed. -/
def apply (o : Overlay R) (event : ExecutionEvent) (graph : Graph R) (now : Instant) :
    Except OverlayFault (Overlay R × Bool) := do
  let after ← (o.appendLog event).effect event graph now
  return (after, !o.sameProgress after)

/-- Drop the highlights and markers whose time has passed, and tell whether there were any. -/
def expire (o : Overlay R) (now : Instant) : Overlay R × Bool :=
  let highlights := o.highlights.filter fun _ h => now < h.expiresAt
  let markers := o.markers.filter fun m => now < m.arrivesAt
  ({ o with highlights, markers },
    highlights.size != o.highlights.size || markers.length != o.markers.length)

/-- The next instant at which something ends. -/
def nextDeadline (o : Overlay R) : Option Instant :=
  (o.highlights.values.map (·.expiresAt) ++ o.markers.map (·.arrivesAt)).min?

/-- Highlight the node that a debug step ran. -/
def highlightStep (o : Overlay R) (node : NodeId) (status : StepStatus) (now : Instant) :
    Overlay R :=
  let state : HighlightState := match status with
    | .completed => .completed none
    | _ => .executing
  o.setHighlight node state (now + o.highlightDuration)

end Overlay

end NodeCanvas
