import NodeCanvas.Push.Event
import NodeCanvas.Push.Frame
/-!
# Listening for pushes

A listener reads what comes over the web socket, answers what has to be answered, and hands on the
events in the order of their arrival, until the stream ends; the reason of the end comes last. When
nobody takes the events any more it stops at the next one.
-/

namespace NodeCanvas

/-- What can happen to a listener. -/
inductive ListenerInput where
  | text (frame : String)
  | binary
  /-- The other side closes, with a reason or without one. -/
  | close (reason : Option String)
  /-- The stream breaks. -/
  | broken (error : String)
  | ended
  /-- From now on nobody takes what the listener hands on. -/
  | forsaken

/-- What a listener hands on. -/
inductive ListenerOutput (R : Type) where
  | push (event : PushEvent R)
  | closed (reason : String)

/-- A listener at work, with what it has sent back and handed on so far, the latest first. -/
structure Listener (R : Type) where
  ids : IdSource
  heard : Bool := true
  running : Bool := true
  sent : List String := []
  outputs : List (ListenerOutput R) := []

namespace Listener

variable {R : Type} [Scalar R]

def reply (l : Listener R) (frame : String) : Listener R := { l with sent := frame :: l.sent }

/-- Hand something on, if anybody takes it. -/
def handOn (l : Listener R) (output : ListenerOutput R) : Listener R :=
  if l.heard then { l with outputs := output :: l.outputs } else { l with running := false }

/-- The end of a listener. -/
def stop (l : Listener R) (reason : String) : Listener R :=
  { l.handOn (.closed reason) with running := false }

/-- What follows a frame. -/
def onFrame (l : Listener R) : Frame → Listener R
  | .opened => l.reply "40"
  | .ping => l.reply "3"
  | .event name payload =>
    let (event, ids) := (PushEvent.decode? name payload).run l.ids
    let l := { l with ids }
    (event.map fun event => l.handOn (.push event)).getD l
  | .close | .namespaceDisconnected => l.stop "backend closed the session"
  | .namespaceConnected | .pong | .unknown => l

/-- What follows an input. -/
def onInput (l : Listener R) : ListenerInput → Listener R
  | .text frame => l.onFrame (Frame.decode frame)
  | .binary => l
  | .close reason => l.stop (reason.getD "closed by backend")
  | .broken error => l.stop ("push stream error: " ++ error)
  | .ended => l.stop "push stream ended"
  | .forsaken => { l with heard := false }

/-- A listener that has stopped takes no further input. -/
def step (l : Listener R) (input : ListenerInput) : Listener R :=
  if l.running then l.onInput input else l

/-- The listener after a sequence of inputs. -/
def run (l : Listener R) (inputs : List ListenerInput) : Listener R := inputs.foldl step l

end Listener

end NodeCanvas
