import NodeCanvas.Backend.InProcess
import NodeCanvas.Client.Push
import NodeCanvas.Client.Restore
/-!
# Sessions

A session runs a client against the backend in this process. Pushes of the backend wait in a queue
until they are pumped to the client by hand, or are forwarded to a dispatcher. Time stands still
and moves only by `advance`. For trying out interleavings, actions can be hooked to a call: they run
after the backend has answered it and before the client sees the answer.
-/

namespace NodeCanvas

variable {R : Type} [Scalar R]

/-! ## The far side -/

/-- A backend and the pushes that have not been delivered. -/
structure Link (R : Type) where
  backend : Backend R
  pushes : List (PushEvent R) := []
  /-- Whether anyone takes the pushes; otherwise they are lost. -/
  subscribed : Bool := true

/-- Answer a request at once and queue the pushes. -/
def Link.answer (link : Link R) (call : Request R) : Except RequestError call.Reply × Link R :=
  let (reply, backend, pushes) := link.backend.answer call
  (reply, { link with
    backend, pushes := if link.subscribed then link.pushes ++ pushes else link.pushes })

/-- A world over a store in memory and a backend in this process. -/
abbrev LocalWorld (R : Type) := World R MemoryStore (Link R)

/-- Answer requests with nothing happening in between. -/
def Link.handle : Handler R MemoryStore (Link R) := fun call w =>
  let (reply, remote) := w.remote.answer call
  .ok (reply, { w with remote })

namespace World

/-- Run a program with nothing happening in between. -/
def run {α : Type} (w : LocalWorld R) (program : Program R MemoryStore α) :
    Except OverlayFault (α × LocalWorld R) :=
  program.runWith Link.handle w

/-- Run a program for what it does. -/
def exec (w : LocalWorld R) (program : Program R MemoryStore Unit) :
    Except OverlayFault (LocalWorld R) := do
  return (← w.run program).2

/-- Apply pushes in order. -/
def applyAll (w : LocalWorld R) : List (PushEvent R) → Except OverlayFault (LocalWorld R)
  | [] => .ok w
  | push :: pushes => do applyAll (← w.exec (Client.applyPush push)) pushes

/-- Apply the oldest pushes in the queue, at most so many; answers how many there were. -/
def pump (w : LocalWorld R) (most : Option Nat) : Except OverlayFault (Nat × LocalWorld R) := do
  let count := (most.getD w.remote.pushes.length).min w.remote.pushes.length
  let pushes := w.remote.pushes.take count
  let w := { w with remote := { w.remote with pushes := w.remote.pushes.drop count } }
  return (count, ← w.applyAll pushes)

/-- Fire the timers that are due. -/
def poll (w : LocalWorld R) : Except OverlayFault (LocalWorld R) :=
  w.exec (Client.pollTimers w.moment.now)

/-- Let time pass. -/
def wait (w : LocalWorld R) (span : Span) : LocalWorld R :=
  { w with moment := { w.moment with now := w.moment.now + span } }

/-- Decode a push and apply it; answers whether it could be decoded. -/
def push (w : LocalWorld R) (name : String) (payload : Json) :
    Except OverlayFault (Bool × LocalWorld R) := do
  let (decoded, ids) := (PushEvent.decode? (R := R) name payload).run w.ids
  let w := { w with ids }
  match decoded with
  | some push => return (true, ← w.exec (Client.applyPush push))
  | none => return (false, w)

end World

/-! ## Hooks -/

/-- What can happen between the answer of the backend and its arrival. -/
inductive HookAction where
  | push (name : String) (payload : Json)
  | pump
  | poll
  | wait (span : Span)

/-- Actions for the call of a name before which `nth` others of that name were made. -/
structure Hook where
  call : String
  nth : Nat
  actions : List HookAction

namespace HookAction

/-- Do what an action says. Forwarded pushes are not there to be pumped. -/
def perform (forwarding : Bool) (w : LocalWorld R) : HookAction → Except OverlayFault (LocalWorld R)
  | push name payload => do return (← w.push name payload).2
  | pump => if forwarding then .ok w else do return (← w.pump none).2
  | poll => w.poll
  | wait span => .ok (w.wait span)

def performAll (forwarding : Bool) (w : LocalWorld R) :
    List HookAction → Except OverlayFault (LocalWorld R)
  | [] => .ok w
  | action :: actions => do performAll forwarding (← action.perform forwarding w) actions

end HookAction

/-- Answer requests and then run the actions that are hooked to them. -/
def Hook.handle (hooks : List Hook) (forwarding : Bool) : Handler R MemoryStore (Link R) :=
  fun call w => do
    let nth := w.remote.backend.callCount call.name
    let (reply, w) ← Link.handle call w
    let hooked := hooks.filter fun hook => hook.call == call.name && hook.nth == nth
    return (reply, ← HookAction.performAll forwarding w (hooked.flatMap (·.actions)))

/-! ## The dispatcher -/

/-- What a dispatcher is sent. -/
inductive DispatchMessage (R : Type) where
  | push (event : PushEvent R)
  | closed (reason : String)
  | shutdown

/-- A dispatcher handles messages in the order of their arrival, and between them polls the timers
once per frame. -/
structure Dispatcher where
  interval : Span
  nextTick : Instant

namespace Dispatcher

/-- The first frame after an instant. Frames that were missed are left out. -/
def after (d : Dispatcher) (now : Instant) : Dispatcher :=
  { d with nextTick := d.nextTick + ((now - d.nextTick) / d.interval + 1) * d.interval }

/-- Poll the timers if a frame is due. -/
def tick (d : Dispatcher) (w : LocalWorld R) : Except OverlayFault (Dispatcher × LocalWorld R) :=
  if d.nextTick ≤ w.moment.now then do return (d.after w.moment.now, ← w.poll)
  else .ok (d, w)

/-- Let time pass up to an instant, with all frames on the way. The fuel is a bound on their
number. -/
def waitUntil (d : Dispatcher) (w : LocalWorld R) (target : Instant) :
    Nat → Except OverlayFault (Dispatcher × LocalWorld R)
  | 0 => .ok (d, w.wait (target - w.moment.now))
  | fuel + 1 =>
    if d.nextTick ≤ target then do
      let (d, w) ← d.tick (w.wait (d.nextTick - w.moment.now))
      d.waitUntil w target fuel
    else .ok (d, w.wait (target - w.moment.now))

/-- Handle messages in order; answers whether the dispatcher goes on. -/
def handleAll (w : LocalWorld R) :
    List (DispatchMessage R) → Except OverlayFault (Bool × LocalWorld R)
  | [] => .ok (true, w)
  | .push event :: messages => do handleAll (← w.exec (Client.applyPush event)) messages
  | .closed reason :: messages => do handleAll (← w.exec (Client.pushesClosed reason)) messages
  | .shutdown :: _ => .ok (false, w)

end Dispatcher

/-! ## Sessions -/

structure Session (R : Type) where
  settings : Settings
  world : LocalWorld R
  hooks : List Hook := []
  dispatcher : Option Dispatcher := none
  /-- Whether pushes are forwarded to the dispatcher. -/
  forwarding : Bool := false

namespace Session

def initial (settings : Settings) (ids : IdSource) (clock : Timestamp) : Session R where
  settings
  world :=
    { canvas := .initial settings, store := {}, ids, moment := ⟨0, clock⟩,
      remote := { backend := .initial } }

def onWorld (s : Session R) (f : LocalWorld R → LocalWorld R) : Session R :=
  { s with world := f s.world }

def onBackend (s : Session R) (f : Backend R → Backend R) : Session R :=
  s.onWorld fun w => { w with remote := { w.remote with backend := f w.remote.backend } }

def onStore (s : Session R) (f : MemoryStore → MemoryStore) : Session R :=
  s.onWorld fun w => { w with store := f w.store }

/-- Run a program of the client. -/
def run {α : Type} (s : Session R) (program : Program R MemoryStore α) :
    Except OverlayFault (α × Session R) := do
  let (value, world) ← program.runWith (Hook.handle s.hooks s.forwarding) s.world
  return (value, { s with world })

/-- Send messages to the dispatcher and let it handle them. -/
def dispatch (s : Session R) (messages : List (DispatchMessage R)) :
    Except OverlayFault (Session R) := do
  if s.dispatcher.isNone then return s
  let (goesOn, world) ← Dispatcher.handleAll s.world messages
  return { s with world, dispatcher := if goesOn then s.dispatcher else none }

/-- Take the pushes out of the queue. -/
def takePushes (s : Session R) : List (PushEvent R) × Session R :=
  (s.world.remote.pushes,
    s.onWorld fun w => { w with remote := { w.remote with pushes := [] } })

/-- Let the dispatcher do what is to be done now: forwarded pushes first, then a frame. -/
def settle (s : Session R) : Except OverlayFault (Session R) := do
  let s ←
    if s.forwarding then
      let (pushes, s) := s.takePushes
      s.dispatch (pushes.map .push)
    else pure s
  match s.dispatcher with
  | none => return s
  | some d =>
    let (d, world) ← d.tick s.world
    return { s with world, dispatcher := some d }

/-- Pump by hand, which moves nothing while pushes are forwarded. -/
def pump (s : Session R) (most : Option Nat) : Except OverlayFault (Nat × Session R) := do
  if s.forwarding then return (0, s)
  let (count, world) ← s.world.pump most
  return (count, { s with world })

/-- Throw away the oldest pushes in the queue, at most so many. -/
def dropPushes (s : Session R) (most : Option Nat) : Nat × Session R :=
  if s.forwarding then (0, s)
  else
    let pushes := s.world.remote.pushes
    let count := (most.getD pushes.length).min pushes.length
    (count, s.onWorld fun w => { w with remote := { w.remote with pushes := pushes.drop count } })

def push (s : Session R) (name : String) (payload : Json) :
    Except OverlayFault (Bool × Session R) := do
  let (decoded, world) ← s.world.push name payload
  return (decoded, { s with world })

/-- Let time pass; a dispatcher polls the timers at every frame. -/
def advance (s : Session R) (span : Span) : Except OverlayFault (Session R) := do
  match s.dispatcher with
  | none => return s.onWorld (·.wait span)
  | some d =>
    let (d, world) ← d.waitUntil s.world (s.world.moment.now + span) (span / d.interval + 2)
    return { s with world, dispatcher := some d }

def poll (s : Session R) : Except OverlayFault (Session R) := do
  return { s with world := ← s.world.poll }

/-- Start a dispatcher, whose first frame is now. -/
def startDispatcher (s : Session R) (forward : Bool) : Session R :=
  { s with
    dispatcher := some ⟨s.settings.frameInterval, s.world.moment.now⟩
    forwarding := s.forwarding || (forward && s.world.remote.subscribed) }

/-- The message to the dispatcher that a named push stands for. -/
def decodeMessage (s : Session R) (name : String) (payload : Json) :
    Option (DispatchMessage R) × Session R :=
  let (decoded, ids) := (PushEvent.decode? (R := R) name payload).run s.world.ids
  (decoded.map .push, s.onWorld fun w => { w with ids })

/-- Stop the dispatcher. Pushes that it was to be forwarded are lost from now on. -/
def stopDispatcher (s : Session R) : Session R :=
  let s := { s with dispatcher := none }
  if s.forwarding then
    { s with forwarding := false }.onWorld fun w =>
      { w with remote := { w.remote with pushes := [], subscribed := false } }
  else s

/-- Why a dispatcher is told that the pushes have ended when another queue takes its place. -/
def replacedReason : String := "in-process backend dropped"

/-- Let the backend push to a new queue. -/
def resubscribe (s : Session R) : Except OverlayFault (Session R) := do
  let forwarded := s.forwarding
  let s := { s with forwarding := false }.onWorld fun w =>
    { w with remote := { w.remote with pushes := [], subscribed := true } }
  if forwarded then s.dispatch [.closed replacedReason] else return s

end Session

end NodeCanvas
