import NodeCanvas.Canvas
import NodeCanvas.Backend.Request
import NodeCanvas.Document.Canvas
/-!
# Client programs

What a client does is a program: a sequence of sections on the canvas, requests to the backend,
accesses to the document store and draws of fresh identifiers. Between any two of them other
programs may run on the same canvas; each step by itself is not interrupted. `Program.runWith` runs
a program to its end in a world, given how requests are handled there.
-/

namespace NodeCanvas

/-- A program over a document store of type `σ` that ends with a value. -/
inductive Program (R σ : Type) : Type → Type 1 where
  /-- The end. -/
  | done {α : Type} (value : α) : Program R σ α
  /-- A section on the canvas. -/
  | edit {α β : Type} (body : Edit R β) (next : β → Program R σ α) : Program R σ α
  /-- Tell subscribers something outside of a section. -/
  | announce {α : Type} (event : Event R) (next : Program R σ α) : Program R σ α
  /-- Draw fresh identifiers. -/
  | draw {α β : Type} (body : Drawing β) (next : β → Program R σ α) : Program R σ α
  /-- Send a request and wait for the reply. -/
  | request {α : Type} (call : Request R)
      (next : Except RequestError call.Reply → Program R σ α) : Program R σ α
  /-- Use the document store. -/
  | store {α β : Type} (body : σ → β × σ) (next : β → Program R σ α) : Program R σ α
  /-- Break down. -/
  | abort {α : Type} (fault : OverlayFault) : Program R σ α

namespace Program

variable {R σ : Type}

/-- Run one program and then another that depends on its value. -/
def bind {α β : Type} : Program R σ α → (α → Program R σ β) → Program R σ β
  | done value, f => f value
  | edit body next, f => edit body fun b => (next b).bind f
  | announce event next, f => announce event (next.bind f)
  | draw body next, f => draw body fun b => (next b).bind f
  | request call next, f => request call fun reply => (next reply).bind f
  | store body next, f => store body fun b => (next b).bind f
  | abort fault, _ => abort fault

instance : Monad (Program R σ) where
  pure := done
  bind := bind

/-- A section as a program. -/
def atomically {α : Type} (body : Edit R α) : Program R σ α := edit body done

/-- Look at the canvas in a section of its own. -/
def read {α : Type} (f : Canvas R → α) : Program R σ α := edit (Edit.read f) done

def tell (event : Event R) : Program R σ Unit := announce event (done ())

def notify (level : NotificationLevel) (message : String) : Program R σ Unit :=
  tell (.notification level message)

def fresh {α : Type} (body : Drawing α) : Program R σ α := draw body done

def send (call : Request R) : Program R σ (Except RequestError call.Reply) := request call done

def access {α : Type} (body : σ → α × σ) : Program R σ α := store body done

/-- Look at the store without changing it. -/
def consult {α : Type} (body : σ → α) : Program R σ α := access fun s => (body s, s)

end Program

/-! ## Attempts -/

/-- Why a client could not do what it was asked. -/
inductive ClientError where
  | request (cause : RequestError)
  | graph (cause : GraphError)
  | document (cause : DocumentError)
  | unknownNode (node : NodeId)
  | unknownConnection (connection : ConnectionId)
  | unknownSession (session : SessionId)

def ClientError.message : ClientError → String
  | .request cause => cause.message
  | .graph cause => cause.message
  | .document cause => cause.message
  | .unknownNode node => "unknown node " ++ node
  | .unknownConnection connection => "unknown connection " ++ connection
  | .unknownSession session => "unknown debug session " ++ session

/-- A program that may fail. -/
abbrev Attempt (R σ : Type) := ExceptT ClientError (Program R σ)

namespace Attempt

variable {R σ : Type}

/-- A program that does not fail. -/
def always {α : Type} (program : Program R σ α) : Attempt R σ α := ExceptT.lift program

/-- A section as an attempt. -/
def atomically {α : Type} (body : Edit R α) : Attempt R σ α := always (.atomically body)

/-- The value of a section that may fail. -/
def checked {α : Type} (body : Edit R (Except ClientError α)) : Attempt R σ α :=
  ExceptT.mk (Program.atomically body)

def read {α : Type} (f : Canvas R → α) : Attempt R σ α := always (.read f)

def tell (event : Event R) : Attempt R σ Unit := always (.tell event)

def fresh {α : Type} (body : Drawing α) : Attempt R σ α := always (.fresh body)

def send (call : Request R) : Attempt R σ (Except RequestError call.Reply) := always (.send call)

def access {α : Type} (body : σ → α × σ) : Attempt R σ α := always (.access body)

def consult {α : Type} (body : σ → α) : Attempt R σ α := always (.consult body)

/-- Give up because of a failed request, and tell the user what could not be done. -/
def refuse {α : Type} (complaint : String) (cause : RequestError) : Attempt R σ α := do
  tell (.notification .error (complaint ++ ": " ++ cause.message))
  throw (.request cause)

/-- Send a request; if it fails, tell the user what could not be done. -/
def ask (complaint : String) (call : Request R) : Attempt R σ call.Reply := do
  match ← send call with
  | .ok reply => return reply
  | .error cause => refuse complaint cause

/-- A result about documents. -/
def document {α : Type} (result : Except DocumentError α) : Attempt R σ α :=
  match result with
  | .ok value => return value
  | .error cause => throw (.document cause)

end Attempt

/-! ## Worlds -/

/-- Where a program runs: the canvas, the document store, the identifiers, the time, what has been
told so far, and the far side, of whatever kind it is. -/
structure World (R σ ε : Type) where
  canvas : Canvas R
  store : σ
  ids : IdSource
  moment : Moment
  events : List (Event R) := []
  remote : ε

/-- How a request is answered in a world. Other programs may run before the reply arrives. -/
abbrev Handler (R σ ε : Type) :=
  (call : Request R) → World R σ ε →
    Except OverlayFault (Except RequestError call.Reply × World R σ ε)

variable {R σ ε : Type}

/-- Run a program to its end. -/
def Program.runWith {α : Type} (handle : Handler R σ ε) :
    Program R σ α → World R σ ε → Except OverlayFault (α × World R σ ε)
  | .done value, w => .ok (value, w)
  | .edit body next, w =>
    let outcome := body w.moment w.canvas
    (next outcome.value).runWith handle
      { w with canvas := outcome.canvas, events := w.events ++ outcome.events }
  | .announce event next, w => next.runWith handle { w with events := w.events ++ [event] }
  | .draw body next, w =>
    let (b, ids) := body.run w.ids
    (next b).runWith handle { w with ids }
  | .request call next, w =>
    match handle call w with
    | .ok (reply, w) => (next reply).runWith handle w
    | .error fault => .error fault
  | .store body next, w =>
    let (b, changed) := body w.store
    (next b).runWith handle { w with store := changed }
  | .abort fault, _ => .error fault

end NodeCanvas
