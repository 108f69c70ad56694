import NodeCanvas.Time.Span
/-!
# Autosave

A change of the canvas is saved some time after it happened, and every further change puts the save
off again, so that a burst of changes is saved once.
-/

namespace NodeCanvas

/-- What the user is told about saving. -/
inductive SaveStatus where
  | idle
  | saving
  | saved
  | failed
  deriving DecidableEq, Inhabited

def SaveStatus.label : SaveStatus → String
  | .idle => ""
  | .saving => "Saving..."
  | .saved => "Saved"
  | .failed => "Save failed"

/-- A save that may be due at some instant. -/
structure Autosave where
  debounce : Span
  dueAt : Option Instant := none
  deriving DecidableEq

namespace Autosave

/-- Put the save off until nothing has happened for the whole span. -/
def schedule (a : Autosave) (now : Instant) : Autosave :=
  { a with dueAt := some (now + a.debounce) }

def cancel (a : Autosave) : Autosave := { a with dueAt := none }

def isPending (a : Autosave) : Bool := a.dueAt.isSome

/-- Take the save if it is due; it is then no longer pending. -/
def takeDue (a : Autosave) (now : Instant) : Autosave × Bool :=
  match a.dueAt with
  | some dueAt => if dueAt ≤ now then (a.cancel, true) else (a, false)
  | none => (a, false)

end Autosave

end NodeCanvas
