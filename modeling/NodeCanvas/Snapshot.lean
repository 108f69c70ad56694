import NodeCanvas.Node
import NodeCanvas.Viewport
import NodeCanvas.Time.Timestamp
/-!
# Saved canvases

A snapshot is the whole graph and the view onto it. A project file adds the name of the project,
the time it was saved and the tabs that were open.
-/

namespace NodeCanvas

structure Snapshot (R : Type) where
  nodes : List (Node R) := []
  connections : List Connection := []
  view : View R

variable {R : Type} [Scalar R]

namespace Snapshot

def empty : Snapshot R := { view := .initial }

def isEmpty (s : Snapshot R) : Bool := s.nodes.isEmpty && s.connections.isEmpty

def shape : Shape :=
  .record [("nodes", .list Node.shape), ("connections", .list Connection.shape),
    ("viewport", .flat ["zoom", "pan_x", "pan_y"])]

instance : JsonForm (Snapshot R) where
  shape := shape
  ofJson? value := do
    let fields ← value.record? shape
    return {
      nodes := ← Json.defaulted fields "nodes" [] ofJson?
      connections := ← Json.defaulted fields "connections" [] ofJson?
      view := ← Json.defaulted fields "viewport" .initial ofJson? }
  toJson s := .object [("nodes", toJson s.nodes), ("connections", toJson s.connections),
    ("viewport", toJson s.view)]

end Snapshot

/-- The name of a project and when it was saved. -/
structure ProjectMeta where
  name : String
  savedAt : Timestamp

namespace ProjectMeta

def shape : Shape := .flat ["name", "saved_at"]

instance : JsonForm ProjectMeta where
  shape := shape
  ofJson? value := do
    let fields ← value.record? shape
    return {
      name := ← Json.required fields "name" Json.text?
      savedAt := ← Json.required fields "saved_at" ofJson? }
  toJson p := .object [("name", .string p.name), ("saved_at", toJson p.savedAt)]

end ProjectMeta

/-- A project as it is exported to a file. -/
structure ProjectFile (R : Type) where
  project : ProjectMeta
  state : Snapshot R
  tabs : List Json := []

instance : JsonForm (ProjectFile R) where
  shape := .record [("project", ProjectMeta.shape), ("state", Snapshot.shape),
    ("engine_tabs", .whole)]
  ofJson? value := do
    let fields ← value.record? (.flat ["project", "state", "engine_tabs"])
    return {
      project := ← Json.required fields "project" ofJson?
      state := ← Json.required fields "state" ofJson?
      tabs := ← Json.defaulted fields "engine_tabs" [] ofJson? }
  toJson f := .object [("project", toJson f.project), ("state", toJson f.state),
    ("engine_tabs", .array f.tabs)]

end NodeCanvas
