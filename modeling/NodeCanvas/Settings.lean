import NodeCanvas.Json.Form
import NodeCanvas.Time.Span
/-!
# Settings

`Settings` are fixed when a client starts; `UiSettings` are the user's and are saved with the other
documents.
-/

namespace NodeCanvas

structure Settings where
  backendUrl : String := "http://127.0.0.1:5002"
  databaseUrl : String := "sqlite://./data/canvas_client.db"
  projectName : String := "Untitled Project"
  autosaveDebounceMs : Nat := 300
  highlightDurationMs : Nat := 1500
  dataFlowDurationMs : Nat := 800
  executionSpeed : Float := 1.0
  frameIntervalMs : Nat := 16
  eventLogCapacity : Nat := 50
  runAllTimeoutSecs : Nat := 30
  pushQueueCapacity : Nat := 1024

namespace Settings

def autosaveDebounce (s : Settings) : Span := .ofMillis s.autosaveDebounceMs
def highlightDuration (s : Settings) : Span := .ofMillis s.highlightDurationMs
def dataFlowDuration (s : Settings) : Span := .ofMillis s.dataFlowDurationMs

/-- The time between two frames; at least a millisecond. -/
def frameInterval (s : Settings) : Span := .ofMillis (Nat.max s.frameIntervalMs 1)

def runAllTimeout (s : Settings) : Span := .ofSeconds s.runAllTimeoutSecs

end Settings

structure UiSettings where
  showGrid : Bool := true
  snapToGrid : Bool := false
  gridSize : Nat := 20
  showDataFlow : Bool := true
  animateDataFlow : Bool := true
  highlightDurationMs : Nat := 1500
  executionSpeed : Float := 1.0
  deriving BEq, Inhabited

namespace UiSettings

def shape : Shape :=
  .flat ["show_grid", "snap_to_grid", "grid_size", "show_data_flow", "animate_data_flow",
    "highlight_duration_ms", "execution_speed"]

instance : JsonForm UiSettings where
  shape := shape
  ofJson? value := do
    let fields ← value.record? shape
    return {
      showGrid := ← Json.defaulted fields "show_grid" true Json.bool?
      snapToGrid := ← Json.defaulted fields "snap_to_grid" false Json.bool?
      gridSize := ← Json.defaulted fields "grid_size" 20 (Json.natUpTo? 4294967295)
      showDataFlow := ← Json.defaulted fields "show_data_flow" true Json.bool?
      animateDataFlow := ← Json.defaulted fields "animate_data_flow" true Json.bool?
      highlightDurationMs :=
        ← Json.defaulted fields "highlight_duration_ms" 1500 (Json.natUpTo? Numeral.greatestWord)
      executionSpeed := ← Json.defaulted fields "execution_speed" 1.0 Json.float? }
  toJson s := .object [("show_grid", .bool s.showGrid), ("snap_to_grid", .bool s.snapToGrid),
    ("grid_size", .ofNat s.gridSize), ("show_data_flow", .bool s.showDataFlow),
    ("animate_data_flow", .bool s.animateDataFlow),
    ("highlight_duration_ms", .ofNat s.highlightDurationMs),
    ("execution_speed", .ofFloat s.executionSpeed)]

end UiSettings

end NodeCanvas
