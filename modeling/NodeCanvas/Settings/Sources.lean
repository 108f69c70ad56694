import NodeCanvas.Decimal.Layout
import NodeCanvas.Settings
import NodeCanvas.Toml.Reader
/-!
# Where settings come from

Settings start from their defaults. A settings file changes some of them, and the environment some
more. A value that cannot be read leaves its setting alone, and a file that is no TOML document
leaves them all alone.
-/

namespace NodeCanvas

namespace Settings

/-- The setting with a name changed to the value of a text, if it has one. -/
def set (s : Settings) (name text : String) : Settings :=
  let chars := text.toList
  let word (current : Nat) : Nat := (readNatBelow? 18446744073709551616 chars).getD current
  match name with
  | "backend_url" => { s with backendUrl := text }
  | "database_url" => { s with databaseUrl := text }
  | "project_name" => { s with projectName := text }
  | "autosave_debounce_ms" => { s with autosaveDebounceMs := word s.autosaveDebounceMs }
  | "highlight_duration_ms" => { s with highlightDurationMs := word s.highlightDurationMs }
  | "execution_speed" => { s with executionSpeed := (readFloat? chars).getD s.executionSpeed }
  | "frame_interval_ms" => { s with frameIntervalMs := word s.frameIntervalMs }
  | _ => s

/-- The settings that can be changed from outside. -/
def changeable : List String :=
  ["backend_url", "database_url", "project_name", "autosave_debounce_ms", "highlight_duration_ms",
    "execution_speed", "frame_interval_ms"]

/-- The variables of the environment and the settings they change; of two variables for one setting
the later wins. -/
def environmentNames : List (String × String) :=
  [("CANVAS_BACKEND_URL", "backend_url"), ("APP__BACKEND_URL", "backend_url"),
    ("CANVAS_DATABASE_URL", "database_url"), ("APP__DATABASE_URL", "database_url"),
    ("APP__PROJECT_NAME", "project_name"), ("APP__AUTOSAVE_DEBOUNCE_MS", "autosave_debounce_ms"),
    ("APP__HIGHLIGHT_DURATION_MS", "highlight_duration_ms"),
    ("APP__EXECUTION_SPEED", "execution_speed"), ("APP__FRAME_INTERVAL_MS", "frame_interval_ms")]

/-- A value of a settings file as text; only texts and numbers count. -/
def fileText? : Toml → Option String
  | .string value => some value
  | .integer value => some (toString value)
  | .float value => some (Layout.plain.write value)
  | _ => none

/-- The settings changed by a table. -/
def ofEntries (s : Settings) (entries : Toml.Entries) : Settings :=
  changeable.foldl (fun s name =>
    match entries.lookup name >>= fileText? with
    | some text => s.set name text
    | none => s) s

/-- The settings changed by the environment. -/
def ofEnvironment (s : Settings) (environment : String → Option String) : Settings :=
  environmentNames.foldl (fun s (key, name) =>
    match environment key with
    | some text => s.set name text
    | none => s) s

/-- The settings of a settings file, if there is one, and an environment. -/
def load (file : Option String) (environment : String → Option String) : Settings :=
  (ofEntries {} ((file >>= Toml.parse?).getD [])).ofEnvironment environment

end Settings

end NodeCanvas
