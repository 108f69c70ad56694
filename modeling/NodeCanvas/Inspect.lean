import NodeCanvas.Client.Debug
import NodeCanvas.Session
/-!
# Inspection

A JSON account of everything that a session holds, for logs and tests. Other than the JSON forms
that are stored and sent, an account is never read back; it spells out numbers that are not finite,
and gives instants and spans in nanoseconds, as text if they need more than 64 bits.
-/

namespace NodeCanvas

/-- Values that a JSON account can be given of. -/
class Inspect (α : Type) where
  inspect : α → Json

export Inspect (inspect)

/-! ## Plain values -/

/-- Whatever has a JSON form is shown in it, if nothing else is said. -/
instance (priority := low) {α : Type} [JsonForm α] : Inspect α := ⟨toJson⟩

instance : Inspect Unit := ⟨fun _ => .null⟩

instance : Inspect Nat :=
  ⟨fun n => if n ≤ Numeral.greatestWord then .ofNat n else .string (Nat.repr n)⟩

instance : Inspect Int := ⟨.ofInt⟩

instance : Inspect Float :=
  ⟨fun x => if x.isFinite then .ofFloat x else .string (Layout.json.write x)⟩

instance {α : Type} [Inspect α] : Inspect (Option α) := ⟨.ofOption inspect⟩

instance {α : Type} [Inspect α] : Inspect (List α) := ⟨fun items => .array (items.map inspect)⟩

instance {α β : Type} [Inspect α] [Inspect β] : Inspect (α × β) :=
  ⟨fun (a, b) => .array [inspect a, inspect b]⟩

instance {ε α : Type} [Inspect ε] [Inspect α] : Inspect (Except ε α) where
  inspect
    | .ok value => inspect value
    | .error error => inspect error

variable {R : Type} [Scalar R]

/-- A coordinate. -/
def inspectScalar (x : R) : Json := inspect (Scalar.toFloat x)

instance : Inspect (Position R) := ⟨fun p => .array [inspectScalar p.x, inspectScalar p.y]⟩

instance : Inspect (View R) where
  inspect v := .object [("zoom", inspectScalar v.zoom), ("pan_x", inspectScalar v.panX),
    ("pan_y", inspectScalar v.panY)]

/-- The fields of an update of the view. -/
def inspectUpdate (u : ViewUpdate R) : List (String × Json) :=
  [("zoom", .ofOption inspectScalar u.zoom), ("pan_x", .ofOption inspectScalar u.panX),
    ("pan_y", .ofOption inspectScalar u.panY)]

instance : Inspect (ViewUpdate R) := ⟨fun u => .object (inspectUpdate u)⟩

instance : Inspect (Snapshot R) where
  inspect s := .object [("nodes", toJson s.nodes), ("connections", toJson s.connections),
    ("viewport", inspect s.view)]

instance : Inspect (ProjectFile R) where
  inspect f := .object [("project", toJson f.project), ("state", inspect f.state),
    ("engine_tabs", inspect f.tabs)]

instance : Inspect NodeIdentity where
  inspect i := .object [("kind", .string (if i.isLocal then "local" else "remote")),
    ("id", .string i.id)]

/-! ## Errors -/

/-- The account of an error: its kind and its text. -/
def inspectError (kind message : String) : Json :=
  .object [("error", .string kind), ("message", .string message)]

instance : Inspect RequestError where
  inspect e :=
    match e with
    | .rejected refusal => .object [("error", .string "Rejected"), ("code", toJson refusal.code),
      ("message", .string e.message)]
    | .transport _ => inspectError "Transport" e.message
    | .malformed _ => inspectError "Malformed" e.message

instance : Inspect GraphError := ⟨fun e => inspectError "SelfLoop" e.message⟩

instance : Inspect StoreError := ⟨fun e => inspectError "Context" e.message⟩

instance : Inspect DocumentError where
  inspect e :=
    match e with
    | .store _ => inspectError "Store" e.message
    | .undecodable => .object [("error", .string "Decode")]
    | .unrecognized _ => inspectError "UnrecognizedDocument" e.message

instance : Inspect ClientError where
  inspect e :=
    match e with
    | .request cause => inspect cause
    | .graph cause => inspect cause
    | .document cause => inspect cause
    | .unknownNode _ => inspectError "UnknownNode" e.message
    | .unknownConnection _ => inspectError "UnknownConnection" e.message
    | .unknownSession _ => inspectError "UnknownSession" e.message

/-! ## The parts of a canvas -/

instance : Inspect (Graph R) where
  inspect g :=
    let connections := g.connections.values.map (·.id)
    .object [("revision", inspect g.revision), ("empty", .bool g.isEmpty),
      ("nodes", inspect g.nodes.keys), ("connections", inspect connections),
      ("renderable", inspect (g.renderable.map (·.id))),
      ("local_nodes", inspect g.localNodes.keys),
      ("local_connections", inspect (connections.filter g.isLocalConnection))]

instance : Inspect HighlightState where
  inspect
    | .executing => .object [("state", .string "executing")]
    | .completed elapsed =>
      .object [("state", .string "completed"), ("elapsed_ns", inspect elapsed)]
    | .error message => .object [("state", .string "error"), ("message", .string message)]

/-- The overlay as it is at an instant. -/
def Overlay.inspectAt (o : Overlay R) (now : Instant) : Json :=
  .object [("executing", .bool o.executing), ("current", inspect o.currentNode),
    ("highlights", .array (o.highlights.entries.map fun (node, h) =>
      .object [("node", .string node), ("highlight", inspect h.state),
        ("expires_ns", inspect h.expiresAt)])),
    ("markers", .array ((o.markersAt now).map fun (connection, position) =>
      .object [("connection", inspect connection), ("at", inspect position)])),
    ("log", inspect o.log), ("watches", inspect o.watches),
    ("deadline_ns", inspect o.nextDeadline), ("speed", inspect o.speed),
    ("flow_ns", inspect o.flowDuration)]

instance : Inspect Binding := ⟨fun b => inspect (b.value, b.session)⟩

instance : Inspect SharedNamespace where
  inspect ns := .object [
    ("visible", .array (ns.visible.map fun (name, b) =>
      .array [.string name, b.value, .string b.session])),
    ("len", inspect ns.bindings.size), ("empty", .bool ns.bindings.isEmpty)]

instance : Inspect StepRecord where
  inspect r := .object [("index", inspect r.index), ("node_id", inspect r.node),
    ("status", toJson r.status), ("result", r.result)]

instance : Inspect DebugSession where
  inspect s := .object [("id", .string s.id), ("state", toJson s.state), ("nodes", inspect s.nodes),
    ("steps", inspect s.steps), ("current_node", inspect s.currentNode)]

instance : Inspect DebugSessions where
  inspect d := .object [("sessions", inspect d.sessions.values), ("namespace", inspect d.shared)]

/-! ## Messages -/

/-- The fields of a push beside its name. -/
def PushEvent.inspectFields : PushEvent R → List (String × Json)
  | .nodeAdded node => [("node", toJson node)]
  | .nodeRemoved node => [("node_id", .string node)]
  | .nodeMoved node position => [("node_id", .string node), ("position", inspect position)]
  | .nodeUpdated node changes => [("node_id", .string node), ("changes", inspect changes)]
  | .nodeParametersUpdated node parameters =>
    [("node_id", .string node), ("parameters", toJson parameters)]
  | .nodeMetadataUpdated node metadata => [("node_id", .string node), ("metadata", toJson metadata)]
  | .nodePortsUpdated node inputs outputs =>
    [("node_id", .string node), ("inputs", toJson inputs), ("outputs", toJson outputs)]
  | .connectionAdded connection => [("connection", toJson connection)]
  | .connectionRemoved connection => [("connection_id", .string connection)]
  | .canvasCleared => []
  | .viewportChanged update => inspectUpdate update
  | .paradigmChanged paradigm => [("paradigm", .string paradigm)]
  | .execution event => [("execution", toJson event)]
  | .debugSessionStarted session state => [("session_id", .string session), ("state", toJson state)]
  | .debugStepExecuted session result =>
    [("session_id", .string session), ("result", toJson result)]
  | .debugSessionStopped session => [("session_id", .string session)]
  | .allSessionsCompleted results => [("results", inspect results)]

instance : Inspect (PushEvent R) := ⟨fun e => .object (("name", .string e.name) :: e.inspectFields)⟩

instance : Inspect NotificationLevel where
  inspect
    | .info => .string "info"
    | .warning => .string "warning"
    | .error => .string "error"

instance : Inspect (Event R) where
  inspect e :=
    let named (name : String) (fields : List (String × Json)) : Json :=
      .object (("event", .string name) :: fields)
    match e with
    | .graphChanged revision => named "graph" [("revision", inspect revision)]
    | .viewChanged view => named "viewport" [("viewport", inspect view)]
    | .saveStatusChanged status => named "save" [("label", .string status.label)]
    | .notification level message =>
      named "notification" [("level", inspect level), ("message", .string message)]
    | .paradigmChanged paradigm => named "paradigm" [("paradigm", .string paradigm)]
    | .executionChanged executing node =>
      named "execution" [("executing", .bool executing), ("current_node", inspect node)]
    | .debugSessionsChanged => named "debug_sessions" []
    | .pushesClosed reason => named "push_closed" [("reason", .string reason)]

/-- The reply to a request. -/
def Request.inspectReply : (call : Request R) → call.Reply → Json
  | .fetchCanvas, snapshot => inspect snapshot
  | .createNode _, id | .createConnection _, id => .string id
  | .updateParameters _ _, parameters => toJson parameters
  | .updateMetadata _ _, metadata => toJson metadata
  | .updatePorts _ _, ports => toJson ports
  | .setZoom _ _, update | .pan _ _, update => inspect update
  | .createSession _, ack | .startSession _, ack => toJson ack
  | .stepSession _ _, response => toJson response
  | .runAllSessions _, reply => toJson reply
  | .listSessions, listing => toJson listing
  | .setParadigm _, paradigm => inspect paradigm
  | .startExecution _, answer | .stepExecution, answer | .stopExecution, answer
  | .searchPattern _, answer | .refactorPattern _, answer | .exportCode _, answer => answer
  | .moveNode _ _, _ | .deleteNode _, _ | .deleteConnection _, _ | .clearCanvas, _
  | .stopSession _, _ => .null

/-! ## Sessions -/

instance : Inspect Settings where
  inspect s := .object [("backend_url", .string s.backendUrl),
    ("database_url", .string s.databaseUrl), ("project_name", .string s.projectName),
    ("autosave_debounce_ms", inspect s.autosaveDebounceMs),
    ("highlight_duration_ms", inspect s.highlightDurationMs),
    ("data_flow_duration_ms", inspect s.dataFlowDurationMs),
    ("execution_speed", inspect s.executionSpeed),
    ("frame_interval_ms", inspect s.frameIntervalMs),
    ("event_log_capacity", inspect s.eventLogCapacity),
    ("run_all_timeout_secs", inspect s.runAllTimeoutSecs),
    ("push_queue_capacity", inspect s.pushQueueCapacity),
    ("autosave_debounce_ns", inspect s.autosaveDebounce),
    ("highlight_duration_ns", inspect s.highlightDuration),
    ("data_flow_duration_ns", inspect s.dataFlowDuration),
    ("frame_interval_ns", inspect s.frameInterval),
    ("run_all_timeout_ns", inspect s.runAllTimeout)]

instance : Inspect RestoreReport where
  inspect r := .object [("nodes_replayed", inspect r.nodesReplayed),
    ("nodes_local", inspect r.nodesLocal),
    ("connections_replayed", inspect r.connectionsReplayed),
    ("connections_local", inspect r.connectionsLocal),
    ("connections_skipped", inspect r.connectionsSkipped),
    ("remote_cleared", .bool r.remoteCleared), ("saved", .bool r.saved),
    ("degraded", .bool r.isDegraded)]

instance : Inspect StopAllReport where
  inspect r := .object [("stopped", inspect r.stopped), ("failed", inspect r.failed),
    ("complete", .bool r.isComplete)]

instance : Inspect StoredDocument where
  inspect d := .object [("version", inspect d.version), ("saved_at", toJson d.savedAt),
    ("body", d.body)]

instance : Inspect (Backend R) where
  inspect b := .object [("nodes", toJson b.nodes.values),
    ("connections", toJson b.connections.values),
    ("calls", .array (b.calls.map fun call => inspect (call.name, call.target)))]

/-- The account of a session in one line: what is on the canvas and whether it is saved. -/
def Session.status (s : Session R) : Json :=
  let c := s.world.canvas
  .object [("revision", inspect c.graph.revision), ("nodes", inspect c.graph.nodes.keys),
    ("connections", inspect (c.graph.connections.values.map (·.id))),
    ("save", .string c.saving.status.label),
    ("save_due_ns", inspect c.saving.autosave.dueAt), ("echoes", inspect c.saving.owedClears)]

/-- The documents of a canvas, with the number of times each was saved. -/
def MemoryStore.inspectDocuments (s : MemoryStore) : Json :=
  .object <| [canvasKey, projectKey, uiSettingsKey].map fun key =>
    (key, .object [("document", inspect (s.documents.get? key)),
      ("saves", inspect (s.saveCount key))])

instance : Inspect (Session R) where
  inspect s :=
    let w := s.world
    let c := w.canvas
    .object [("now_ns", inspect w.moment.now), ("graph", inspect c.graph),
      ("snapshot", inspect c.snapshot),
      ("size", .array [inspectScalar c.viewport.width, inspectScalar c.viewport.height]),
      ("paradigm", inspect c.paradigm), ("restoring", .bool c.saving.restoring),
      ("project_name", .string c.saving.projectName), ("engine_tabs", inspect c.saving.tabs),
      ("ui", toJson c.saving.ui), ("overlay", c.overlay.inspectAt w.moment.now),
      ("debug", inspect c.debug), ("backend", inspect w.remote.backend),
      ("documents", w.store.inspectDocuments)]

end NodeCanvas
