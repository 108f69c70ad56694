import NodeCanvas.Proofs.Saving
import NodeCanvas.Proofs.Written
/-!
# Written documents read back

There is one way to write a canvas and there are two ways to read one: the exact reader, and the
reader of foreign documents, which takes over when the first refuses. A field of the wrong type in
one bag of one node is enough for that. Both readers look fields up by name, so for each kind of
record it is said once what is found in a written one (`Node.exists_toValue`), and both find it
there. The main result is `written_canvas_reads_back`.
-/

namespace NodeCanvas

/-! ## Numbers and lists -/

theorem Scalar.canonical_toJson (x : Float) : (Scalar.toJson x).Canonical := by
  unfold Json.Canonical Scalar.toJson Json.ofFloat
  split <;> rfl

theorem Scalar.float?_toJson {x : Float} (h : x.isFinite = true) :
    (Scalar.toJson x).float? = some x := by
  have hnumber : Json.Number.ofFloat? x = some (.float x h) := dif_pos h
  change (Json.ofFloat x).float? = some x
  rw [Json.ofFloat, hnumber]
  rfl

theorem Scalar.ofJson?_toJson {x : Float} (h : x.isFinite = true) :
    Scalar.ofJson? (Scalar.toJson x) = some x := by
  rw [Scalar.ofJson?, float?_toJson h]
  rfl

section

variable {α : Type} [JsonForm α] {xs : List α}

theorem JsonForm.toValue_list (xs : List α) :
    JsonForm.toValue xs = .array (xs.map JsonForm.toValue) := by
  change (Json.array (xs.map toJson)).canonical = _
  rw [Json.canonical_array, List.map_map]
  rfl

theorem JsonForm.ofJson?_toValue_list (h : ∀ x ∈ xs, ofJson? (JsonForm.toValue x) = some x) :
    ofJson? (JsonForm.toValue xs) = some xs := by
  rw [toValue_list]
  change (xs.map toValue).mapM ofJson? = some xs
  induction xs with
  | nil => rfl
  | cons x xs ih =>
    rw [List.forall_mem_cons] at h
    rw [List.map_cons, List.mapM_cons, h.1, ih h.2]
    rfl

theorem JsonForm.ofJson?_toValue_list_eq_none {x : α} (hx : x ∈ xs)
    (h : ofJson? (JsonForm.toValue x) = (none : Option α)) :
    ofJson? (JsonForm.toValue xs) = (none : Option (List α)) := by
  rw [toValue_list]
  change (xs.map toValue).mapM ofJson? = none
  induction xs with
  | nil => cases hx
  | cons y xs ih =>
    rw [List.map_cons, List.mapM_cons]
    obtain rfl | hx := List.mem_cons.1 hx
    · rw [h]
      rfl
    · rw [ih hx]
      cases (ofJson? (toValue y) : Option α) <;> rfl

end

/-- A computation that draws nothing passes on what it makes. -/
theorem Drawing.run_bind {α β : Type} {first : Drawing α} {next : α → Drawing β} {a : α}
    {ids ids' : IdSource} (h : first.run ids = (a, ids')) :
    (first >>= next).run ids = (next a).run ids' := by
  rw [StateT.run_bind, h]
  rfl

/-- A reader that accepts every item and draws nothing gives back all of them. -/
theorem Import.filterItems_map {α β : Type} {read : α → Drawing (Option β)} {write : β → α}
    {xs : List β} (h : ∀ x ∈ xs, ∀ ids, (read (write x)).run ids = (some x, ids)) (ids : IdSource) :
    (filterItems read (xs.map write)).run ids = (xs, ids) := by
  induction xs with
  | nil => rfl
  | cons x xs ih =>
    rw [List.forall_mem_cons] at h
    rw [List.map_cons, filterItems, Drawing.run_bind (h.1 ids), Drawing.run_bind (ih h.2)]
    rfl

/-! ## Ports -/

namespace Port

theorem ofJson?_toValue (p : Port) : ofJson? (JsonForm.toValue p) = some p := by
  obtain ⟨name, type, required⟩ := p
  cases required <;>
    simp [ofJson?, JsonForm.toValue, toJson, Json.canonical_object, Json.record?, Json.required,
      Json.defaulted, Json.lookup_written, Table.lookup_cons_eq_ite, List.lookup_nil,
      Json.canonical, Json.text?, Json.bool?]

theorem port_toValue (p : Port) : Import.port (JsonForm.toValue p) = some p := by
  obtain ⟨name, type, required⟩ := p
  cases required <;>
    simp [Import.port, Import.textField, JsonForm.toValue, toJson, Json.canonical_object,
      Json.lookup_written, Table.lookup_cons_eq_ite, List.lookup_nil, Json.canonical, Json.bool?]

/-- A list of ports that is there is read as it was written. -/
theorem ports_toValue (ps : List Port) (default : String) :
    Import.ports (some (JsonForm.toValue ps)) default = ps := by
  rw [JsonForm.toValue_list]
  change (ps.map JsonForm.toValue).filterMap Import.port = ps
  rw [List.filterMap_map]
  exact (List.filterMap_congr fun p _ => port_toValue p).trans List.filterMap_some

end Port

/-! ## Nodes -/

namespace Position

/-- Both coordinates are finite. -/
def IsFinite (p : Position Float) : Prop := p.x.isFinite = true ∧ p.y.isFinite = true

theorem toValue_eq (p : Position Float) : JsonForm.toValue p = toJson p := by
  change (Json.array [Scalar.toJson p.x, Scalar.toJson p.y]).canonical = _
  rw [Json.canonical_array, List.map_cons, List.map_cons, Scalar.canonical_toJson,
    Scalar.canonical_toJson]
  rfl

variable {p : Position Float}

theorem ofJson?_toValue (h : p.IsFinite) : ofJson? (JsonForm.toValue p) = some p := by
  rw [toValue_eq]
  change (do return ⟨← Scalar.ofJson? (Scalar.toJson p.x), ← Scalar.ofJson? (Scalar.toJson p.y)⟩) =
    some p
  rw [Scalar.ofJson?_toJson h.1, Scalar.ofJson?_toJson h.2]
  rfl

theorem position_toValue (h : p.IsFinite) : Import.position (some (JsonForm.toValue p)) = p := by
  rw [toValue_eq]
  change (⟨((Scalar.toJson p.x).float?).getD 0.0, ((Scalar.toJson p.y).float?).getD 0.0⟩ :
    Position Float) = p
  rw [Scalar.float?_toJson h.1, Scalar.float?_toJson h.2]
  rfl

end Position

namespace Node

/-- What is found in a written node. -/
theorem exists_toValue {R : Type} [Scalar R] (n : Node R) :
    ∃ fields, JsonForm.toValue n = .object fields ∧
      fields.lookup "id" = some (.string n.id) ∧ fields.lookup "type" = some (.string n.type) ∧
      fields.lookup "position" = some (JsonForm.toValue n.position) ∧
      fields.lookup "parameters" = some (JsonForm.toValue n.parameters) ∧
      fields.lookup "metadata" = some (JsonForm.toValue n.metadata) ∧
      fields.lookup "inputs" = some (JsonForm.toValue n.inputs) ∧
      fields.lookup "outputs" = some (JsonForm.toValue n.outputs) :=
  ⟨_, rfl, Json.lookup_written _ _, Json.lookup_written _ _, Json.lookup_written _ _,
    Json.lookup_written _ _, Json.lookup_written _ _, Json.lookup_written _ _,
    Json.lookup_written _ _⟩

/-- How an object is read as a node. -/
theorem ofJson?_object {R : Type} [Scalar R] (fields : List (String × Json)) :
    (ofJson? (Json.object fields) : Option (Node R)) = (do return {
      id := ← Json.required fields "id" Json.text?
      type := ← Json.defaulted fields "type" defaultType Json.text?
      position := ← Json.defaulted fields "position" .origin ofJson?
      parameters := ← Json.defaulted fields "parameters" {} ofJson?
      metadata := ← Json.defaulted fields "metadata" {} ofJson?
      inputs := ← Json.defaulted fields "inputs" [] ofJson?
      outputs := ← Json.defaulted fields "outputs" [] ofJson? }) := rfl

/-- What is read of a written node is what is read of its bags. -/
theorem ofJson?_toValue_eq {n : Node Float} (h : n.position.IsFinite) :
    ofJson? (JsonForm.toValue n) = (do
      let parameters ← ofJson? (JsonForm.toValue n.parameters)
      let metadata ← ofJson? (JsonForm.toValue n.metadata)
      return { n with parameters, metadata }) := by
  obtain ⟨fields, hn, hid, htype, hposition, hparameters, hmetadata, hinputs, houtputs⟩ :=
    n.exists_toValue
  have hports : ∀ ps : List Port, ofJson? (JsonForm.toValue ps) = some ps :=
    fun ps => JsonForm.ofJson?_toValue_list fun p _ => p.ofJson?_toValue
  rw [hn, ofJson?_object]
  simp only [Json.required, Json.defaulted, hid, htype, hposition, hparameters, hmetadata, hinputs,
    houtputs, hports, Position.ofJson?_toValue h]
  rfl

/-- The position is finite, and the bags are such as reading written values produces. -/
structure Canonical (n : Node Float) : Prop where
  position : n.position.IsFinite
  parameters : Bag.Canonical n.parameters
  metadata : Bag.Canonical n.metadata

/-- No field of a bag has the name of an own field and the wrong type. -/
def Plain {R : Type} (n : Node R) : Prop :=
  LaidBag.Plain n.parameters ∧ LaidBag.Plain n.metadata

variable {n : Node Float}

theorem ofJson?_toValue_of_plain (h : n.Canonical) (hplain : n.Plain) :
    ofJson? (JsonForm.toValue n) = some n := by
  rw [ofJson?_toValue_eq h.position, LaidBag.ofJson?_toValue_of_plain h.parameters hplain.1,
    LaidBag.ofJson?_toValue_of_plain h.metadata hplain.2]
  rfl

theorem ofJson?_toValue_of_not_plain (h : n.Canonical) (hplain : ¬ n.Plain) :
    ofJson? (JsonForm.toValue n) = (none : Option (Node Float)) := by
  rw [ofJson?_toValue_eq h.position]
  by_cases hparameters : LaidBag.Plain n.parameters
  · have hmetadata : ¬ LaidBag.Plain n.metadata := fun h' => hplain ⟨hparameters, h'⟩
    rw [(LaidBag.toValue_of_not_plain h.metadata hmetadata).1]
    cases (ofJson? (JsonForm.toValue n.parameters) : Option Parameters) <;> rfl
  · rw [(LaidBag.toValue_of_not_plain h.parameters hparameters).1]
    rfl

theorem node_toValue (h : n.Canonical) (ids : IdSource) :
    (Import.node (JsonForm.toValue n) none).run ids = (some n, ids) := by
  obtain ⟨fields, hn, hid, htype, hposition, hparameters, hmetadata, hinputs, houtputs⟩ :=
    n.exists_toValue
  rw [hn]
  simp only [Import.node, Import.textField, Import.nodeIdNames, List.findSome?, hid, htype,
    hposition, hparameters, hmetadata, hinputs, houtputs, Option.map_some, Option.getD_some,
    Port.ports_toValue, Position.position_toValue h.position,
    LaidBag.ofValue_toValue h.parameters, LaidBag.ofValue_toValue h.metadata]
  rfl

end Node

/-! ## Connections and views -/

namespace Connection

/-- What is found in a written connection. -/
theorem exists_toValue (c : Connection) :
    ∃ fields, JsonForm.toValue c = .object fields ∧
      fields.lookup "id" = some (.string c.id) ∧
      fields.lookup "source_node_id" = some (.string c.source) ∧
      fields.lookup "source_port" = some (.string c.sourcePort) ∧
      fields.lookup "target_node_id" = some (.string c.target) ∧
      fields.lookup "target_port" = some (.string c.targetPort) ∧
      fields.lookup "data_type" = c.dataType.map .string ∧
      fields.lookup "dataType" = none := by
  obtain ⟨id, source, sourcePort, target, targetPort, dataType⟩ := c
  refine ⟨_, rfl, ?_⟩
  cases dataType <;> exact ⟨Json.lookup_written _ _, Json.lookup_written _ _,
    Json.lookup_written _ _, Json.lookup_written _ _, Json.lookup_written _ _,
    Json.lookup_written _ _, Json.lookup_written _ _⟩

/-- How an object is read as a connection. -/
theorem ofJson?_object (fields : List (String × Json)) :
    (ofJson? (Json.object fields) : Option Connection) = (do return {
      id := ← Json.required fields "id" Json.text?
      source := ← Json.required fields "source_node_id" Json.text?
      sourcePort := ← Json.required fields "source_port" Json.text?
      target := ← Json.required fields "target_node_id" Json.text?
      targetPort := ← Json.required fields "target_port" Json.text?
      dataType := ← Json.optional fields "data_type" Json.text? }) := rfl

theorem ofJson?_toValue (c : Connection) : ofJson? (JsonForm.toValue c) = some c := by
  obtain ⟨fields, hc, hid, hsource, hsourcePort, htarget, htargetPort, hdata, -⟩ :=
    c.exists_toValue
  rw [hc, ofJson?_object]
  simp only [Json.required, Json.optional, hid, hsource, hsourcePort, htarget, htargetPort, hdata]
  obtain ⟨id, source, sourcePort, target, targetPort, dataType⟩ := c
  cases dataType <;> rfl

/-- The data type is not one that stands for none. -/
def IsTyped (c : Connection) : Prop := c.dataType ≠ some "" ∧ c.dataType ≠ some "None"

theorem connection_toValue {c : Connection} (h : c.IsTyped) (ids : IdSource) :
    (Import.connection (JsonForm.toValue c)).run ids = (some c, ids) := by
  obtain ⟨fields, hc, hid, hsource, hsourcePort, htarget, htargetPort, hdata, hother⟩ :=
    c.exists_toValue
  have htype : (Import.textField fields ["data_type", "dataType"]).filter
      (fun t => t ≠ "" ∧ t ≠ "None") = c.dataType := by
    simp only [Import.textField, List.findSome?, hdata, hother]
    obtain ⟨hempty, hnone⟩ := h
    cases hd : c.dataType with
    | none => rfl
    | some t =>
      rw [hd] at hempty hnone
      simp_all [Option.filter]
  rw [hc]
  simp only [Import.connection, htype]
  simp only [Import.textField, Import.sourceNames, Import.targetNames, Import.connectionIdNames,
    Import.sourcePortNames, Import.targetPortNames, List.findSome?, hid, hsource, hsourcePort,
    htarget, htargetPort]
  rfl

end Connection

namespace View

/-- What is found in a written view. -/
theorem exists_toValue (v : View Float) :
    ∃ fields, JsonForm.toValue v = .object fields ∧
      fields.lookup "zoom" = some (Scalar.toJson v.zoom) ∧
      fields.lookup "pan_x" = some (Scalar.toJson v.panX) ∧
      fields.lookup "pan_y" = some (Scalar.toJson v.panY) := by
  refine ⟨_, rfl, ?_⟩
  have hnumber : ∀ x : Float, (Scalar.toJson x).canonical = Scalar.toJson x :=
    Scalar.canonical_toJson
  refine ⟨(Json.lookup_written _ _).trans ?_, (Json.lookup_written _ _).trans ?_,
    (Json.lookup_written _ _).trans ?_⟩
  · exact congrArg some (hnumber v.zoom)
  · exact congrArg some (hnumber v.panX)
  · exact congrArg some (hnumber v.panY)

/-- How an object is read as a view. -/
theorem ofJson?_object {R : Type} [Scalar R] (fields : List (String × Json)) :
    (ofJson? (Json.object fields) : Option (View R)) = (do return {
      zoom := ← Json.defaulted fields "zoom" 1.0 Scalar.ofJson?
      panX := ← Json.defaulted fields "pan_x" 0.0 Scalar.ofJson?
      panY := ← Json.defaulted fields "pan_y" 0.0 Scalar.ofJson? }) := rfl

/-- The numbers are finite and the zoom is positive. -/
structure Canonical (v : View Float) : Prop where
  zoom : v.zoom.isFinite = true
  panX : v.panX.isFinite = true
  panY : v.panY.isFinite = true
  positive : v.zoom > 0.0

variable {v : View Float}

theorem ofJson?_toValue (h : v.Canonical) : ofJson? (JsonForm.toValue v) = some v := by
  obtain ⟨fields, hv, hzoom, hpanX, hpanY⟩ := v.exists_toValue
  rw [hv, ofJson?_object]
  simp only [Json.defaulted, hzoom, hpanX, hpanY, Scalar.ofJson?_toJson h.zoom,
    Scalar.ofJson?_toJson h.panX, Scalar.ofJson?_toJson h.panY]
  rfl

theorem view_toValue (h : v.Canonical) : Import.view (some (JsonForm.toValue v)) = v := by
  obtain ⟨fields, hv, hzoom, hpanX, hpanY⟩ := v.exists_toValue
  rw [hv]
  simp only [Import.view, Import.numberField, List.findSome?, hzoom, hpanX, hpanY,
    Option.bind_eq_bind, Option.bind_some, Scalar.float?_toJson h.zoom, Scalar.float?_toJson h.panX,
    Scalar.float?_toJson h.panY, if_pos h.positive]
  rfl

end View

/-! ## Documents -/

namespace Snapshot

/-- What is found in a written snapshot. -/
theorem exists_toValue {R : Type} [Scalar R] (s : Snapshot R) :
    ∃ fields, JsonForm.toValue s = .object fields ∧
      fields.lookup "nodes" = some (JsonForm.toValue s.nodes) ∧
      fields.lookup "connections" = some (JsonForm.toValue s.connections) ∧
      fields.lookup "viewport" = some (JsonForm.toValue s.view) :=
  ⟨_, rfl, Json.lookup_written _ _, Json.lookup_written _ _, Json.lookup_written _ _⟩

/-- How an object is read as a snapshot. -/
theorem ofJson?_object {R : Type} [Scalar R] (fields : List (String × Json)) :
    (ofJson? (Json.object fields) : Option (Snapshot R)) = (do return {
      nodes := ← Json.defaulted fields "nodes" [] ofJson?
      connections := ← Json.defaulted fields "connections" [] ofJson?
      view := ← Json.defaulted fields "viewport" .initial ofJson? }) := rfl

/-- The numbers are finite and the zoom is positive, every bag is one that reading a written value
produces, and no connection has a data type that stands for none. -/
structure Canonical (s : Snapshot Float) : Prop where
  nodes : ∀ n ∈ s.nodes, n.Canonical
  connections : ∀ c ∈ s.connections, c.IsTyped
  view : s.view.Canonical

/-- No bag has a field with the name of an own field and the wrong type. -/
def Plain {R : Type} (s : Snapshot R) : Prop := ∀ n ∈ s.nodes, n.Plain

variable {s : Snapshot Float}

/-- What is read of a written snapshot is what is read of its nodes. -/
theorem ofJson?_toValue_eq (h : s.Canonical) :
    ofJson? (JsonForm.toValue s) = (do
      let nodes ← ofJson? (JsonForm.toValue s.nodes)
      return { s with nodes }) := by
  obtain ⟨fields, hs, hnodes, hconnections, hview⟩ := s.exists_toValue
  rw [hs, ofJson?_object]
  simp only [Json.defaulted, hnodes, hconnections, hview, View.ofJson?_toValue h.view,
    JsonForm.ofJson?_toValue_list fun c _ => Connection.ofJson?_toValue c]
  rfl

theorem ofJson?_toValue_of_plain (h : s.Canonical) (hplain : s.Plain) :
    ofJson? (JsonForm.toValue s) = some s := by
  have hnodes : ofJson? (JsonForm.toValue s.nodes) = some s.nodes :=
    JsonForm.ofJson?_toValue_list fun n hn =>
      Node.ofJson?_toValue_of_plain (h.nodes n hn) (hplain n hn)
  rw [ofJson?_toValue_eq h, hnodes]
  rfl

/-- One field of the wrong type in one bag, and nothing is read. -/
theorem ofJson?_toValue_of_not_plain (h : s.Canonical) (hplain : ¬ s.Plain) :
    ofJson? (JsonForm.toValue s) = (none : Option (Snapshot Float)) := by
  obtain ⟨n, hn, hnot⟩ : ∃ n ∈ s.nodes, ¬ n.Plain := by simpa [Plain] using hplain
  rw [ofJson?_toValue_eq h, JsonForm.ofJson?_toValue_list_eq_none hn
    (Node.ofJson?_toValue_of_not_plain (h.nodes n hn) hnot)]
  rfl

/-- **The foreign reader gives back a written snapshot**, and needs no new ids. -/
theorem snapshot_written (h : s.Canonical) {fields : List (String × Json)}
    (hfields : JsonForm.toValue s = .object fields) (ids : IdSource) :
    (Import.snapshot fields).run ids = (s, ids) := by
  obtain ⟨fields', hs, hnodes, hconnections, hview⟩ := s.exists_toValue
  rw [hs] at hfields
  cases hfields
  have hreadNodes : (Import.nodes (some (JsonForm.toValue s.nodes))).run ids = (s.nodes, ids) := by
    rw [JsonForm.toValue_list]
    exact Import.filterItems_map (fun n hn => Node.node_toValue (h.nodes n hn)) ids
  have hreadConnections : (Import.connections (some (JsonForm.toValue s.connections))).run ids =
      (s.connections, ids) := by
    rw [JsonForm.toValue_list]
    exact Import.filterItems_map
      (fun c hc => Connection.connection_toValue (h.connections c hc)) ids
  rw [Import.snapshot, hnodes, hconnections, hview, View.view_toValue h.view,
    Drawing.run_bind hreadNodes, Drawing.run_bind hreadConnections]
  rfl

/-- **A written snapshot is read as it was**, by the one reader or by the other. -/
theorem decodeSnapshot_toValue (h : s.Canonical) (ids : IdSource) :
    (Document.decodeSnapshot (JsonForm.toValue s)).run ids = (.ok s, ids) := by
  unfold Document.decodeSnapshot
  by_cases hplain : s.Plain
  · rw [ofJson?_toValue_of_plain h hplain]
    rfl
  · obtain ⟨fields, hs, -⟩ := s.exists_toValue
    rw [ofJson?_toValue_of_not_plain h hplain, hs]
    exact Drawing.run_bind (snapshot_written h hs ids)

end Snapshot

/-- What is found in a written project file. -/
theorem ProjectFile.exists_toValue {R : Type} [Scalar R] (f : ProjectFile R) :
    ∃ fields, JsonForm.toValue f = .object fields ∧
      fields.lookup "project" = some (JsonForm.toValue f.project) ∧
      fields.lookup "state" = some (JsonForm.toValue f.state) ∧
      fields.lookup "engine_tabs" = some (.array (f.tabs.map Json.canonical)) := by
  refine ⟨_, rfl, Json.lookup_written _ _, Json.lookup_written _ _,
    (Json.lookup_written _ _).trans ?_⟩
  exact congrArg some (Json.canonical_array f.tabs)

/-- **A written project file is imported as it was.** -/
theorem Import.project_toValue {f : ProjectFile Float} (h : f.state.Canonical)
    (htabs : ∀ tab ∈ f.tabs, tab.Canonical) (ids : IdSource) :
    (project (JsonForm.toValue f)).run ids = (.ok ⟨f.state, some f.project.name, f.tabs⟩, ids) := by
  obtain ⟨fields, hf, hproject, hstate, htabsField⟩ := f.exists_toValue
  obtain ⟨state, hs, -⟩ := f.state.exists_toValue
  have hsame : f.tabs.map Json.canonical = f.tabs :=
    (List.map_congr_left htabs).trans (List.map_id _)
  have hname : ((JsonForm.toValue f.project).get? "name" >>= Json.text?) = some f.project.name := by
    change ((Json.written _).lookup "name" >>= Json.text?) = _
    rw [Json.lookup_written]
    rfl
  rw [hsame] at htabsField
  rw [hs] at hstate
  have hfields : stateFields fields = .ok state := by rw [stateFields, hstate]
  rw [hf]
  unfold project
  simp only [hfields, htabsField, hproject, Option.bind_eq_bind, Option.bind_some]
  simp only [Option.bind_eq_bind] at hname
  rw [Drawing.run_bind (Snapshot.snapshot_written h hs ids), hname]
  rfl

/-- A canvas of the current version is decoded. -/
theorem Document.loadSnapshot_eq {σ : Type} [DocumentStore σ] {store : σ}
    {document : StoredDocument} (h : DocumentStore.load store canvasKey = .ok (some document))
    (hversion : document.version = canvasVersion) :
    (loadSnapshot store : Drawing (Except DocumentError (Option (Snapshot Float)))) =
      decodeSnapshot? (some document) := by
  have hload : loadVersioned store canvasKey canvasVersion = .ok (some document) := by
    rw [loadVersioned, h]
    simp [Option.filter, hversion]
  rw [loadSnapshot, hload]

/-! ## The main result -/

/-- **What is saved or exported reads back exactly.** Let a snapshot be canonical. Once it is stored,
loading gives it back. The exact reader accepts what is written of it if no bag has a field of the
wrong type and refuses it otherwise; the foreign reader gives it back in either case. From a project
file come the snapshot, the name of the project and the tabs. No new ids are needed for any of
this. -/
theorem written_canvas_reads_back {s : Snapshot Float} (h : s.Canonical) (project : ProjectMeta)
    {tabs : List Json} (htabs : ∀ tab ∈ tabs, tab.Canonical) (ids : IdSource) :
    (∀ {σ : Type} [DocumentStore σ] [DocumentStore.Lawful σ] {store store' : σ},
        Document.storeSnapshot store s project = (.ok (), store') →
        (Document.loadSnapshot store').run ids = (.ok (some s), ids)) ∧
      (s.Plain → ofJson? (JsonForm.toValue s) = some s) ∧
      (¬ s.Plain → ofJson? (JsonForm.toValue s) = (none : Option (Snapshot Float))) ∧
      (∃ fields, JsonForm.toValue s = .object fields ∧
        (Import.snapshot fields).run ids = (s, ids)) ∧
      (Import.project (JsonForm.toValue (⟨project, s, tabs⟩ : ProjectFile Float))).run ids =
        (.ok ⟨s, some project.name, tabs⟩, ids) := by
  obtain ⟨fields, hs, -⟩ := s.exists_toValue
  refine ⟨fun hstore => ?_, Snapshot.ofJson?_toValue_of_plain h,
    Snapshot.ofJson?_toValue_of_not_plain h, ⟨fields, hs, Snapshot.snapshot_written h hs ids⟩,
    Import.project_toValue (f := ⟨project, s, tabs⟩) h htabs ids⟩
  rw [Document.loadSnapshot_eq (Document.load_storeSnapshot hstore) rfl]
  exact Drawing.run_bind (Snapshot.decodeSnapshot_toValue h ids)

/-- A canvas with a node whose name is a number. -/
def misnamedSnapshot : Snapshot Float where
  nodes := [{
    id := "a"
    type := "input"
    position := ⟨3.0, -4.5⟩
    parameters := Bag.ofValue (.object [("name", .ofInt 5), ("speed", .ofFloat 0.5)])
    metadata := Bag.ofValue (.object [("display_name", .string "A")]) }]
  connections := [{
    id := "c"
    source := "a"
    sourcePort := "output"
    target := "b"
    targetPort := "input"
    dataType := some "int" }]
  view := ⟨2.0, 5.0, -3.0⟩

theorem canonical_misnamedSnapshot : misnamedSnapshot.Canonical := by
  refine ⟨fun n hn => ?_, fun c hc => ?_, ?_⟩
  · obtain rfl := List.mem_singleton.1 hn
    exact ⟨⟨by decide +kernel, by decide +kernel⟩,
      ⟨.object [("name", .ofInt 5), ("speed", .ofFloat 0.5)], rfl, rfl⟩,
      ⟨.object [("display_name", .string "A")], rfl, rfl⟩⟩
  · obtain rfl := List.mem_singleton.1 hc
    exact ⟨by decide, by decide⟩
  · exact ⟨by decide +kernel, by decide +kernel, by decide +kernel, by decide +kernel⟩

theorem not_plain_misnamedSnapshot : ¬ misnamedSnapshot.Plain := by
  intro h
  have hname := (h _ (List.mem_singleton.2 rfl)).1 "name" (by decide)
  cases hname

theorem written_canvas_reads_back_misnamed :
    misnamedSnapshot.Canonical ∧ ¬ misnamedSnapshot.Plain ∧
      (∀ tab ∈ [Json.string "log"], tab.Canonical) ∧
      ∃ store' : MemoryStore,
        Document.storeSnapshot ({} : MemoryStore) misnamedSnapshot ⟨"p", ⟨0, 0⟩⟩ = (.ok (), store') ∧
          (Document.loadSnapshot store').run .counting = (.ok (some misnamedSnapshot), .counting) ∧
          ofJson? (JsonForm.toValue misnamedSnapshot) = (none : Option (Snapshot Float)) ∧
          (Import.project (JsonForm.toValue (⟨⟨"p", ⟨0, 0⟩⟩, misnamedSnapshot,
            [.string "log"]⟩ : ProjectFile Float))).run .counting =
              (.ok ⟨misnamedSnapshot, some "p", [.string "log"]⟩, .counting) := by
  have hstore : ∃ store', Document.storeSnapshot ({} : MemoryStore) misnamedSnapshot
      ⟨"p", ⟨0, 0⟩⟩ = (.ok (), store') := ⟨_, rfl⟩
  have htabs : ∀ tab ∈ [Json.string "log"], tab.Canonical := by simp [Json.Canonical, Json.canonical]
  obtain ⟨store', hstore⟩ := hstore
  obtain ⟨hload, -, hrefused, -, himport⟩ :=
    written_canvas_reads_back canonical_misnamedSnapshot ⟨"p", ⟨0, 0⟩⟩ htabs .counting
  exact ⟨canonical_misnamedSnapshot, not_plain_misnamedSnapshot, htabs, store', hstore,
    hload hstore, hrefused not_plain_misnamedSnapshot, himport⟩

end NodeCanvas
