import NodeCanvas.Proofs.RoundTrip
import Mathlib.Data.List.Forall2
/-!
# Two readers of one document

What the exact reader accepts, the foreign reader accepts as well, but it need not read the same: it
fills in ports where none are listed, takes no list for a record, and takes a field by another name
where its own is missing. `Import.Regular` says that a document leaves it no room for any of this.
Then, and only then, the two agree (`readers_agree_iff`).
-/

namespace NodeCanvas

/-! ## Lists -/

section

variable {α β : Type} {read : α → Option β} {items : List α} {results : List β}

theorem forall₂_of_mapM (h : items.mapM read = some results) :
    List.Forall₂ (fun item result => read item = some result) items results := by
  induction items generalizing results with
  | nil =>
    cases h
    exact .nil
  | cons item items ih =>
    rw [List.mapM_cons] at h
    obtain ⟨first, hfirst, h⟩ := Option.bind_eq_some_iff.1 h
    obtain ⟨rest, hrest, h⟩ := Option.bind_eq_some_iff.1 h
    cases h
    exact .cons hfirst (ih hrest)

/-- Where one reader accepts every item, another that draws no ids makes the same of the list only
if it makes the same of every item: it has none to make up for one that it leaves out. -/
theorem Import.exists_filterItems {draw : α → Drawing (Option β)} {good : α → Prop}
    (h : items.mapM read = some results)
    (hdraw : ∀ item, ∀ result ∈ results, read item = some result →
      ∃ found, (∀ ids, (draw item).run ids = (found, ids)) ∧ (found = some result ↔ good item)) :
    ∃ found, (∀ ids, (filterItems draw items).run ids = (found, ids)) ∧
      found.length ≤ items.length ∧ (found = results ↔ ∀ item ∈ items, good item) := by
  have hread := forall₂_of_mapM h
  clear h
  induction hread with
  | nil => exact ⟨[], fun _ => rfl, Nat.le_refl 0, by simp⟩
  | @cons item result items results hresult hrest ih =>
    obtain ⟨first, hfirst, hiff⟩ := hdraw item result List.mem_cons_self hresult
    obtain ⟨more, hmore, hlength, hiffs⟩ :=
      ih fun item result hmem => hdraw item result (List.mem_cons_of_mem _ hmem)
    refine ⟨(first.map (· :: more)).getD more, fun ids => ?_, ?_, ?_⟩
    · rw [filterItems, Drawing.run_bind (hfirst ids), Drawing.run_bind (hmore ids)]
      rfl
    · cases first with
      | some b => exact Nat.succ_le_succ hlength
      | none => exact Nat.le_succ_of_le hlength
    · rw [List.forall_mem_cons, ← hiff, ← hiffs]
      cases first with
      | some b => simp
      | none =>
        refine ⟨fun heq => ?_, fun hnone => by cases hnone.1⟩
        have hshort : more.length = results.length + 1 := congrArg List.length heq
        have hsame := hrest.length_eq
        omega

theorem Import.filterItems_pure (f : α → Option β) (items : List α) (ids : IdSource) :
    (filterItems (fun item => pure (f item)) items).run ids = (items.filterMap f, ids) := by
  induction items with
  | nil => rfl
  | cons item items ih =>
    rw [filterItems, pure_bind, Drawing.run_bind ih]
    cases hfound : f item with
    | some first =>
      rw [List.filterMap_cons_some hfound]
      rfl
    | none =>
      rw [List.filterMap_cons_none hfound]
      rfl

end

/-! ## Fields -/

namespace Import

variable {fields : List (String × Json)} {name : String} {value : Json}

/-- A text that has to be there is found under its first name. -/
theorem textField_of_required {names : List String} {t : String}
    (h : Json.required fields name Json.text? = some t) :
    textField fields (name :: names) = some t := by
  obtain ⟨value, hvalue, htext⟩ := Option.bind_eq_some_iff.1 h
  rw [Json.eq_string_of_text? htext] at hvalue
  simp [textField, hvalue]

/-- A text with a default is found under its own name, unless it is missing and another name has
one. -/
theorem textField_getD_iff {other default t : String}
    (h : Json.defaulted fields name default Json.text? = some t) :
    (textField fields [name, other]).getD default = t ↔
      (fields.lookup name = none → (textField fields [other]).getD default = default) := by
  unfold Json.defaulted at h
  split at h
  · rename_i hmissing
    cases h
    simp [textField, hmissing]
  · rename_i value hvalue
    rw [Json.eq_string_of_text? h] at hvalue
    simp [textField, hvalue]

theorem position_of_defaulted {p : Position Float}
    (h : Json.defaulted fields "position" .origin ofJson? = some p) :
    position (fields.lookup "position") = p := by
  unfold Json.defaulted at h
  split at h
  · rename_i hmissing
    cases h
    rw [hmissing]
    rfl
  · rename_i value hvalue
    rw [hvalue]
    simp only [ofJson?] at h
    split at h
    · rename_i x y
      obtain ⟨x', hx, h⟩ := Option.bind_eq_some_iff.1 h
      obtain ⟨y', hy, h⟩ := Option.bind_eq_some_iff.1 h
      cases h
      obtain ⟨_, hx', rfl⟩ := Option.map_eq_some_iff.1 hx
      obtain ⟨_, hy', rfl⟩ := Option.map_eq_some_iff.1 hy
      simp [position, coordinate, hx', hy']
    · cases h

theorem bag_of_defaulted {β : Type} [Bag β] [LaidBag β] {default b : β}
    (h : Json.defaulted fields name default ofJson? = some b) :
    ((fields.lookup name).map Bag.ofValue).getD default = b := by
  unfold Json.defaulted at h
  split at h
  · rename_i hmissing
    cases h
    rw [hmissing]
    rfl
  · rename_i value hvalue
    rw [hvalue, Option.map_some, Option.getD_some, LaidBag.ofValue_of_ofJson? h]

/-! ## Ports -/

/-- A port is an object, and where it names no type it has no data type either. -/
def PortForm (value : Json) : Prop :=
  ∃ fields, value = .object fields ∧
    (fields.lookup "type" = none →
      (textField fields ["data_type"]).getD unconstrained = unconstrained)

/-- The ports are listed, each in its form. -/
def PortsForm (value : Option Json) : Prop :=
  ∃ items, value = some (.array items) ∧ ∀ item ∈ items, PortForm item

theorem port_eq_iff {p : Port} (h : ofJson? value = some p) :
    port value = some p ↔ PortForm value := by
  cases value with
  | object fields =>
    have hread : (do return {
        name := ← Json.required fields "name" Json.text?
        type := ← Json.defaulted fields "type" unconstrained Json.text?
        required := ← Json.defaulted fields "required" false Json.bool? }) = some p := h
    simp only [Option.bind_eq_bind, Option.bind_eq_some_iff, Option.pure_def] at hread
    obtain ⟨name, hname, type, htype, required, hrequired, hp⟩ := hread
    cases hp
    have hflag : (fields.lookup "required" >>= Json.bool?).getD false = required := by
      unfold Json.defaulted at hrequired
      split at hrequired
      · rename_i hmissing
        cases hrequired
        rw [hmissing]
        rfl
      · rename_i value hvalue
        rw [hvalue, Option.bind_eq_bind, Option.bind_some, hrequired, Option.getD_some]
    have hfound : port (.object fields) = some ⟨name,
        (textField fields ["type", "data_type"]).getD unconstrained, required⟩ := by
      simp only [port, textField_of_required hname, hflag]
      rfl
    rw [hfound, Option.some.injEq, Port.mk.injEq]
    simp only [true_and, and_true, textField_getD_iff htype, PortForm, Json.object.injEq]
    constructor
    · exact fun h => ⟨fields, rfl, h⟩
    · rintro ⟨_, rfl, h⟩
      exact h
  | array items => simp [PortForm, port]
  | null | bool _ | number _ | string _ => cases h

theorem ports_eq_iff {default : String} {ps : List Port}
    (h : Json.defaulted fields name [] ofJson? = some ps) :
    ports (fields.lookup name) default = ps ↔ PortsForm (fields.lookup name) := by
  unfold Json.defaulted at h
  split at h
  · rename_i hmissing
    cases h
    rw [hmissing]
    simp [PortsForm, ports]
  · rename_i value hvalue
    obtain ⟨items, hitems, hread⟩ := Option.bind_eq_some_iff.1 h
    cases value with
    | array items' =>
      cases hitems
      rw [hvalue]
      obtain ⟨found, hfound, -, hiff⟩ := exists_filterItems hread fun item p _ hp =>
        ⟨port item, fun ids => rfl, port_eq_iff hp⟩
      have hports : items.filterMap port = found :=
        congrArg Prod.fst ((filterItems_pure port items .counting).symm.trans (hfound _))
      change items.filterMap port = ps ↔ _
      rw [hports, hiff]
      simp [PortsForm]
    | _ => cases hitems

/-! ## Nodes -/

/-- A node is an object that lists its ports, and where it names no type nothing else names one. -/
def NodeForm (value : Json) : Prop :=
  ∃ fields, value = .object fields ∧
    PortsForm (fields.lookup "inputs") ∧ PortsForm (fields.lookup "outputs") ∧
    (fields.lookup "type" = none →
      (textField fields ["node_type"]).getD Node.defaultType = Node.defaultType)

/-- What is made of a node that has an id, or of what is no object, takes no new id. -/
theorem exists_node {n : Node Float} (h : ofJson? value = some n) :
    ∃ found, (∀ ids, (node value none).run ids = (found, ids)) ∧
      (found = some n ↔ NodeForm value) := by
  cases value with
  | object fields =>
    rw [Node.ofJson?_object] at h
    simp only [Option.bind_eq_bind, Option.bind_eq_some_iff, Option.pure_def] at h
    obtain ⟨id, hid, type, htype, position, hposition, parameters, hparameters, metadata, hmetadata,
      inputs, hinputs, outputs, houtputs, hn⟩ := h
    cases hn
    refine ⟨some {
      id
      type := (textField fields ["type", "node_type"]).getD Node.defaultType
      position
      parameters
      metadata
      inputs := ports (fields.lookup "inputs") "input"
      outputs := ports (fields.lookup "outputs") "output" }, fun ids => ?_, ?_⟩
    · simp only [node, nodeIdNames, textField_of_required hid, position_of_defaulted hposition,
        bag_of_defaulted hparameters, bag_of_defaulted hmetadata]
      rfl
    · rw [Option.some.injEq, Node.mk.injEq]
      simp only [true_and, textField_getD_iff htype, ports_eq_iff hinputs, ports_eq_iff houtputs]
      constructor
      · rintro ⟨htype, hinputs, houtputs⟩
        exact ⟨fields, rfl, hinputs, houtputs, htype⟩
      · rintro ⟨_, hsame, hinputs, houtputs, htype⟩
        cases hsame
        exact ⟨htype, hinputs, houtputs⟩
  | array items => exact ⟨none, fun _ => rfl, by simp [NodeForm]⟩
  | null | bool _ | number _ | string _ => cases h

/-! ## Connections -/

/-- A data type, unless it stands for none. -/
def dataType (fields : List (String × Json)) (names : List String) : Option String :=
  (textField fields names).filter fun t => t ≠ "" ∧ t ≠ "None"

/-- A connection is an object, and where it has no data type nothing else gives it one. -/
def ConnectionForm (value : Json) : Prop :=
  ∃ fields, value = .object fields ∧
    (Json.optional fields "data_type" Json.text? = some none → dataType fields ["dataType"] = none)

theorem dataType_eq_iff {o : Option String}
    (h : Json.optional fields "data_type" Json.text? = some o)
    (htyped : o ≠ some "" ∧ o ≠ some "None") :
    dataType fields ["data_type", "dataType"] = o ↔
      (Json.optional fields "data_type" Json.text? = some none →
        dataType fields ["dataType"] = none) := by
  unfold Json.optional at h ⊢
  split at h
  · rename_i hmissing
    cases h
    simp [dataType, textField, hmissing]
  · rename_i hnull
    cases h
    simp [dataType, textField, hnull]
  · rename_i value _ hvalue
    obtain ⟨t, htext, rfl⟩ := Option.map_eq_some_iff.1 h
    rw [Json.eq_string_of_text? htext] at hvalue
    simp_all [dataType, textField, Option.filter]

theorem exists_connection {c : Connection} (h : ofJson? value = some c) (htyped : c.IsTyped) :
    ∃ found, (∀ ids, (connection value).run ids = (found, ids)) ∧
      (found = some c ↔ ConnectionForm value) := by
  cases value with
  | object fields =>
    rw [Connection.ofJson?_object] at h
    simp only [Option.bind_eq_bind, Option.bind_eq_some_iff, Option.pure_def] at h
    obtain ⟨id, hid, source, hsource, sourcePort, hsourcePort, target, htarget, targetPort,
      htargetPort, type, htype, hc⟩ := h
    cases hc
    refine ⟨some ⟨id, source, sourcePort, target, targetPort,
      dataType fields ["data_type", "dataType"]⟩, fun ids => ?_, ?_⟩
    · simp only [connection, sourceNames, targetNames, connectionIdNames, sourcePortNames,
        targetPortNames, textField_of_required hid, textField_of_required hsource,
        textField_of_required hsourcePort, textField_of_required htarget,
        textField_of_required htargetPort]
      rfl
    · rw [Option.some.injEq, Connection.mk.injEq]
      simp only [true_and, dataType_eq_iff htype htyped]
      constructor
      · intro htype
        exact ⟨fields, rfl, htype⟩
      · rintro ⟨_, hsame, htype⟩
        cases hsame
        exact htype
  | array items => exact ⟨none, fun _ => rfl, by simp [ConnectionForm]⟩
  | null | bool _ | number _ | string _ => cases h

/-! ## Views -/

/-- A coordinate of the pan: under one of some names, or as part of a point. -/
def panOf (fields : List (String × Json)) (names : List String) (part : Position Float → Float) :
    Float :=
  match numberField fields names with
  | some x => x
  | none => ((fields.lookup "pan").map fun pan => part (position (some pan))).getD 0.0

/-- A view is an object in which nothing stands in for a missing coordinate, or it is the initial
one in any form. -/
def ViewForm : Option Json → Prop
  | none => True
  | some (.object fields) =>
    (fields.lookup "pan_x" = none → panOf fields ["panX"] (·.x) = 0.0) ∧
      (fields.lookup "pan_y" = none → panOf fields ["panY"] (·.y) = 0.0)
  | some value => ofJson? value = some (View.initial : View Float)

theorem panOf_eq_iff {other : String} {part : Position Float → Float} {x : Float}
    (h : Json.defaulted fields name 0.0 Scalar.ofJson? = some x) :
    panOf fields [name, other] part = x ↔
      (fields.lookup name = none → panOf fields [other] part = 0.0) := by
  unfold Json.defaulted at h
  split at h
  · rename_i hmissing
    cases h
    simp [panOf, numberField, hmissing]
  · rename_i value hvalue
    obtain ⟨y, hy, rfl⟩ := Option.map_eq_some_iff.1 h
    simp [panOf, numberField, hvalue, hy]
    rfl

/-- A positive zoom is taken as it is. -/
theorem zoom_of_defaulted {zoom : Float} (hzoom : zoom > 0.0)
    (h : Json.defaulted fields "zoom" 1.0 Scalar.ofJson? = some zoom) :
    (match fields.lookup "zoom" >>= Json.float? with
      | some z => if z > 0.0 then z else 1.0
      | none => 1.0) = zoom := by
  unfold Json.defaulted at h
  split at h
  · rename_i hmissing
    cases h
    rw [hmissing]
    rfl
  · rename_i value hvalue
    obtain ⟨z, hz, rfl⟩ := Option.map_eq_some_iff.1 h
    rw [hvalue, Option.bind_eq_bind, Option.bind_some, hz]
    exact if_pos hzoom

theorem view_eq_iff {v : View Float} (hzoom : v.zoom > 0.0)
    (h : Json.defaulted fields "viewport" .initial ofJson? = some v) :
    view (fields.lookup "viewport") = v ↔ ViewForm (fields.lookup "viewport") := by
  unfold Json.defaulted at h
  split at h
  · rename_i hmissing
    cases h
    rw [hmissing]
    simp [view, ViewForm]
  · rename_i value hvalue
    rw [hvalue]
    cases value with
    | object inner =>
      rw [View.ofJson?_object] at h
      simp only [Option.bind_eq_bind, Option.bind_eq_some_iff, Option.pure_def] at h
      obtain ⟨zoom, hread, panX, hpanX, panY, hpanY, hv⟩ := h
      cases hv
      have hfound : view (some (.object inner)) = (⟨zoom, panOf inner ["pan_x", "panX"] (·.x),
          panOf inner ["pan_y", "panY"] (·.y)⟩ : View Float) := by
        have hpositive : zoom > 0.0 := hzoom
        rw [← zoom_of_defaulted hpositive hread]
        simp only [view, panOf, Option.map_map]
        rfl
      rw [hfound, View.mk.injEq]
      simp only [true_and, panOf_eq_iff hpanX, panOf_eq_iff hpanY, ViewForm]
    | array items =>
      change View.initial = v ↔ ofJson? (Json.array items) = some View.initial
      rw [h, Option.some.injEq, eq_comm]
    | null | bool _ | number _ | string _ => cases h

/-! ## Documents -/

/-- What a document lists under a name. -/
def listed (fields : List (String × Json)) (name : String) : List Json :=
  ((fields.lookup name).bind Json.items?).getD []

/-- A document that leaves no room for another reading. -/
structure Regular (fields : List (String × Json)) : Prop where
  nodes : ∀ item ∈ listed fields "nodes", NodeForm item
  connections : ∀ item ∈ listed fields "connections", ConnectionForm item
  view : ViewForm (fields.lookup "viewport")

/-- A list that may be missing is what is listed, and a reader to which a missing list is an empty
one finds that. -/
theorem mapM_listed {α β : Type} [JsonForm α] {xs : List α}
    (h : Json.defaulted fields name [] ofJson? = some xs) :
    (listed fields name).mapM ofJson? = some xs ∧
      ∀ read : Option Json → Drawing β, read none = read (some (.array [])) →
        read (fields.lookup name) = read (some (.array (listed fields name))) := by
  unfold Json.defaulted at h
  unfold listed
  split at h
  · rename_i hmissing
    cases h
    rw [hmissing]
    exact ⟨rfl, fun _ hsame => hsame⟩
  · rename_i value hvalue
    obtain ⟨items, hitems, hread⟩ := Option.bind_eq_some_iff.1 h
    cases value with
    | array =>
      cases hitems
      rw [hvalue]
      exact ⟨hread, fun _ _ => rfl⟩
    | _ => cases hitems

theorem exists_nodes {ns : List (Node Float)}
    (h : Json.defaulted fields "nodes" [] ofJson? = some ns) :
    ∃ found, (∀ ids, (nodes (fields.lookup "nodes")).run ids = (found, ids)) ∧
      (found = ns ↔ ∀ item ∈ listed fields "nodes", NodeForm item) := by
  obtain ⟨hread, hlisted⟩ := mapM_listed h
  obtain ⟨found, hfound, -, hiff⟩ := exists_filterItems hread fun item n _ hn => exists_node hn
  exact ⟨found, fun ids => by rw [hlisted nodes rfl]; exact hfound ids, hiff⟩

theorem exists_connections {cs : List Connection}
    (h : Json.defaulted fields "connections" [] ofJson? = some cs) (htyped : ∀ c ∈ cs, c.IsTyped) :
    ∃ found, (∀ ids, (connections (fields.lookup "connections")).run ids = (found, ids)) ∧
      (found = cs ↔ ∀ item ∈ listed fields "connections", ConnectionForm item) := by
  obtain ⟨hread, hlisted⟩ := mapM_listed h
  obtain ⟨found, hfound, -, hiff⟩ :=
    exists_filterItems hread fun item c hc hitem => exists_connection hitem (htyped c hc)
  exact ⟨found, fun ids => by rw [hlisted connections rfl]; exact hfound ids, hiff⟩

/-- **What the foreign reader makes of a document that is read exactly.** -/
theorem exists_snapshot {s : Snapshot Float} (h : ofJson? (Json.object fields) = some s)
    (htyped : ∀ c ∈ s.connections, c.IsTyped) (hzoom : s.view.zoom > 0.0) :
    ∃ found, (∀ ids, (snapshot fields).run ids = (found, ids)) ∧
      (found = s ↔ Regular fields) := by
  rw [Snapshot.ofJson?_object] at h
  simp only [Option.bind_eq_bind, Option.bind_eq_some_iff, Option.pure_def] at h
  obtain ⟨ns, hns, cs, hcs, v, hv, hs⟩ := h
  cases hs
  obtain ⟨foundNodes, hnodes, hnodesIff⟩ := exists_nodes hns
  obtain ⟨foundConnections, hconnections, hconnectionsIff⟩ := exists_connections hcs htyped
  refine ⟨⟨foundNodes, foundConnections, view (fields.lookup "viewport")⟩, fun ids => ?_, ?_⟩
  · rw [snapshot, Drawing.run_bind (hnodes ids), Drawing.run_bind (hconnections ids)]
    rfl
  · rw [Snapshot.mk.injEq, hnodesIff, hconnectionsIff, view_eq_iff hzoom hv]
    constructor
    · rintro ⟨hnodes, hconnections, hview⟩
      exact ⟨hnodes, hconnections, hview⟩
    · intro hregular
      exact ⟨hregular.nodes, hregular.connections, hregular.view⟩

end Import

/-! ## The main result -/

/-- **When the two readers agree.** Let the exact reader accept a document with a positive zoom in
which no connection has a data type that stands for none. A canvas that is saved as this document is
loaded as it was read. A project file with this canvas is imported, without any new ids, and the
canvas is the same if and only if the document is regular. -/
theorem readers_agree_iff {fields : List (String × Json)} {s : Snapshot Float}
    (h : ofJson? (Json.object fields) = some s) (htyped : ∀ c ∈ s.connections, c.IsTyped)
    (hzoom : s.view.zoom > 0.0) (ids : IdSource) :
    (Document.decodeSnapshot (.object fields)).run ids = (.ok s, ids) ∧
      ∃ found, (Import.snapshot fields).run ids = (found, ids) ∧
        (∀ root, Import.stateFields root = .ok fields →
          ∃ imported, (Import.project (.object root)).run ids = (.ok imported, ids) ∧
            imported.snapshot = found) ∧
        (found = s ↔ Import.Regular fields) := by
  obtain ⟨found, hfound, hiff⟩ := Import.exists_snapshot h htyped hzoom
  refine ⟨?_, found, hfound ids, fun root hroot => ?_, hiff⟩
  · rw [Document.decodeSnapshot, h]
    rfl
  · rw [Import.project, hroot]
    exact ⟨_, Drawing.run_bind (hfound ids), rfl⟩

/-- A canvas with a node that lists no ports, seen from a place of which only one coordinate is
given. -/
def portlessBody : List (String × Json) :=
  [("nodes", .array [.object [("id", .string "a"), ("inputs", .array []), ("outputs", .array [])]]),
    ("viewport", .object [("pan_x", .ofInt 3)])]

theorem regular_portlessBody : Import.Regular portlessBody := by
  have hports : Import.PortsForm (some (.array [])) := ⟨[], rfl, by simp⟩
  refine ⟨fun item hitem => ?_, fun item hitem => ?_, ?_, fun _ => rfl⟩
  · obtain rfl := List.mem_singleton.1 hitem
    exact ⟨_, rfl, hports, hports, fun _ => rfl⟩
  · cases hitem
  · intro hmissing
    cases hmissing

theorem readers_agree_iff_portless :
    ∃ s : Snapshot Float, ofJson? (Json.object portlessBody) = some s ∧
      (∀ c ∈ s.connections, c.IsTyped) ∧ s.view.zoom > 0.0 ∧ Import.Regular portlessBody ∧
      (Import.snapshot portlessBody).run .counting = (s, .counting) := by
  have hread : ∃ s : Snapshot Float, ofJson? (Json.object portlessBody) = some s ∧
      s.connections = [] ∧ s.view.zoom > 0.0 := ⟨_, rfl, rfl, by decide +kernel⟩
  obtain ⟨s, hread, hnone, hzoom⟩ := hread
  have htyped : ∀ c ∈ s.connections, c.IsTyped := by simp [hnone]
  obtain ⟨-, found, hfound, -, hiff⟩ := readers_agree_iff hread htyped hzoom .counting
  refine ⟨s, hread, htyped, hzoom, regular_portlessBody, ?_⟩
  rw [hfound, hiff.2 regular_portlessBody]

/-- A canvas with a node that says nothing of its ports. -/
def bareBody : List (String × Json) :=
  [("nodes", .array [.object [("id", .string "a"), ("type", .string "source")]])]

/-- The exact reader takes a node without ports, and the foreign reader gives it two. -/
theorem readers_disagree :
    ∃ s : Snapshot Float, ofJson? (Json.object bareBody) = some s ∧
      (∀ c ∈ s.connections, c.IsTyped) ∧ s.view.zoom > 0.0 ∧
      s.nodes.map (fun n => (n.inputs, n.outputs)) = [([], [])] ∧
      ((Import.snapshot bareBody : Drawing (Snapshot Float)).run .counting).1.nodes.map
        (fun n => (n.inputs, n.outputs)) = [([{ name := "input" }], [{ name := "output" }])] := by
  refine ⟨_, rfl, ?_, by decide +kernel, rfl, rfl⟩
  intro c hc
  cases hc

end NodeCanvas
