import NodeCanvas.Proofs.Restoring
/-!
# What a restore looks like once its announcements are in

A restore puts the saved nodes and connections on the canvas as they were saved, under new ids. The
backend stores what it was asked for, and the announcements put that on the canvas again. It is not
always the same: to a side of a node without ports the backend gives the usual one, and a request for
a connection does not say the type of its data. `Node.replayed` and `Connection.replayed` are what is
left, and `Client.restoreSnapshot_echoed` says that both sides have exactly this in the end, if the
backend refuses nothing. So a saved node survives exactly if it has ports on both sides, and a saved
connection exactly if its type of data is not known; `Client.restoreSnapshot_loses` has a snapshot
of which nothing does.

A backend that refuses nothing numbers what it creates, so every answer of a restore can be written
down (`Link.Willing.replies`). The graph at the end is then the one after the restore with everything
placed a second time.
-/

namespace NodeCanvas

variable {R : Type} [Scalar R]

/-! ## What is left of a saved entity -/

/-- A saved node as the backend has it: a side without ports gets the usual one. -/
def Node.replayed (node : Node R) (id : NodeId) : Node R :=
  { node with
    id
    inputs := if node.inputs.isEmpty then [{ name := "input" }] else node.inputs
    outputs := if node.outputs.isEmpty then [{ name := "output" }] else node.outputs }

/-- A saved connection as the backend has it: the type of its data is lost. -/
def Connection.replayed (c : Connection) (id : ConnectionId) : Connection :=
  { c with id, dataType := none }

omit [Scalar R] in
/-- A saved node keeps all but its id exactly if it has ports on both sides. -/
theorem Node.replayed_eq_iff {node : Node R} {id : NodeId} :
    node.replayed id = { node with id } ↔ node.inputs ≠ [] ∧ node.outputs ≠ [] := by
  obtain ⟨_, _, _, _, _, inputs, outputs⟩ := node
  cases inputs <;> cases outputs <;> simp [replayed]

/-- A saved connection keeps all but its id exactly if the type of its data is not known. -/
theorem Connection.replayed_eq_iff {c : Connection} {id : ConnectionId} :
    c.replayed id = { c with id } ↔ c.dataType = none := by
  obtain ⟨_, _, _, _, _, dataType⟩ := c
  cases dataType <;> simp [replayed]

/-- A saved node that cannot be told from what the backend has is the same. -/
theorem Node.eq_replayed_of_beq {node : Node R} {id : NodeId}
    (h : (({ node with id } : Node R) == node.replayed id) = true) :
    { node with id } = node.replayed id := by
  have hlike := NodeLike.of_beq h
  have hinputs : node.inputs = (node.replayed id).inputs := hlike.inputs
  have houtputs : node.outputs = (node.replayed id).outputs := hlike.outputs
  exact congrArg₂ (fun inputs outputs => ({ node with id, inputs, outputs } : Node R)) hinputs
    houtputs

/-- The announcements of a restore for which everything is created, after that of the clearing. -/
def echoes (nodes : List (Node R × NodeId)) (connections : List (Connection × ConnectionId)) :
    List (PushEvent R) :=
  (nodes.map fun p => .nodeAdded (p.1.replayed p.2)) ++
    connections.map fun p => .connectionAdded (p.1.replayed p.2)

omit [Scalar R] in
theorem adds_of_mem_echoes {nodes : List (Node R × NodeId)}
    {connections : List (Connection × ConnectionId)} :
    ∀ p ∈ echoes nodes connections, p.Adds := by
  intro p hp
  obtain hp | hp := List.mem_append.1 hp
  · obtain ⟨_, _, rfl⟩ := List.mem_map.1 hp
    trivial
  · obtain ⟨_, _, rfl⟩ := List.mem_map.1 hp
    trivial

/-! ## A backend that refuses nothing -/

/-- The ids that a backend gives out next. -/
def numbered (kind : String) (allocated count : Nat) : List String :=
  (List.range' (allocated + 1) count).map fun k => kind ++ "-" ++ Nat.repr k

theorem numbered_succ (kind : String) (allocated count : Nat) :
    numbered kind allocated (count + 1) =
      (kind ++ "-" ++ Nat.repr (allocated + 1)) :: numbered kind (allocated + 1) count := rfl

theorem length_numbered (kind : String) (allocated count : Nat) :
    (numbered kind allocated count).length = count := by
  simp [numbered]

theorem nodup_numbered (kind : String) (allocated count : Nat) :
    (numbered kind allocated count).Nodup := by
  refine List.Nodup.map (fun m n h => ?_) (List.nodup_range' _ Nat.one_pos)
  exact repr_injective ((String.append_right_inj _).1 h)

omit [Scalar R] in
/-- A backend creates a connection between two of its nodes. -/
theorem Backend.createConnection_between {b : Backend R} {c : Connection}
    (hsource : b.nodes.contains c.source = true) (htarget : b.nodes.contains c.target = true)
    (hloop : c.isSelfLoop = false) :
    b.createConnection (.ofConnection c) =
      let id := "conn" ++ "-" ++ Nat.repr (b.allocated + 1)
      .ok ⟨id, { b with
        allocated := b.allocated + 1
        connections := b.connections.insert id (c.replayed id) },
        [.connectionAdded (c.replayed id)]⟩ := by
  obtain ⟨source, hsource⟩ := Table.contains_iff.1 hsource
  obtain ⟨target, htarget⟩ := Table.contains_iff.1 htarget
  have hends : c.source ≠ c.target := by simpa [Connection.isSelfLoop] using hloop
  simp only [createConnection, findNode, CreateConnection.ofConnection, hsource, htarget]
  exact if_neg hends

/-- A link that refuses nothing, and whose announcements are taken. -/
structure Link.Willing (link : Link R) : Prop where
  subscribed : link.subscribed = true
  failures : link.backend.failures = []

namespace Link.Willing

variable {link : Link R}

/-- What can be carried out is carried out. -/
theorem answer (h : link.Willing) {r : Request R} {done : Accepted R r.Reply}
    (hperform : (link.recorded r).perform r = .ok done) :
    link.answer r = (.ok done.reply,
      { link with backend := done.backend, pushes := link.pushes ++ done.pushes }) := by
  have hrecord : link.backend.record r.name r.target = (none, link.recorded r) := by
    rw [Link.recorded, Backend.record, h.failures]
    rfl
  simp only [Link.answer, Backend.answer, hrecord, hperform, h.subscribed, if_true]

omit [Scalar R] in
theorem recorded (h : link.Willing) (r : Request R) : (link.recorded r).failures = [] := by
  rw [Link.recorded, Backend.record, h.failures]
  rfl

/-- A node is created under the next id. -/
theorem createNode (h : link.Willing) (node : Node R) {id : NodeId}
    (hid : id = "node" ++ "-" ++ Nat.repr (link.backend.allocated + 1)) :
    ∃ b', link.answer (.createNode (.ofNode node)) = (.ok id, { link with
        backend := b', pushes := link.pushes ++ [.nodeAdded (node.replayed id)] }) ∧
      b'.failures = [] ∧ b'.allocated = link.backend.allocated + 1 ∧
      b'.nodes = link.backend.nodes.insert id (node.replayed id) ∧
      b'.connections = link.backend.connections := by
  subst hid
  have hanswer := h.answer (r := .createNode (.ofNode node)) rfl
  exact ⟨_, hanswer, h.recorded _, rfl, rfl, rfl⟩

/-- A connection between two nodes is created under the next id. -/
theorem createConnection (h : link.Willing) {c : Connection}
    (hsource : link.backend.nodes.contains c.source = true)
    (htarget : link.backend.nodes.contains c.target = true) (hloop : c.isSelfLoop = false)
    {id : ConnectionId} (hid : id = "conn" ++ "-" ++ Nat.repr (link.backend.allocated + 1)) :
    ∃ b', link.answer (.createConnection (.ofConnection c)) = (.ok id, { link with
        backend := b', pushes := link.pushes ++ [.connectionAdded (c.replayed id)] }) ∧
      b'.failures = [] ∧ b'.allocated = link.backend.allocated + 1 ∧
      b'.nodes = link.backend.nodes ∧
      b'.connections = link.backend.connections.insert id (c.replayed id) := by
  subst hid
  have hperform := Backend.createConnection_between
    (b := link.recorded (.createConnection (.ofConnection c))) hsource htarget hloop
  have hanswer := h.answer (r := .createConnection (.ofConnection c)) hperform
  exact ⟨_, hanswer, h.recorded _, rfl, rfl, rfl⟩

/-- **Nodes are created one after the other under the next ids.** -/
theorem askNodes (h : link.Willing) (nodes : List (Node R)) (ids : IdSource) :
    ∃ b', Link.answering.askNodes nodes (link, ids) =
        ((numbered "node" link.backend.allocated nodes.length).map .remote, { link with
          backend := b'
          pushes := link.pushes ++
            (nodes.zip (numbered "node" link.backend.allocated nodes.length)).map fun p =>
              .nodeAdded (p.1.replayed p.2) }, ids) ∧
      b'.failures = [] ∧ b'.allocated = link.backend.allocated + nodes.length ∧
      b'.connections = link.backend.connections ∧
      b'.nodes = ((nodes.zip (numbered "node" link.backend.allocated nodes.length)).map fun p =>
        (p.2, p.1.replayed p.2)).foldl (fun t e => t.insert e.1 e.2) link.backend.nodes := by
  induction nodes generalizing link with
  | nil => exact ⟨link.backend, by simp [Answering.askNodes, numbered], h.failures, rfl, rfl,
      rfl⟩
  | cons node nodes ih =>
    obtain ⟨b₁, hanswer, hfailures, hallocated, hnodes, hconnections⟩ := h.createNode node rfl
    have hnext : Link.Willing { link with
        backend := b₁
        pushes := link.pushes ++ [.nodeAdded (node.replayed
          ("node" ++ "-" ++ Nat.repr (link.backend.allocated + 1)))] } :=
      ⟨h.subscribed, hfailures⟩
    obtain ⟨b₂, hrest, hfailures', hallocated', hconnections', hnodes'⟩ := ih hnext
    -- The others get the numbers after that of the first.
    simp only [hallocated] at hrest hallocated' hnodes'
    simp only [List.length_cons, numbered_succ, List.zip_cons_cons, List.map_cons]
    refine ⟨b₂, ?_, hfailures', by omega, hconnections'.trans hconnections, ?_⟩
    · simp only [Answering.askNodes, Answering.askNode, Link.answering, hanswer]
      rw [hrest, List.append_assoc]
      rfl
    · rw [hnodes', hnodes]
      rfl

/-- **So are connections, if their ends are among the nodes.** -/
theorem askConnections (h : link.Willing) {isLocal : NodeId → Bool} (cs : List Connection)
    (hcs : ∀ c ∈ cs, c.isSelfLoop = false ∧ ∀ a, c.touches a = true →
      link.backend.nodes.contains a = true ∧ isLocal a = false) (ids : IdSource) :
    ∃ b', Link.answering.askConnections isLocal cs (link, ids) =
        ((cs.zip (numbered "conn" link.backend.allocated cs.length)).map fun p =>
          ({ p.1 with id := p.2 }, false), { link with
          backend := b'
          pushes := link.pushes ++
            (cs.zip (numbered "conn" link.backend.allocated cs.length)).map fun p =>
              .connectionAdded (p.1.replayed p.2) }, ids) ∧
      b'.nodes = link.backend.nodes ∧
      b'.connections = ((cs.zip (numbered "conn" link.backend.allocated cs.length)).map fun p =>
        (p.2, p.1.replayed p.2)).foldl (fun t e => t.insert e.1 e.2) link.backend.connections := by
  induction cs generalizing link with
  | nil => exact ⟨link.backend, by simp [Answering.askConnections, numbered], rfl, rfl⟩
  | cons c cs ih =>
    obtain ⟨hloop, hends⟩ := hcs c List.mem_cons_self
    obtain ⟨hsource, hlocal⟩ := hends c.source (by simp [Connection.touches])
    obtain ⟨htarget, hlocal'⟩ := hends c.target (by simp [Connection.touches])
    obtain ⟨b₁, hanswer, hfailures, hallocated, hnodes, hconnections⟩ :=
      h.createConnection hsource htarget hloop rfl
    have hnext : Link.Willing { link with
        backend := b₁
        pushes := link.pushes ++ [.connectionAdded (c.replayed
          ("conn" ++ "-" ++ Nat.repr (link.backend.allocated + 1)))] } :=
      ⟨h.subscribed, hfailures⟩
    obtain ⟨b₂, hrest, hnodes', hconnections'⟩ := ih hnext fun d hd => by
      rw [hnodes]
      exact hcs d (List.mem_cons_of_mem c hd)
    simp only [hallocated] at hrest hconnections'
    simp only [List.length_cons, numbered_succ, List.zip_cons_cons, List.map_cons]
    refine ⟨b₂, ?_, hnodes'.trans hnodes, ?_⟩
    · simp only [Answering.askConnections, Answering.askConnection, hlocal, hlocal', Bool.or_self,
        Bool.false_eq_true, if_false, Link.answering, hanswer]
      rw [hrest, List.append_assoc]
      rfl
    · rw [hconnections', hconnections]
      rfl

theorem clearCanvas (h : link.Willing) :
    ∃ b', link.answer .clearCanvas = (.ok (), { link with
        backend := b', pushes := link.pushes ++ [.canvasCleared] }) ∧
      b'.failures = [] ∧ b'.nodes = ∅ ∧ b'.connections = ∅ := by
  have hanswer := h.answer (r := .clearCanvas) rfl
  exact ⟨_, hanswer, h.recorded _, rfl, rfl⟩

/-- **All that a restore asks of a link that refuses nothing is done**, under ids no two of which are
the same. -/
theorem replies (h : link.Willing) (hconnections : link.backend.connections = ∅)
    (hnodes : link.backend.nodes = ∅) (s : Snapshot R) (ids : IdSource) :
    ∃ (names : List NodeId) (connectionNames : List ConnectionId) (b' : Backend R),
      names.length = s.nodes.length ∧ names.Nodup ∧
      connectionNames.length = s.kept.length ∧ connectionNames.Nodup ∧
      let nodes := s.nodes.zip names
      let connections := (s.renamed (names.map .remote)).zip connectionNames
      Link.answering.replies s (link, ids) =
        { identities := names.map .remote
          placed := connections.map fun p => ({ p.1 with id := p.2 }, false)
          remote := { link with
            backend := b'
            pushes := link.pushes ++ echoes nodes connections } } ∧
      b'.nodes = Table.ofList (nodes.map fun p => (p.2, p.1.replayed p.2)) ∧
      b'.connections = Table.ofList (connections.map fun p => (p.2, p.1.replayed p.2)) := by
  obtain ⟨b₁, hask, hfailures, -, hconnections₁, hnodes₁⟩ := h.askNodes s.nodes ids
  have hlength := length_numbered "node" link.backend.allocated s.nodes.length
  have hdistinct := nodup_numbered "node" link.backend.allocated s.nodes.length
  generalize numbered "node" link.backend.allocated s.nodes.length = names at *
  rw [hnodes] at hnodes₁
  have hkeys : (((s.nodes.zip names).map fun p => (p.2, p.1.replayed p.2)).map (·.1)).Nodup := by
    rw [List.map_map]
    exact (List.map_snd_zip (Nat.le_of_eq hlength)).symm ▸ hdistinct
  have hnext : Link.Willing { link with
      backend := b₁
      pushes := link.pushes ++ (s.nodes.zip names).map fun p =>
        .nodeAdded (p.1.replayed p.2) } :=
    ⟨h.subscribed, hfailures⟩
  -- All new nodes are on the backend by now, so every connection finds its ends.
  have hends : ∀ c ∈ s.renamed (names.map .remote), c.isSelfLoop = false ∧
      ∀ a, c.touches a = true → b₁.nodes.contains a = true ∧
        (names.map NodeIdentity.remote).contains (.localOnly a) = false := by
    intro c hc
    have hids : (names.map NodeIdentity.remote).map (·.id) = names := by
      simp [Function.comp_def, NodeIdentity.id]
    obtain ⟨hloop, hends⟩ := Snapshot.ends_of_renamed (by rw [List.length_map, hlength])
      (by rwa [hids]) hc
    refine ⟨hloop, fun a ha => ⟨?_, by simp⟩⟩
    have ha := hends a ha
    rw [hids, ← List.map_snd_zip (Nat.le_of_eq hlength)] at ha
    obtain ⟨p, hp, rfl⟩ := List.mem_map.1 ha
    rw [hnodes₁]
    exact Table.contains_iff.2 ⟨_, Table.get?_ofList_of_mem hkeys (List.mem_map_of_mem hp)⟩
  obtain ⟨b₂, hask', hnodes₂, hconnections₂⟩ := hnext.askConnections _ hends ids
  refine ⟨names, numbered "conn" b₁.allocated (s.renamed (names.map .remote)).length, b₂, hlength,
    hdistinct, ?_, nodup_numbered _ _ _, ?_, ?_, ?_⟩
  · rw [length_numbered, Snapshot.renamed, List.length_map]
  · simp only [Answering.replies, hask]
    rw [hask', List.append_assoc]
    rfl
  · exact hnodes₂.trans hnodes₁
  · rw [hconnections₂, hconnections₁, hconnections]
    rfl

end Link.Willing

/-! ## The graph that the announcements leave -/

namespace Graph

/-- Announced nodes are placed like restored ones. -/
theorem settle_puts (g : Graph R) (nodes : List (Node R)) :
    g.settle (nodes.map .put) = g.placeNodes (nodes.map fun node => (node, .remote node.id)) := by
  rw [settle, placeNodes, List.foldl_map, List.foldl_map]
  rfl

/-- So are announced connections. -/
theorem settle_links (g : Graph R) (connections : List Connection) :
    g.settle (connections.map .link) = g.placeConnections (connections.map (·, false)) := by
  rw [settle, placeConnections, List.foldl_map, List.foldl_map]
  rfl

variable {g : Graph R} {nodes : List (Node R × NodeId)}
  {connections : List (Connection × ConnectionId)}

/-- The graph after a restore for which everything was created. -/
def restored (g : Graph R) (nodes : List (Node R × NodeId))
    (connections : List (Connection × ConnectionId)) : Graph R :=
  (g.placeNodes (nodes.map fun p => (p.1, .remote p.2))).placeConnections
    (connections.map fun p => ({ p.1 with id := p.2 }, false))

/-- That graph with everything announced. -/
def echoed (g : Graph R) (nodes : List (Node R × NodeId))
    (connections : List (Connection × ConnectionId)) : Graph R :=
  ((g.restored nodes connections).settle
    ((nodes.map fun p => p.1.replayed p.2).map .put)).settle
      ((connections.map fun p => p.1.replayed p.2).map .link)

theorem settle_echoes (g : Graph R) (nodes : List (Node R × NodeId))
    (connections : List (Connection × ConnectionId)) :
    (g.restored nodes connections).settle ((echoes nodes connections).filterMap (·.change?)) =
      g.echoed nodes connections := by
  rw [echoes, List.filterMap_append, settle_append, List.filterMap_map, List.filterMap_map, echoed,
    List.map_map, List.map_map, ← List.filterMap_eq_map, ← List.filterMap_eq_map]
  rfl

theorem Blank.nodes_restored (h : g.Blank) (hdistinct : (nodes.map (·.2)).Nodup) (id : NodeId) :
    (g.restored nodes connections).nodes.get? id =
      (nodes.map fun p => (p.2, { p.1 with id := p.2 })).lookup id := by
  rw [restored, h.nodes_placed _ (by simpa [Function.comp_def, NodeIdentity.id] using hdistinct),
    List.map_map]
  rfl

/-- **The announced nodes take the place of the restored ones.** -/
theorem Blank.nodes_echoed (h : g.Blank) (hdistinct : (nodes.map (·.2)).Nodup)
    (connections : List (Connection × ConnectionId)) :
    (g.echoed nodes connections).nodes =
      Table.ofList (nodes.map fun p => (p.2, p.1.replayed p.2)) := by
  have hkeys : ∀ f : Node R × NodeId → Node R, ((nodes.map fun p => (p.2, f p)).map (·.1)).Nodup := by
    intro f
    rw [List.map_map]
    exact hdistinct
  have htakes : ∀ p ∈ nodes, (g.restored nodes connections).Takes (p.1.replayed p.2) := by
    intro p hp stored hstored hsame
    -- What the announcement meets is the saved node, which it leaves only if they are the same.
    have hsaved : (nodes.map fun p => (p.2, ({ p.1 with id := p.2 } : Node R))).lookup p.2 =
        some { p.1 with id := p.2 } :=
      (Table.lookup_eq_some_iff (hkeys _)).2 (List.mem_map_of_mem hp)
    rw [h.nodes_restored hdistinct] at hstored
    cases hsaved.symm.trans hstored
    exact Node.eq_replayed_of_beq hsame
  refine Table.ext_get? fun id => ?_
  rw [echoed, settle_links, settle_puts, (nodes_placeConnections _ _).1, nodes_placeNodes,
    Table.get?_ofList_of_nodup (hkeys _), h.nodes_restored hdistinct, List.map_map, List.map_map]
  -- Every id is announced, so nothing is left of what was placed first.
  · refine Table.lookup_or_of_keys_eq ?_ id
    rw [List.map_map, List.map_map]
    rfl
  · intro q hq
    rw [List.map_map] at hq
    obtain ⟨p, hp, rfl⟩ := List.mem_map.1 hq
    exact htakes p hp
  · rw [List.map_map, List.map_map]
    exact hdistinct

/-- **So do the announced connections.** -/
theorem Blank.connections_echoed (h : g.Blank) (nodes : List (Node R × NodeId))
    (hloops : ∀ p ∈ connections, p.1.isSelfLoop = false) :
    (g.echoed nodes connections).connections =
      Table.ofList (connections.map fun p => (p.2, p.1.replayed p.2)) := by
  refine Table.ext_get? fun id => ?_
  rw [echoed, settle_links, settle_puts, connections_placeConnections,
    (connections_placeNodes _ _).1, restored, connections_placeConnections,
    (connections_placeNodes _ _).1, h.connections, Option.or_none, Table.get?_ofList, List.map_map,
    List.map_map, List.map_map]
  · refine Table.lookup_or_of_keys_eq ?_ id
    rw [List.map_reverse, List.map_reverse, List.map_map, List.map_map]
    rfl
  · intro q hq
    obtain ⟨p, hp, rfl⟩ := List.mem_map.1 hq
    exact hloops p hp
  · intro q hq
    rw [List.map_map] at hq
    obtain ⟨p, hp, rfl⟩ := List.mem_map.1 hq
    exact hloops p hp

end Graph

/-! ## The whole restore -/

namespace Snapshot

variable {s : Snapshot R} {names : List NodeId}

omit [Scalar R] in
/-- Where no id is saved twice, each saved node has the new id that is its own. -/
theorem newId_of_mem_zip (hdistinct : (s.nodes.map (·.id)).Nodup)
    (hlength : names.length = s.nodes.length) {p : Node R × NodeId} (hp : p ∈ s.nodes.zip names) :
    s.newId (names.map .remote) p.1.id = p.2 := by
  have hsaves : s.saves p.1.id = true :=
    List.any_eq_true.2 ⟨p.1, (List.of_mem_zip hp).1, beq_self_eq_true _⟩
  have hlength' : (names.map NodeIdentity.remote).length = s.nodes.length := by
    rw [List.length_map, hlength]
  obtain ⟨q, hq, hid, hnew, -⟩ := newId_of_saves hlength' hsaves
  rw [List.zip_map_right] at hq
  obtain ⟨q, hmem, rfl⟩ := List.mem_map.1 hq
  have hzip : ((s.nodes.zip names).map (·.1.id)).Nodup := by
    rw [← List.map_fst_zip (Nat.le_of_eq hlength.symm), List.map_map] at hdistinct
    exact hdistinct
  -- The last node with this id is the only one.
  have hsame : q = p := List.inj_on_of_nodup_map hzip hmem hp hid
  rw [hnew, hsame]
  rfl

omit [Scalar R] in
theorem map_zip_names {β : Type} (hdistinct : (s.nodes.map (·.id)).Nodup)
    (hlength : names.length = s.nodes.length) (f : Node R → NodeId → β) :
    (s.nodes.zip names).map (fun p => f p.1 p.2) =
      s.nodes.map fun node => f node (s.newId (names.map .remote) node.id) := by
  have hnodes : s.nodes = (s.nodes.zip names).map (·.1) :=
    (List.map_fst_zip (Nat.le_of_eq hlength.symm)).symm
  conv_rhs => rw [hnodes, List.map_map]
  refine List.map_congr_left fun p hp => ?_
  exact congrArg (f p.1) (newId_of_mem_zip hdistinct hlength hp).symm

end Snapshot

/-- Both sides have what is left of a snapshot, its nodes under the ids that `newId` gives them and
its kept connections under these ids, and nothing else. -/
structure Echoed (s : Snapshot R) (newId : NodeId → NodeId) (ids : List ConnectionId)
    (g : Graph R) (b : Backend R) : Prop where
  distinctNodes : (s.nodes.map fun node => newId node.id).Nodup
  nodes : g.nodes =
    Table.ofList (s.nodes.map fun node => (newId node.id, node.replayed (newId node.id)))
  backendNodes : b.nodes = g.nodes
  length : ids.length = s.kept.length
  distinctConnections : ids.Nodup
  connections : g.connections = Table.ofList ((s.kept.zip ids).map fun p => (p.2,
    Connection.replayed { p.1 with source := newId p.1.source, target := newId p.1.target } p.2))
  backendConnections : b.connections = g.connections

namespace Echoed

variable {s : Snapshot R} {newId : NodeId → NodeId} {ids : List ConnectionId} {g : Graph R}
  {b : Backend R}

omit [Scalar R] in
/-- **A saved node survives exactly if it has ports on both sides.** -/
theorem node_survives_iff (h : Echoed s newId ids g b) {node : Node R} (hnode : node ∈ s.nodes) :
    g.nodes.get? (newId node.id) = some { node with id := newId node.id } ↔
      node.inputs ≠ [] ∧ node.outputs ≠ [] := by
  have hget : g.nodes.get? (newId node.id) = some (node.replayed (newId node.id)) := by
    rw [h.nodes]
    refine Table.get?_ofList_of_mem ?_ (List.mem_map.2 ⟨node, hnode, rfl⟩)
    rw [List.map_map]
    exact h.distinctNodes
  rw [hget, Option.some.injEq]
  exact Node.replayed_eq_iff

omit [Scalar R] in
/-- **A kept connection survives exactly if the type of its data is not known.** -/
theorem connection_survives_iff (h : Echoed s newId ids g b) {p : Connection × ConnectionId}
    (hp : p ∈ s.kept.zip ids) :
    g.connections.get? p.2 = some { p.1 with
        id := p.2, source := newId p.1.source, target := newId p.1.target } ↔
      p.1.dataType = none := by
  have hget : g.connections.get? p.2 = some (Connection.replayed
      { p.1 with source := newId p.1.source, target := newId p.1.target } p.2) := by
    rw [h.connections]
    refine Table.get?_ofList_of_mem ?_ (List.mem_map.2 ⟨p, hp, rfl⟩)
    rw [List.map_map]
    exact (List.map_snd_zip (Nat.le_of_eq h.length)).symm ▸ h.distinctConnections
  rw [hget, Option.some.injEq]
  exact Connection.replayed_eq_iff
    (c := { p.1 with source := newId p.1.source, target := newId p.1.target })

end Echoed

/-- What was announced is what is left of the snapshot. -/
theorem Graph.Blank.echoed {s : Snapshot R} {names : List NodeId} {ids : List ConnectionId}
    {g : Graph R} {b : Backend R} (h : g.Blank) (hdistinct : (s.nodes.map (·.id)).Nodup)
    (hlength : names.length = s.nodes.length) (hnames : names.Nodup)
    (hlength' : ids.length = s.kept.length) (hids : ids.Nodup)
    (hnodes : b.nodes = Table.ofList ((s.nodes.zip names).map fun p => (p.2, p.1.replayed p.2)))
    (hconnections : b.connections = Table.ofList
      (((s.renamed (names.map .remote)).zip ids).map fun p => (p.2, p.1.replayed p.2))) :
    Echoed s (s.newId (names.map .remote)) ids
      (g.echoed (s.nodes.zip names) ((s.renamed (names.map .remote)).zip ids)) b := by
  have hzip : ((s.nodes.zip names).map (·.2)).Nodup := by
    rwa [List.map_snd_zip (Nat.le_of_eq hlength)]
  have hloops : ∀ p ∈ (s.renamed (names.map .remote)).zip ids, p.1.isSelfLoop = false := by
    intro p hp
    refine (Snapshot.ends_of_renamed ?_ ?_ (List.of_mem_zip hp).1).1
    · rw [List.length_map, hlength]
    · simpa [Function.comp_def, NodeIdentity.id] using hnames
  have hechoed := h.nodes_echoed hzip ((s.renamed (names.map .remote)).zip ids)
  have hechoed' := h.connections_echoed (s.nodes.zip names) hloops
  refine ⟨?_, hechoed.trans ?_, hnodes.trans hechoed.symm, hlength', hids, hechoed'.trans ?_,
    hconnections.trans hechoed'.symm⟩
  · rwa [Snapshot.map_zip_names hdistinct hlength fun _ id => id] at hzip
  · rw [Snapshot.map_zip_names hdistinct hlength fun node id => (id, node.replayed id)]
  · rw [Snapshot.renamed, List.zip_map_left, List.map_map]
    rfl

namespace Client

variable {w : LocalWorld R} {s : Snapshot R}

/-- A restore for which nothing is refused: everything is placed under new ids, and everything is
announced after the clearing. -/
theorem restoreSnapshot_willing (hreach : w.canvas.Reachable MemoryStore)
    (hlink : w.remote.Willing) (hdelivered : w.remote.pushes = []) :
    (restoreSnapshot s).Ends Link.handle w fun _ w₁ =>
      ∃ (names : List NodeId) (ids : List ConnectionId) (b : Backend R),
        names.length = s.nodes.length ∧ names.Nodup ∧ ids.length = s.kept.length ∧ ids.Nodup ∧
        let nodes := s.nodes.zip names
        let connections := (s.renamed (names.map .remote)).zip ids
        w₁.canvas.graph = w.canvas.graph.clear.1.restored nodes connections ∧
        w₁.canvas.saving.owedClears > 0 ∧
        w₁.remote = { w.remote with
          backend := b
          pushes := .canvasCleared :: echoes nodes connections } ∧
        b.nodes = Table.ofList (nodes.map fun p => (p.2, p.1.replayed p.2)) ∧
        b.connections = Table.ofList (connections.map fun p => (p.2, p.1.replayed p.2)) := by
  obtain ⟨b₀, hclear, hfailures, hnodes₀, hconnections₀⟩ := hlink.clearCanvas
  have hcleared : Link.Willing { w.remote with
      backend := b₀, pushes := w.remote.pushes ++ [.canvasCleared] } :=
    ⟨hlink.subscribed, hfailures⟩
  obtain ⟨names, ids, b, hlength, hnames, hlength', hids, hreplies, hnodes, hconnections⟩ :=
    hcleared.replies hconnections₀ hnodes₀ s w.ids
  have hdistinct : ((Link.answering.replies s ({ w.remote with
      backend := b₀, pushes := w.remote.pushes ++ [.canvasCleared] }, w.ids)).identities.map
        (·.id)).Nodup := by
    rw [hreplies]
    simpa [Function.comp_def, NodeIdentity.id] using hnames
  have hblank := hreach.marksStored.blank_clear
  obtain ⟨-, -, hremote⟩ := Answering.restore_replies hblank hdistinct
  have hgraph := Answering.restore_graph hblank hdistinct
  rw [hreplies] at hremote hgraph
  rw [Link.handle_eq]
  refine (restoreSnapshot_ends s).mono fun report w₁ hend => ?_
  simp only [Link.answering, hclear] at hend
  obtain ⟨-, hgraph₁, hremote₁, howed, -⟩ := hend
  refine ⟨names, ids, b, hlength, hnames, hlength', hids, ?_, ?_, ?_, hnodes, hconnections⟩
  · refine hgraph₁.trans (hgraph.trans ?_)
    rw [List.zip_map_right]
    rfl
  · rw [howed]
    exact Nat.succ_pos _
  · refine hremote₁.trans (hremote.trans ?_)
    rw [hdelivered]
    rfl

/-- **What a restore leaves once its announcements are in.** A client whose backend refuses nothing
restores a snapshot in which no node id stands twice, with nothing left to be delivered before. The
restore ends, and so does the delivery of what it had the backend announce. Both sides then have the
saved nodes and the kept connections under new ids, but not always as they were saved: a node is so
exactly if it has ports on both sides, and a connection exactly if the type of its data is not
known. -/
theorem restoreSnapshot_echoed (w : LocalWorld R) (s : Snapshot R)
    (hreach : w.canvas.Reachable MemoryStore) (hsub : w.remote.subscribed = true)
    (hdelivered : w.remote.pushes = []) (hwilling : w.remote.backend.failures = [])
    (hdistinct : (s.nodes.map (·.id)).Nodup) :
    ∃ report w₁ n w₂, w.run (restoreSnapshot s) = .ok (report, w₁) ∧
      w₁.pump none = .ok (n, w₂) ∧ w₂.remote.pushes = [] ∧
      ∃ newId ids, Echoed s newId ids w₂.canvas.graph w₂.remote.backend ∧
        (∀ node ∈ s.nodes,
          w₂.canvas.graph.nodes.get? (newId node.id) = some { node with id := newId node.id } ↔
            node.inputs ≠ [] ∧ node.outputs ≠ []) ∧
        ∀ p ∈ s.kept.zip ids,
          w₂.canvas.graph.connections.get? p.2 = some { p.1 with
            id := p.2, source := newId p.1.source, target := newId p.1.target } ↔
              p.1.dataType = none := by
  have hlink : w.remote.Willing := ⟨hsub, hwilling⟩
  obtain ⟨report, w₁, hrun, names, ids, b, hlength, hnames, hlength', hids, hgraph, howed, hremote,
    hnodes, hconnections⟩ := restoreSnapshot_willing (s := s) hreach hlink hdelivered
  -- The announcement of the clearing is owed, so it does not clear what was restored.
  obtain ⟨n, w₂, hpump, ⟨hgraph₂, -, -⟩, hremote₂⟩ := World.pump_owed (w := w₁) (by rw [hremote])
    (fun p hp => (adds_of_mem_echoes p hp).safe) (fun p hp => (adds_of_mem_echoes p hp).not_wipe)
    howed
  rw [hgraph, Graph.settle_echoes] at hgraph₂
  have hresult : Echoed s (s.newId (names.map .remote)) ids w₂.canvas.graph w₂.remote.backend := by
    rw [hgraph₂, hremote₂, hremote]
    exact hreach.marksStored.blank_clear.echoed hdistinct hlength hnames hlength' hids hnodes
      hconnections
  refine ⟨report, w₁, n, w₂, hrun, hpump, ?_, _, ids, hresult,
    fun node hnode => hresult.node_survives_iff hnode,
    fun p hp => hresult.connection_survives_iff hp⟩
  rw [hremote₂]

/-- A source without inputs, a sink without outputs, and a connection with a type of data. -/
def pipeSnapshot : Snapshot Rat where
  nodes :=
    [{ id := "a", type := "src", position := ⟨0, 0⟩, outputs := [{ name := "o" }] },
      { id := "b", type := "dst", position := ⟨5, 0⟩, inputs := [{ name := "i" }] }]
  connections :=
    [{ id := "c", source := "a", sourcePort := "o", target := "b", targetPort := "i",
       dataType := some "int" }]
  view := .initial

theorem restoreSnapshot_echoed_pipe :
    let w : LocalWorld Rat := (Session.initial {} .counting ⟨0, 0⟩ : Session Rat).world
    (pipeSnapshot.nodes.map (·.id)).Nodup ∧ w.remote.subscribed = true ∧
      w.remote.pushes = [] ∧ w.remote.backend.failures = [] ∧
      ∃ report w₁ n w₂, w.run (restoreSnapshot pipeSnapshot) = .ok (report, w₁) ∧
        w₁.pump none = .ok (n, w₂) ∧ w₂.remote.pushes = [] ∧
        ∃ newId ids, Echoed pipeSnapshot newId ids w₂.canvas.graph w₂.remote.backend := by
  refine ⟨by decide, rfl, rfl, rfl, ?_⟩
  obtain ⟨report, w₁, n, w₂, hrun, hpump, hdelivered, newId, ids, hechoed, -, -⟩ :=
    restoreSnapshot_echoed (Session.initial {} .counting ⟨0, 0⟩ : Session Rat).world pipeSnapshot
      (.initial {}) rfl rfl rfl (by decide)
  exact ⟨report, w₁, n, w₂, hrun, hpump, hdelivered, newId, ids, hechoed⟩

/-- None of it survives: on both sides the source has got an input, the sink an output, and the
connection has lost its type of data. -/
theorem restoreSnapshot_loses :
    (do
        let (_, w) ← (Session.initial {} .counting ⟨0, 0⟩ : Session Rat).world.run
          (restoreSnapshot pipeSnapshot)
        return (← w.pump none).2 : Except OverlayFault (LocalWorld Rat)).toOption.map (fun w =>
      [(w.canvas.graph.nodes, w.canvas.graph.connections),
          (w.remote.backend.nodes, w.remote.backend.connections)].map fun side =>
        (side.1.values.map fun node => (node.inputs.map (·.name), node.outputs.map (·.name)),
          side.2.values.map (·.dataType))) =
      some [([(["input"], ["o"]), (["i"], ["output"])], [none]),
        ([(["input"], ["o"]), (["i"], ["output"])], [none])] := by
  decide +kernel

end Client

end NodeCanvas
