import NodeCanvas.Client.Restore
import NodeCanvas.Proofs.Identity
/-!
# What a restore does

A restore asks the far side for each saved node and then for each saved connection whose ends it has
placed. What is asked, what is answered and what becomes of it does not depend on the graph:
`Answering.askNodes` and `Answering.askConnections` say it for a far side that answers as it likes.
The graph is then built by placing the answers one after the other (`Graph.placeNodes`,
`Graph.placeConnections`). `Client.restoreSnapshot_ends` says that a restore always ends, and that it
ends with this graph; nothing else that a restore does is about the graph.
-/

namespace NodeCanvas

variable {R σ ε : Type} [Scalar R]

/-! ## Placing -/

namespace Graph

/-- The graph with a restored node. -/
def place (g : Graph R) (node : Node R) (identity : NodeIdentity) : Graph R :=
  let g := g.alter (.put { node with id := identity.id })
  if identity.isLocal then g.markLocalNode identity.id else g

/-- The graph with a restored connection. -/
def placeConnection (g : Graph R) (c : Connection) (isLocal : Bool) : Graph R :=
  (if isLocal then g.markLocalConnection c.id else g).alter (.link c)

/-- The graph with restored nodes. -/
def placeNodes (g : Graph R) (nodes : List (Node R × NodeIdentity)) : Graph R :=
  nodes.foldl (fun g p => g.place p.1 p.2) g

/-- The graph with restored connections. -/
def placeConnections (g : Graph R) (connections : List (Connection × Bool)) : Graph R :=
  connections.foldl (fun g p => g.placeConnection p.1 p.2) g

/-- A node that is put is then on the graph as it is: nothing is in its place yet, or what is there is
this node or differs from it. -/
def Takes (g : Graph R) (node : Node R) : Prop :=
  ∀ stored, g.nodes.get? node.id = some stored → (stored == node) = true → stored = node

theorem takes_of_new {g : Graph R} {node : Node R} (h : g.nodes.get? node.id = none) :
    g.Takes node := by
  intro stored hstored
  rw [h] at hstored
  cases hstored

theorem nodes_place {g : Graph R} {node : Node R} {identity : NodeIdentity}
    (h : g.Takes { node with id := identity.id }) (id : NodeId) :
    (g.place node identity).nodes.get? id =
      if id = identity.id then some { node with id := identity.id } else g.nodes.get? id := by
  have hput : (g.alter (.put { node with id := identity.id })).nodes.get? id =
      if id = identity.id then some { node with id := identity.id } else g.nodes.get? id := by
    rw [nodes_alter, GraphChange.onNode]
    by_cases hid : id = identity.id
    · subst hid
      rw [if_pos rfl, if_pos rfl]
      split
      · rename_i hsame
        cases hstored : g.nodes.get? identity.id with
        | none =>
          rw [hstored] at hsame
          cases hsame
        | some stored =>
          rw [hstored] at hsame
          rw [h stored hstored hsame]
      · rfl
    · rw [if_neg hid, if_neg hid]
  rw [place]
  split <;> exact hput

theorem contains_place (g : Graph R) (node : Node R) (identity : NodeIdentity) (id : NodeId) :
    (g.place node identity).nodes.contains id = true ↔
      id = identity.id ∨ g.nodes.contains id = true := by
  have hput : (g.alter (.put { node with id := identity.id })).nodes.contains id = true ↔
      id = identity.id ∨ g.nodes.contains id = true := by
    rw [contains_alter g (by simp)]
    constructor
    · rintro (⟨_, ⟨⟩, rfl⟩ | ⟨hid, -⟩)
      · exact .inl rfl
      · exact .inr hid
    · rintro (rfl | hid)
      · exact .inl ⟨_, rfl, rfl⟩
      · exact .inr ⟨hid, by simp⟩
  rw [place]
  split <;> exact hput

@[simp] theorem connections_place (g : Graph R) (node : Node R) (identity : NodeIdentity) :
    (g.place node identity).connections = g.connections := by
  rw [place]
  split <;> exact connections_upsertNode g _

@[simp] theorem localConnections_place (g : Graph R) (node : Node R) (identity : NodeIdentity) :
    (g.place node identity).localConnections = g.localConnections := by
  rw [place]
  split <;> exact localConnections_upsertNode g _

theorem isLocalNode_place (g : Graph R) (node : Node R) (identity : NodeIdentity) (id : NodeId) :
    (g.place node identity).isLocalNode id = true ↔
      identity = .localOnly id ∨ g.isLocalNode id = true := by
  cases identity with
  | remote new => simp [place, NodeIdentity.isLocal, isLocalNode, alter]
  | localOnly new =>
    simp only [place, NodeIdentity.isLocal, if_true, isLocalNode, markLocalNode, alter,
      localNodes_upsertNode, KeySet.add, Table.contains, Table.get?_insert, NodeIdentity.id,
      NodeIdentity.localOnly.injEq]
    by_cases hid : id = new
    · simp [hid]
    · simp [hid, Ne.symm hid]

/-- A connection between two nodes is stored, and marked if it exists only here. -/
theorem placeConnection_eq (g : Graph R) (c : Connection) (isLocal : Bool) :
    g.placeConnection c isLocal =
      if isLocal then (g.alter (.link c)).markLocalConnection c.id else g.alter (.link c) := by
  cases isLocal with
  | false => rfl
  | true =>
    simp only [placeConnection, if_true, alter, upsertConnection, markLocalConnection]
    by_cases hloop : c.isSelfLoop = true
    · simp [hloop]
    · by_cases hsame : g.connections.get? c.id = some c
      · simp [hloop, hsame]
      · simp [hloop, hsame]

@[simp] theorem nodes_placeConnection (g : Graph R) (c : Connection) (isLocal : Bool) :
    (g.placeConnection c isLocal).nodes = g.nodes := by
  rw [placeConnection_eq]
  split <;> exact nodes_link g c

theorem connections_placeConnection (g : Graph R) {c : Connection} (hloop : c.isSelfLoop = false)
    (isLocal : Bool) (id : ConnectionId) :
    (g.placeConnection c isLocal).connections.get? id =
      if id = c.id then some c else g.connections.get? id := by
  have hlink := connections_link g c id
  simp only [hloop, true_and] at hlink
  rw [placeConnection_eq]
  split <;> exact hlink

theorem isLocalConnection_placeConnection (g : Graph R) (c : Connection) (isLocal : Bool)
    (id : ConnectionId) :
    (g.placeConnection c isLocal).isLocalConnection id = true ↔
      (isLocal = true ∧ id = c.id) ∨ g.isLocalConnection id = true := by
  rw [placeConnection, isLocalConnection, (marks_link _ c).2]
  cases isLocal with
  | false => simp [isLocalConnection]
  | true =>
    simp only [if_true, markLocalConnection, KeySet.add, Table.contains, Table.get?_insert,
      isLocalConnection]
    by_cases hid : id = c.id
    · simp [hid]
    · simp [hid]

@[simp] theorem isLocalNode_placeConnection (g : Graph R) (c : Connection) (isLocal : Bool) :
    (g.placeConnection c isLocal).isLocalNode = g.isLocalNode := by
  rw [placeConnection]
  funext id
  rw [isLocalNode, (marks_link _ c).1]
  split <;> rfl

end Graph

/-! ## Asking -/

namespace Answering

/-- Ask for a node: it gets the id that is answered, or one from here if it is refused. -/
def askNode (answer : Answering R ε) (node : Node R) (st : ε × IdSource) :
    NodeIdentity × ε × IdSource :=
  match answer (.createNode (.ofNode node)) st.1 with
  | (.ok id, remote) => (.remote id, remote, st.2)
  | (.error _, remote) =>
    let (id, ids) := freshLocalNode.run st.2
    (.localOnly id, remote, ids)

/-- Ask for nodes, one after the other. -/
def askNodes (answer : Answering R ε) :
    List (Node R) → ε × IdSource → List NodeIdentity × ε × IdSource
  | [], st => ([], st)
  | node :: nodes, st =>
    let (identity, st) := answer.askNode node st
    let (identities, st) := answer.askNodes nodes st
    (identity :: identities, st)

/-- Keep a connection here alone, under an id from here. -/
def keepHere (c : Connection) (st : ε × IdSource) : (Connection × Bool) × ε × IdSource :=
  let (id, ids) := freshLocalConnection.run st.2
  (({ c with id }, true), st.1, ids)

/-- Ask for a connection, unless one of its ends exists only here: it gets the id that is answered,
or is kept here. The flag says that it exists only here. -/
def askConnection (answer : Answering R ε) (isLocal : NodeId → Bool) (c : Connection)
    (st : ε × IdSource) : (Connection × Bool) × ε × IdSource :=
  if isLocal c.source || isLocal c.target then keepHere c st
  else
    match answer (.createConnection (.ofConnection c)) st.1 with
    | (.ok id, remote) => (({ c with id }, false), remote, st.2)
    | (.error _, remote) => keepHere c (remote, st.2)

/-- Ask for connections, one after the other. -/
def askConnections (answer : Answering R ε) (isLocal : NodeId → Bool) :
    List Connection → ε × IdSource → List (Connection × Bool) × ε × IdSource
  | [], st => ([], st)
  | c :: cs, st =>
    let (first, st) := answer.askConnection isLocal c st
    let (placed, st) := answer.askConnections isLocal cs st
    (first :: placed, st)

end Answering

/-! ## Counting -/

namespace RestoreReport

/-- The report with nodes counted. -/
def countNodes (r : RestoreReport) (identities : List NodeIdentity) : RestoreReport :=
  { r with
    nodesReplayed := r.nodesReplayed + identities.countP (!·.isLocal)
    nodesLocal := r.nodesLocal + identities.countP (·.isLocal) }

/-- The report with connections counted, those skipped and those placed. -/
def countConnections (r : RestoreReport) (skipped : Nat) (placed : List (Connection × Bool)) :
    RestoreReport :=
  { r with
    connectionsReplayed := r.connectionsReplayed + placed.countP (!·.2)
    connectionsLocal := r.connectionsLocal + placed.countP (·.2)
    connectionsSkipped := r.connectionsSkipped + skipped }

end RestoreReport

/-! ## What the programs do -/

/-- The world with a graph, after the far side was asked. -/
def World.asked (w : World R σ ε) (graph : Graph R) (st : ε × IdSource) : World R σ ε :=
  { w with canvas := { w.canvas with graph }, remote := st.1, ids := st.2 }

omit [Scalar R] in
theorem World.after_onGraph (w : World R σ ε) (f : Graph R → Graph R) :
    w.after (Edit.onGraph (fun g => (f g, ())) w.moment w.canvas) =
      w.asked (f w.canvas.graph) (w.remote, w.ids) := by
  simp [World.after, World.asked, Edit.onGraph, Edit.apply]

namespace Client

variable {answer : Answering R ε} {w : World R σ ε}

theorem placeNode_eq (node : Node R) (identity : NodeIdentity) :
    placeNode node identity = Edit.onGraph fun g => (g.place node identity, ()) := rfl

theorem placeConnection_eq (c : Connection) (isLocal : Bool) :
    (placeConnection c isLocal : Edit R Unit) =
      Edit.onGraph fun g => (g.placeConnection c isLocal, ()) := by
  rw [placeConnection]
  congr 1
  funext g
  simp only [Graph.placeConnection, Graph.alter]
  cases (if isLocal then g.markLocalConnection c.id else g).upsertConnection c <;> rfl

omit [Scalar R] in
theorem requestNode_ends (node : Node R) {post : NodeIdentity → World R σ ε → Prop} :
    (requestNode node).Ends answer.handler w post ↔
      post (answer.askNode node (w.remote, w.ids)).1
        (w.asked w.canvas.graph (answer.askNode node (w.remote, w.ids)).2) := by
  rw [requestNode, Program.ends_bind, Program.ends_send, Answering.askNode]
  rcases answer (.createNode (.ofNode node)) w.remote with ⟨_ | id, remote⟩
  · exact Program.ends_bind.trans (Program.ends_fresh.trans Program.ends_pure)
  · exact Program.ends_pure

theorem replayNode_ends (node : Node R) {post : NodeIdentity → World R σ ε → Prop} :
    (replayNode node).Ends answer.handler w post ↔
      post (answer.askNode node (w.remote, w.ids)).1
        (w.asked (w.canvas.graph.place node (answer.askNode node (w.remote, w.ids)).1)
          (answer.askNode node (w.remote, w.ids)).2) := by
  rw [replayNode, Program.ends_bind, requestNode_ends, Program.ends_bind, Program.ends_atomically,
    placeNode_eq, World.after_onGraph]
  exact Program.ends_pure

/-- A count of nodes is one of the first and then one of the rest. -/
theorem countNodes_cons (r : RestoreReport) (identity : NodeIdentity)
    (identities : List NodeIdentity) :
    r.countNodes (identity :: identities) =
      (if identity.isLocal then { r with nodesLocal := r.nodesLocal + 1 }
        else { r with nodesReplayed := r.nodesReplayed + 1 }).countNodes identities := by
  cases hlocal : identity.isLocal <;> simp [RestoreReport.countNodes, hlocal] <;> omega

theorem replayNodes_ends (nodes : List (Node R)) (replay : Replay)
    {post : Replay → World R σ ε → Prop} :
    (replayNodes nodes replay).Ends answer.handler w post ↔
      let (identities, st) := answer.askNodes nodes (w.remote, w.ids)
      post ⟨replay.report.countNodes identities,
          ((nodes.map (·.id)).zip (identities.map (·.id))).foldl
            (fun t e => t.insert e.1 e.2) replay.names⟩
        (w.asked (w.canvas.graph.placeNodes (nodes.zip identities)) st) := by
  induction nodes generalizing replay w with
  | nil => exact Program.ends_pure
  | cons node nodes ih =>
    rw [replayNodes, Program.ends_bind, replayNode_ends, ih]
    simp only [Answering.askNodes, countNodes_cons]
    rfl

omit [Scalar R] in
theorem requestConnection_ends (c : Connection) {post : Option ConnectionId → World R σ ε → Prop} :
    (requestConnection c).Ends answer.handler w post ↔
      if w.canvas.graph.isLocalNode c.source || w.canvas.graph.isLocalNode c.target then
        post none w
      else
        match answer (.createConnection (.ofConnection c)) w.remote with
        | (.ok id, remote) => post (some id) { w with remote }
        | (.error _, remote) => post none { w with remote } := by
  rw [requestConnection, Program.ends_bind, Program.ends_read]
  split
  · exact Program.ends_pure
  · refine Program.ends_bind.trans (Program.ends_send.trans ?_)
    rcases answer (.createConnection (.ofConnection c)) w.remote with ⟨_ | id, remote⟩
    · exact Program.ends_pure
    · exact Program.ends_pure

/-- What is done with a connection that the far side does not have. -/
theorem keepHere_ends (c : Connection) {post : Bool → World R σ ε → Prop} :
    Program.Ends answer.handler
        (do
          let id ← .fresh freshLocalConnection
          .atomically (placeConnection { c with id } true)
          return false) w post ↔
      let (placed, st) := Answering.keepHere c (w.remote, w.ids)
      post (!placed.2) (w.asked (w.canvas.graph.placeConnection placed.1 placed.2) st) := by
  rw [Program.ends_bind, Program.ends_fresh, Program.ends_bind, Program.ends_atomically,
    placeConnection_eq, World.after_onGraph]
  exact Program.ends_pure

theorem replayConnection_ends (c : Connection) {post : Bool → World R σ ε → Prop} :
    (replayConnection c).Ends answer.handler w post ↔
      let (placed, st) := answer.askConnection w.canvas.graph.isLocalNode c (w.remote, w.ids)
      post (!placed.2) (w.asked (w.canvas.graph.placeConnection placed.1 placed.2) st) := by
  rw [replayConnection, Program.ends_bind, requestConnection_ends]
  simp only [Answering.askConnection]
  split
  · exact keepHere_ends c
  · rcases answer (.createConnection (.ofConnection c)) w.remote with ⟨_ | id, remote⟩
    · exact keepHere_ends c
    · refine Program.ends_bind.trans (Program.ends_atomically.trans ?_)
      rw [placeConnection_eq, World.after_onGraph]
      exact Program.ends_pure

/-- A count of connections is one of the first and then one of the rest. -/
theorem countConnections_cons (r : RestoreReport) (skipped : Nat) (first : Connection × Bool)
    (placed : List (Connection × Bool)) :
    r.countConnections skipped (first :: placed) =
      (if !first.2 then { r with connectionsReplayed := r.connectionsReplayed + 1 }
        else { r with connectionsLocal := r.connectionsLocal + 1 }).countConnections skipped
          placed := by
  cases hlocal : first.2 <;> simp [RestoreReport.countConnections, hlocal] <;> omega

/-- How many connections are skipped. -/
def skipped (names : Table NodeId) (connections : List Connection) : Nat :=
  connections.countP fun c => (renamed? names c).isNone

theorem replayConnections_ends (names : Table NodeId) (connections : List Connection)
    (report : RestoreReport) {post : RestoreReport → World R σ ε → Prop} :
    (replayConnections names connections report).Ends answer.handler w post ↔
      let (placed, st) := answer.askConnections w.canvas.graph.isLocalNode
        (connections.filterMap (renamed? names)) (w.remote, w.ids)
      post (report.countConnections (skipped names connections) placed)
        (w.asked (w.canvas.graph.placeConnections placed) st) := by
  induction connections generalizing report w with
  | nil => exact Program.ends_pure
  | cons c connections ih =>
    rw [replayConnections]
    cases hrenamed : renamed? names c with
    | none =>
      rw [ih]
      have hcount : skipped names (c :: connections) =
          skipped names connections + 1 := by
        simp [skipped, hrenamed]
      simp only [List.filterMap_cons_none hrenamed, hcount, RestoreReport.countConnections,
        Nat.add_assoc, Nat.add_comm 1]
    | some renamed =>
      have hcount : skipped names (c :: connections) =
          skipped names connections := by
        simp [skipped, hrenamed]
      simp only [List.filterMap_cons_some hrenamed, hcount]
      rw [Program.ends_bind, replayConnection_ends]
      simp only [Answering.askConnections, countConnections_cons]
      generalize answer.askConnection _ renamed _ = asked
      obtain ⟨⟨first, isLocal⟩, st⟩ := asked
      -- Placing a connection marks no node, so the others are asked for on the same terms.
      cases isLocal with
      | true =>
        refine (ih _).trans ?_
        simp only [World.asked, Graph.isLocalNode_placeConnection]
        rfl
      | false =>
        refine (ih _).trans ?_
        simp only [World.asked, Graph.isLocalNode_placeConnection]
        rfl

end Client

/-! ## The whole restore -/

/-- What comes of a restore: the identities of the saved nodes, the connections that are placed, and
the graph and the far side in the end. -/
structure Restored (R ε : Type) where
  identities : List NodeIdentity
  placed : List (Connection × Bool)
  graph : Graph R
  remote : ε

/-- The new id of each saved node; of several with one id the last counts. -/
def newNames (nodes : List (Node R)) (identities : List NodeIdentity) : Table NodeId :=
  .ofList ((nodes.map (·.id)).zip (identities.map (·.id)))

/-- What comes of a snapshot that is put on a graph. -/
def Answering.restore (answer : Answering R ε) (s : Snapshot R) (g : Graph R) (st : ε × IdSource) :
    Restored R ε :=
  let (identities, st) := answer.askNodes s.nodes st
  let g := g.placeNodes (s.nodes.zip identities)
  let names := newNames s.nodes identities
  let (placed, st) := answer.askConnections g.isLocalNode
    (s.connections.filterMap (Client.renamed? names)) st
  { identities, placed, graph := g.placeConnections placed, remote := st.1 }

/-- The report about it, before the save. -/
def Restored.report (r : Restored R ε) (s : Snapshot R) (remoteCleared : Bool) : RestoreReport :=
  (RestoreReport.countNodes { remoteCleared } r.identities).countConnections
    (Client.skipped (newNames s.nodes r.identities) s.connections) r.placed

/-- A world whose graph and far side are those of another. -/
structure World.Still (w w' : World R σ ε) : Prop where
  canvas : w.canvas.Becomes w'.canvas w.canvas.graph w.canvas.saving.owedClears
  remote : w'.remote = w.remote

namespace Client

variable {answer : Answering R ε} {w : World R σ ε}

omit [Scalar R] in
theorem quiet_beginSave : (beginSave : Edit R _).Quiet :=
  .bind (Edit.quiet_onSaving (fun _ => rfl) fun _ => rfl) fun _ =>
    .bind (Edit.quiet_setSaveStatus _) fun _ => .bind (Edit.quiet_read _) fun _ =>
      .bind (fun _ _ => ⟨rfl, rfl, rfl⟩) fun _ => Edit.quiet_pure _

omit [Scalar R] in
theorem quiet_endSave (result : Except DocumentError Unit) : (endSave result : Edit R _).Quiet := by
  cases result <;> exact Edit.quiet_setSaveStatus _

/-- A save ends, and is not about the graph. -/
theorem saveNow_ends [DocumentStore σ] {handle : Handler R σ ε} :
    (saveNow : Attempt R σ Unit).Ends handle w fun _ w' => w.Still w' := by
  obtain ⟨hgraph, howed, hrestoring⟩ := quiet_beginSave w.moment w.canvas
  refine Attempt.ends_bind.2 (Attempt.ends_atomically.2 ?_)
  refine Attempt.ends_bind.2 (Attempt.ends_access.2 ?_)
  refine Attempt.ends_bind.2 (Attempt.ends_atomically.2 (Attempt.ends_document.2 ?_))
  obtain ⟨hgraph', howed', hrestoring'⟩ :=
    quiet_endSave _ w.moment (beginSave w.moment w.canvas).canvas
  exact ⟨⟨hgraph'.trans hgraph, howed'.trans howed, hrestoring'.trans hrestoring⟩, rfl⟩

omit [Scalar R] in
/-- The far side is asked to clear its canvas, and the announcement of that is owed if it does. -/
theorem clearRemote_ends :
    (clearRemote : Program R σ Bool).Ends answer.handler w fun cleared w' =>
      cleared = (answer .clearCanvas w.remote).1.isOk ∧
        w.canvas.Becomes w'.canvas w.canvas.graph
          (w.canvas.saving.owedClears + if cleared then 1 else 0) ∧
        w'.remote = (answer .clearCanvas w.remote).2 ∧ w'.ids = w.ids := by
  refine Program.ends_bind.2 (Program.ends_send.2 ?_)
  cases (answer .clearCanvas w.remote).1 with
  | ok reply =>
    refine Program.ends_bind.2 (Program.ends_atomically.2 (Program.ends_pure.2 ?_))
    exact ⟨rfl, ⟨rfl, rfl, rfl⟩, rfl, rfl⟩
  | error cause => exact Program.ends_pure.2 ⟨rfl, ⟨rfl, rfl, rfl⟩, rfl, rfl⟩

/-- The end of a restore is not about the graph. -/
theorem finishRestore_ends [DocumentStore σ] {handle : Handler R σ ε} (view : View R)
    (report : RestoreReport) :
    Program.Ends handle
      (do
        let (revision, view) ← .atomically (endRestore view)
        .tell (.graphChanged revision)
        .tell (.viewChanged view)
        saveRestored (R := R) (σ := σ) report) w fun report' w' =>
      report' = { report with saved := report'.saved } ∧ w'.canvas.graph = w.canvas.graph ∧
        w'.remote = w.remote ∧ w'.canvas.saving.owedClears = w.canvas.saving.owedClears ∧
        w'.canvas.saving.restoring = false := by
  refine Program.ends_bind.2 (Program.ends_atomically.2 ?_)
  refine Program.ends_bind.2 (Program.ends_tell.2 ?_)
  refine Program.ends_bind.2 (Program.ends_tell.2 ?_)
  refine Program.ends_bind.2 (saveNow_ends.mono fun saved w' hstill => ?_)
  obtain ⟨⟨hgraph, howed, hrestoring⟩, hremote⟩ := hstill
  dsimp only
  split
  · refine Program.ends_bind.2 (Program.ends_tell.2 (Program.ends_pure.2 ?_))
    exact ⟨rfl, hgraph, hremote, howed, hrestoring⟩
  · exact Program.ends_pure.2 ⟨rfl, hgraph, hremote, howed, hrestoring⟩

/-- **What a restore comes to**: both sides are cleared, if the far side lets it, and the snapshot is
put on the empty graph; the announcement of the clearing is owed. -/
theorem restoreSnapshot_ends [DocumentStore σ] (s : Snapshot R) :
    (restoreSnapshot s : Program R σ RestoreReport).Ends answer.handler w fun report w' =>
      let cleared := answer .clearCanvas w.remote
      let restored := answer.restore s w.canvas.graph.clear.1 (cleared.2, w.ids)
      report = { restored.report s cleared.1.isOk with saved := report.saved } ∧
        w'.canvas.graph = restored.graph ∧ w'.remote = restored.remote ∧
        w'.canvas.saving.owedClears =
          w.canvas.saving.owedClears + (if cleared.1.isOk then 1 else 0) ∧
        w'.canvas.saving.restoring = false := by
  refine Program.ends_bind.2 (Program.ends_atomically.2 ?_)
  refine Program.ends_bind.2 (clearRemote_ends.mono fun cleared w₁ hcleared => ?_)
  obtain ⟨rfl, ⟨hgraph, howed, -⟩, hremote, hids⟩ := hcleared
  have hrestored : answer.restore s w₁.canvas.graph.clear.1 (w₁.remote, w₁.ids) =
      answer.restore s w.canvas.graph.clear.1 ((answer .clearCanvas w.remote).2, w.ids) := by
    rw [hgraph, hremote, hids]
    rfl
  refine Program.ends_bind.2 (Program.ends_atomically.2 ?_)
  refine Program.ends_bind.2 ((replayNodes_ends _ _).2 ?_)
  refine Program.ends_bind.2 ((replayConnections_ends _ _ _).2 ?_)
  refine (finishRestore_ends _ _).mono fun report w' hend => ?_
  obtain ⟨hreport, hgraph', hremote', howed', hrestoring⟩ := hend
  dsimp only
  rw [← hrestored]
  exact ⟨hreport, hgraph', hremote', howed'.trans howed, hrestoring⟩

end Client

end NodeCanvas
