import Mathlib.Data.List.Nodup
import NodeCanvas.Proofs.Backend
import NodeCanvas.Proofs.Reachable
/-!
# A restore rebuilds what was saved

The result of a restore is said without the program that makes it. `Snapshot.kept` are the saved
connections that can be restored, and `Snapshot.renamed` are they between the new ids of their ends.
`Answering.replies` is what a far side that answers as it likes makes of the nodes and of these
connections. Then `Rebuilt` says that a graph holds exactly the saved nodes and the kept connections
under their new ids, with marks on what the far side did not take, and that the report counts them.

`Client.restoreSnapshot_rebuilds` proves this from every reachable canvas, if no new id is given
twice. The hard part is the table of new names, in which a later saved node with the same id takes
the place of an earlier one (`Snapshot.renamed?_eq`), and that what one answer does is not undone by
later ones (`Graph.nodes_placeNodes`, `Graph.connections_placeConnections`).
-/

namespace NodeCanvas

variable {R σ ε : Type} [Scalar R]

/-! ## What is to be rebuilt -/

namespace Snapshot

/-- The new id of the last saved node with an id; an id that no saved node has stays. -/
def newId (s : Snapshot R) (identities : List NodeIdentity) (id : NodeId) : NodeId :=
  (((s.nodes.zip identities).reverse.find? (·.1.id == id)).map (·.2.id)).getD id

/-- The saved nodes, each under its new id. -/
def renamedNodes (s : Snapshot R) (identities : List NodeIdentity) : List (Node R) :=
  (s.nodes.zip identities).map fun p => { p.1 with id := p.2.id }

/-- Whether some saved node has an id. -/
def saves (s : Snapshot R) (id : NodeId) : Bool := s.nodes.any (·.id == id)

/-- The saved connections whose ends are two ids of saved nodes. -/
def kept (s : Snapshot R) : List Connection :=
  s.connections.filter fun c => s.saves c.source && s.saves c.target && c.source != c.target

/-- The kept connections, between the new ids of their ends. -/
def renamed (s : Snapshot R) (identities : List NodeIdentity) : List Connection :=
  s.kept.map fun c =>
    { c with source := s.newId identities c.source, target := s.newId identities c.target }

end Snapshot

/-- What a far side makes of a snapshot: what each saved node becomes, what each kept connection
becomes and whether it exists only here, and the far side itself. -/
structure Replies (ε : Type) where
  identities : List NodeIdentity
  placed : List (Connection × Bool)
  remote : ε

/-- Ask for the saved nodes, and then for the kept connections. -/
def Answering.replies (answer : Answering R ε) (s : Snapshot R) (st : ε × IdSource) : Replies ε :=
  let (identities, st) := answer.askNodes s.nodes st
  let (placed, st) := answer.askConnections (fun id => identities.contains (.localOnly id))
    (s.renamed identities) st
  { identities, placed, remote := st.1 }

/-- The graph is the saved one under new ids, and the report counts what became of it. -/
structure Rebuilt (s : Snapshot R) (replies : Replies ε) (report : RestoreReport) (g : Graph R) :
    Prop where
  /-- There is one new node for each saved one. -/
  identities : replies.identities.length = s.nodes.length
  nodes : g.nodes.values.Perm (s.renamedNodes replies.identities)
  nodeKeys : ∀ id node, g.nodes.get? id = some node → node.id = id
  nodeMarks : ∀ id, g.isLocalNode id = true ↔ .localOnly id ∈ replies.identities
  /-- There is one new connection for each kept one, which differs from it by its id. -/
  placed : List.Forall₂ (fun c p => p.1 = { c with id := p.1.id }) (s.renamed replies.identities)
    replies.placed
  connections : g.connections.values.Perm (replies.placed.map (·.1))
  connectionKeys : ∀ id c, g.connections.get? id = some c → c.id = id
  connectionMarks : ∀ id, g.isLocalConnection id = true ↔ ∃ c, (c, true) ∈ replies.placed ∧ c.id = id
  nodesReplayed : report.nodesReplayed = replies.identities.countP (!·.isLocal)
  nodesLocal : report.nodesLocal = replies.identities.countP (·.isLocal)
  nodeCount : report.nodesReplayed + report.nodesLocal = s.nodes.length
  connectionsReplayed : report.connectionsReplayed = replies.placed.countP (!·.2)
  connectionsLocal : report.connectionsLocal = replies.placed.countP (·.2)
  connectionCount : report.connectionsReplayed + report.connectionsLocal +
    report.connectionsSkipped = s.connections.length

/-! ## Asking -/

namespace Answering

omit [Scalar R]

variable (answer : Answering R ε)

theorem length_askNodes (nodes : List (Node R)) (st : ε × IdSource) :
    (answer.askNodes nodes st).1.length = nodes.length := by
  induction nodes generalizing st with
  | nil => rfl
  | cons node nodes ih => exact congrArg (· + 1) (ih _)

theorem keepHere_fst (c : Connection) (st : ε × IdSource) :
    (keepHere c st).1.1 = { c with id := (keepHere c st).1.1.id } := rfl

/-- A connection gets a new id and stays as it is otherwise. -/
theorem askConnection_fst (isLocal : NodeId → Bool) (c : Connection) (st : ε × IdSource) :
    (answer.askConnection isLocal c st).1.1 =
      { c with id := (answer.askConnection isLocal c st).1.1.id } := by
  rw [askConnection]
  split
  · exact keepHere_fst c st
  · split
    · rfl
    · exact keepHere_fst c _

theorem forall₂_askConnections (isLocal : NodeId → Bool) (cs : List Connection)
    (st : ε × IdSource) :
    List.Forall₂ (fun c p => p.1 = { c with id := p.1.id }) cs
      (answer.askConnections isLocal cs st).1 := by
  induction cs generalizing st with
  | nil => exact .nil
  | cons c cs ih => exact .cons (answer.askConnection_fst isLocal c st) (ih _)

end Answering

/-! ## Placing -/

namespace Graph

/-- What is placed under ids no two of which are the same stays where it was placed. -/
theorem nodes_placeNodes {g : Graph R} {nodes : List (Node R × NodeIdentity)}
    (htakes : ∀ p ∈ nodes, g.Takes { p.1 with id := p.2.id }) (hdistinct : (nodes.map (·.2.id)).Nodup)
    (id : NodeId) :
    (g.placeNodes nodes).nodes.get? id =
      ((nodes.map fun p => (p.2.id, { p.1 with id := p.2.id })).lookup id).or
        (g.nodes.get? id) := by
  induction nodes generalizing g with
  | nil => rfl
  | cons p nodes ih =>
    have hplaced := nodes_place (htakes p List.mem_cons_self)
    rw [List.map_cons, List.nodup_cons] at hdistinct
    -- What is placed later has another id, so it meets what was there at the start.
    have hlater : ∀ q ∈ nodes, (g.place p.1 p.2).Takes { q.1 with id := q.2.id } := by
      intro q hq stored hstored
      have hne : q.2.id ≠ p.2.id := fun heq => hdistinct.1 (heq ▸ List.mem_map_of_mem hq)
      rw [hplaced, if_neg hne] at hstored
      exact htakes q (List.mem_cons_of_mem p hq) stored hstored
    change ((g.place p.1 p.2).placeNodes nodes).nodes.get? id = _
    rw [ih hlater hdistinct.2, hplaced, List.map_cons, Table.lookup_cons_eq_ite]
    by_cases hid : id = p.2.id
    · have hnone : (nodes.map fun p => (p.2.id, { p.1 with id := p.2.id })).lookup id = none := by
        rw [Table.lookup_eq_none_iff, List.map_map, hid]
        exact hdistinct.1
      rw [hnone, if_pos hid, if_pos hid]
      rfl
    · rw [if_neg hid, if_neg hid]

theorem connections_placeNodes (g : Graph R) (nodes : List (Node R × NodeIdentity)) :
    (g.placeNodes nodes).connections = g.connections ∧
      (g.placeNodes nodes).localConnections = g.localConnections := by
  induction nodes generalizing g with
  | nil => exact ⟨rfl, rfl⟩
  | cons p nodes ih =>
    obtain ⟨hconnections, hmarks⟩ := ih (g.place p.1 p.2)
    exact ⟨hconnections.trans (connections_place g _ _),
      hmarks.trans (localConnections_place g _ _)⟩

theorem isLocalNode_placeNodes (g : Graph R) (nodes : List (Node R × NodeIdentity)) (id : NodeId) :
    (g.placeNodes nodes).isLocalNode id = true ↔
      .localOnly id ∈ nodes.map (·.2) ∨ g.isLocalNode id = true := by
  induction nodes generalizing g with
  | nil => simp [placeNodes]
  | cons p nodes ih =>
    refine (ih (g.place p.1 p.2)).trans ?_
    rw [isLocalNode_place, List.map_cons, List.mem_cons, eq_comm (a := p.2)]
    tauto

theorem nodes_placeConnections (g : Graph R) (placed : List (Connection × Bool)) :
    (g.placeConnections placed).nodes = g.nodes ∧
      (g.placeConnections placed).isLocalNode = g.isLocalNode := by
  induction placed generalizing g with
  | nil => exact ⟨rfl, rfl⟩
  | cons p placed ih =>
    obtain ⟨hnodes, hmarks⟩ := ih (g.placeConnection p.1 p.2)
    exact ⟨hnodes.trans (nodes_placeConnection g _ _),
      hmarks.trans (isLocalNode_placeConnection g _ _)⟩

/-- Of several connections that are placed under one id the last stays. -/
theorem connections_placeConnections (g : Graph R) {placed : List (Connection × Bool)}
    (hloops : ∀ p ∈ placed, p.1.isSelfLoop = false) (id : ConnectionId) :
    (g.placeConnections placed).connections.get? id =
      ((placed.map fun p => (p.1.id, p.1)).reverse.lookup id).or (g.connections.get? id) := by
  induction placed generalizing g with
  | nil => rfl
  | cons p placed ih =>
    refine (ih (g.placeConnection p.1 p.2) fun q hq => hloops q (List.mem_cons_of_mem p hq)).trans ?_
    rw [connections_placeConnection g (hloops p List.mem_cons_self), List.map_cons,
      List.reverse_cons, List.lookup_append, Option.or_assoc, Table.lookup_cons_eq_ite]
    by_cases hid : id = p.1.id
    · simp [hid]
    · simp [hid]

theorem isLocalConnection_placeConnections (g : Graph R) (placed : List (Connection × Bool))
    (id : ConnectionId) :
    (g.placeConnections placed).isLocalConnection id = true ↔
      (∃ c, (c, true) ∈ placed ∧ c.id = id) ∨ g.isLocalConnection id = true := by
  induction placed generalizing g with
  | nil => simp [placeConnections]
  | cons p placed ih =>
    refine (ih (g.placeConnection p.1 p.2)).trans ?_
    rw [isLocalConnection_placeConnection]
    obtain ⟨c, isLocal⟩ := p
    cases isLocal with
    | false => simp
    | true =>
      simp only [List.mem_cons, Prod.mk.injEq, and_true, true_and, or_and_right, exists_or,
        exists_eq_left, eq_comm (a := id)]
      rw [or_assoc, or_left_comm]

theorem contains_placeNodes (g : Graph R) (nodes : List (Node R × NodeIdentity))
    (id : NodeId) :
    (g.placeNodes nodes).nodes.contains id = true ↔
      (∃ p ∈ nodes, p.2.id = id) ∨ g.nodes.contains id = true := by
  induction nodes generalizing g with
  | nil => simp [placeNodes]
  | cons p nodes ih =>
    refine (ih (g.place p.1 p.2)).trans ?_
    rw [contains_place, eq_comm (a := id)]
    simp only [List.mem_cons, exists_eq_or_imp, or_assoc, or_left_comm]

end Graph

/-! ## New names -/

omit [Scalar R] in
theorem get?_newNames (nodes : List (Node R)) (identities : List NodeIdentity) (id : NodeId) :
    (newNames nodes identities).get? id =
      ((nodes.zip identities).reverse.find? (·.1.id == id)).map (·.2.id) := by
  rw [newNames, Table.get?_ofList, List.zip_map, ← List.map_reverse]
  induction (nodes.zip identities).reverse with
  | nil => rfl
  | cons p rest ih =>
    rw [List.map_cons, List.find?_cons]
    refine (Table.lookup_cons_eq_ite p.1.id p.2.id _ id).trans ?_
    by_cases hid : id = p.1.id
    · simp [hid]
    · rw [if_neg hid, beq_false_of_ne (Ne.symm hid)]
      exact ih

/-- The ends of a connection that is replayed are new names. -/
theorem Client.names_of_renamed {names : Table NodeId} {saved c : Connection} {a : NodeId}
    (h : renamed? names saved = some c) (ha : c.touches a = true) : ∃ k, names.get? k = some a := by
  obtain ⟨source, hsource, h⟩ := Option.bind_eq_some_iff.1 h
  obtain ⟨target, htarget, h⟩ := Option.bind_eq_some_iff.1 h
  obtain ⟨-, -, h⟩ := Option.bind_eq_some_iff.1 h
  cases h
  rw [Connection.touches, Bool.or_eq_true, beq_iff_eq, beq_iff_eq] at ha
  obtain rfl | rfl := ha
  · exact ⟨saved.source, hsource⟩
  · exact ⟨saved.target, htarget⟩

namespace Snapshot

omit [Scalar R]

variable {s : Snapshot R} {identities : List NodeIdentity}

/-- An id of a saved node has the new name that it should have, which is that of a saved node with
this id. -/
theorem newId_of_saves (hlength : identities.length = s.nodes.length) {id : NodeId}
    (h : s.saves id = true) :
    ∃ p ∈ s.nodes.zip identities, p.1.id = id ∧ s.newId identities id = p.2.id ∧
      (newNames s.nodes identities).get? id = some p.2.id := by
  obtain ⟨node, hnode, hid⟩ := List.any_eq_true.1 h
  rw [← List.map_fst_zip (Nat.le_of_eq hlength.symm)] at hnode
  obtain ⟨p, hp, rfl⟩ := List.mem_map.1 hnode
  -- The search is from the end, so it finds the last node with the id.
  have hsome : ((s.nodes.zip identities).reverse.find? (·.1.id == id)).isSome = true :=
    List.find?_isSome.2 ⟨p, List.mem_reverse.2 hp, hid⟩
  obtain ⟨q, hfind⟩ := Option.isSome_iff_exists.1 hsome
  have hq := List.find?_some hfind
  refine ⟨q, List.mem_reverse.1 (List.mem_of_find?_eq_some hfind), beq_iff_eq.1 hq, ?_, ?_⟩
  · rw [newId, hfind]
    rfl
  · rw [get?_newNames, hfind]
    rfl

theorem newNames_of_not_saves {id : NodeId} (h : s.saves id = false) :
    (newNames s.nodes identities).get? id = none := by
  rw [get?_newNames, Option.map_eq_none_iff, List.find?_eq_none]
  intro p hp hid
  rw [saves, List.any_eq_false] at h
  exact h p.1 (List.of_mem_zip (List.mem_reverse.1 hp)).1 hid

/-- Two ids of saved nodes get two new ids. -/
theorem newId_injective (hlength : identities.length = s.nodes.length)
    (hdistinct : (identities.map (·.id)).Nodup) {a b : NodeId} (ha : s.saves a = true)
    (hb : s.saves b = true) (h : s.newId identities a = s.newId identities b) : a = b := by
  obtain ⟨p, hp, rfl, hnewa, -⟩ := newId_of_saves hlength ha
  obtain ⟨q, hq, rfl, hnewb, -⟩ := newId_of_saves hlength hb
  have hzip : ((s.nodes.zip identities).map (·.2.id)).Nodup := by
    rw [← List.map_snd_zip (Nat.le_of_eq hlength), List.map_map] at hdistinct
    exact hdistinct
  have hsame : p = q := List.inj_on_of_nodup_map hzip hp hq (hnewa ▸ hnewb ▸ h)
  rw [hsame]

/-- **A saved connection is renamed exactly if it is kept.** -/
theorem renamed?_eq (hlength : identities.length = s.nodes.length)
    (hdistinct : (identities.map (·.id)).Nodup) (c : Connection) :
    Client.renamed? (newNames s.nodes identities) c =
      if s.saves c.source && s.saves c.target && c.source != c.target then
        some { c with source := s.newId identities c.source, target := s.newId identities c.target }
      else none := by
  cases hsource : s.saves c.source with
  | false =>
    rw [Client.renamed?, newNames_of_not_saves hsource]
    rfl
  | true =>
    obtain ⟨p, -, -, hnew, hget⟩ := newId_of_saves hlength hsource
    rw [Client.renamed?, hget, ← hnew]
    cases htarget : s.saves c.target with
    | false =>
      rw [newNames_of_not_saves htarget]
      rfl
    | true =>
      obtain ⟨q, -, -, hnew', hget'⟩ := newId_of_saves hlength htarget
      rw [hget', ← hnew']
      unfold guard
      -- Different ends stay different, so what is a loop after the renaming was one before.
      by_cases hloop : c.source = c.target
      · simp [hloop]
      · have hne : s.newId identities c.source ≠ s.newId identities c.target :=
          fun heq => hloop (newId_injective hlength hdistinct hsource htarget heq)
        simp [hloop, hne]

theorem filterMap_renamed? (hlength : identities.length = s.nodes.length)
    (hdistinct : (identities.map (·.id)).Nodup) :
    s.connections.filterMap (Client.renamed? (newNames s.nodes identities)) =
      s.renamed identities := by
  rw [renamed, kept, ← List.filterMap_eq_map, List.filterMap_filter]
  exact List.filterMap_congr fun c _ => renamed?_eq hlength hdistinct c

/-- A renamed connection goes from one new node to another. -/
theorem ends_of_renamed (hlength : identities.length = s.nodes.length)
    (hdistinct : (identities.map (·.id)).Nodup) {c : Connection} (hc : c ∈ s.renamed identities) :
    c.isSelfLoop = false ∧ ∀ a, c.touches a = true → a ∈ identities.map (·.id) := by
  have hnew : ∀ id, s.saves id = true → s.newId identities id ∈ identities.map (·.id) := by
    intro id hid
    obtain ⟨p, hp, -, hnew, -⟩ := newId_of_saves hlength hid
    rw [hnew]
    exact List.mem_map_of_mem (List.of_mem_zip hp).2
  obtain ⟨saved, hsaved, rfl⟩ := List.mem_map.1 hc
  obtain ⟨-, hkept⟩ := List.mem_filter.1 hsaved
  rw [Bool.and_eq_true, Bool.and_eq_true, bne_iff_ne] at hkept
  obtain ⟨⟨hsource, htarget⟩, hends⟩ := hkept
  refine ⟨?_, fun a ha => ?_⟩
  · rw [Connection.isSelfLoop, beq_eq_false_iff_ne]
    exact fun heq => hends (newId_injective hlength hdistinct hsource htarget heq)
  · rw [Connection.touches, Bool.or_eq_true, beq_iff_eq, beq_iff_eq] at ha
    obtain rfl | rfl := ha
    · exact hnew _ hsource
    · exact hnew _ htarget

end Snapshot

/-! ## Counting -/

namespace RestoreReport

theorem count_nodes (identities : List NodeIdentity) :
    identities.countP (!·.isLocal) + identities.countP (·.isLocal) = identities.length := by
  rw [Nat.add_comm, List.length_eq_countP_add_countP (·.isLocal)]
  simp

theorem count_placed (placed : List (Connection × Bool)) :
    placed.countP (!·.2) + placed.countP (·.2) = placed.length := by
  rw [Nat.add_comm, List.length_eq_countP_add_countP (·.2)]
  simp

theorem count_skipped (names : Table NodeId) (connections : List Connection) :
    (connections.filterMap (Client.renamed? names)).length + Client.skipped names connections =
      connections.length := by
  induction connections with
  | nil => rfl
  | cons c connections ih =>
    rw [Client.skipped] at ih ⊢
    cases hrenamed : Client.renamed? names c with
    | none =>
      simp only [List.filterMap_cons_none hrenamed, List.countP_cons, hrenamed,
        Option.isNone_none, if_true, List.length_cons]
      omega
    | some renamed =>
      simp only [List.filterMap_cons_some hrenamed, List.countP_cons, hrenamed,
        Option.isNone_some, List.length_cons]
      simp only [Bool.false_eq_true, if_false]
      omega

end RestoreReport

/-! ## The graph that is built -/

/-- Nothing is on the graph, and nothing is marked. -/
structure Graph.Blank (g : Graph R) : Prop where
  nodes : ∀ id, g.nodes.get? id = none
  connections : ∀ id, g.connections.get? id = none
  nodeMarks : ∀ id, g.isLocalNode id = false
  connectionMarks : ∀ id, g.isLocalConnection id = false

omit [Scalar R] in
/-- Clearing leaves nothing behind, if only what is on the graph is marked. -/
theorem Graph.MarksStored.blank_clear {g : Graph R} (h : g.MarksStored) : g.clear.1.Blank where
  nodes := nodes_clear g
  connections := connections_clear g
  nodeMarks id := by
    rw [Graph.clear]
    split
    · rename_i hempty
      simp only [Bool.and_eq_true] at hempty
      rw [isLocalNode, Table.contains, Table.isEmpty_iff.1 hempty.2]
      rfl
    · rfl
  connectionMarks id := by
    -- Clearing leaves an empty graph as it is and does not ask for these marks.
    have hstored := h.clear id
    rw [Table.contains, connections_clear] at hstored
    exact Bool.eq_false_iff.2 fun hmark => by cases hstored hmark

namespace Graph.Blank

variable {g : Graph R} {nodes : List (Node R × NodeIdentity)} {placed : List (Connection × Bool)}

/-- What is placed on a blank graph is all that is found on it. -/
theorem nodes_placed (h : g.Blank) (placed : List (Connection × Bool))
    (hdistinct : (nodes.map (·.2.id)).Nodup) (id : NodeId) :
    ((g.placeNodes nodes).placeConnections placed).nodes.get? id =
      (nodes.map fun p => (p.2.id, { p.1 with id := p.2.id })).lookup id := by
  rw [(nodes_placeConnections _ _).1, nodes_placeNodes (fun p _ => takes_of_new (h.nodes p.2.id))
    hdistinct, h.nodes, Option.or_none]

theorem connections_placed (h : g.Blank) (nodes : List (Node R × NodeIdentity))
    (hloops : ∀ p ∈ placed, p.1.isSelfLoop = false)
    (hdistinct : (placed.map (·.1.id)).Nodup) (id : ConnectionId) :
    ((g.placeNodes nodes).placeConnections placed).connections.get? id =
      (placed.map fun p => (p.1.id, p.1)).lookup id := by
  have hkeys : ((placed.map fun p => (p.1.id, p.1)).map (·.1)).Nodup := by
    rw [List.map_map]
    exact hdistinct
  rw [connections_placeConnections _ hloops, (connections_placeNodes g nodes).1, h.connections,
    Option.or_none, ← Table.get?_ofList, Table.get?_ofList_of_nodup hkeys]

theorem nodeMarks_placed (h : g.Blank) (id : NodeId) :
    ((g.placeNodes nodes).placeConnections placed).isLocalNode id = true ↔
      .localOnly id ∈ nodes.map (·.2) := by
  rw [(nodes_placeConnections _ _).2, isLocalNode_placeNodes, h.nodeMarks]
  simp

theorem connectionMarks_placed (h : g.Blank) (id : ConnectionId) :
    ((g.placeNodes nodes).placeConnections placed).isLocalConnection id = true ↔
      ∃ c, (c, true) ∈ placed ∧ c.id = id := by
  have hbefore : (g.placeNodes nodes).isLocalConnection id = false := by
    rw [isLocalConnection, (connections_placeNodes g nodes).2]
    exact h.connectionMarks id
  rw [isLocalConnection_placeConnections, hbefore]
  simp

end Graph.Blank

namespace Answering

variable {answer : Answering R ε} {s : Snapshot R} {g : Graph R} {st : ε × IdSource}

variable (answer s st) in
omit [Scalar R] in
theorem length_identities : (answer.replies s st).identities.length = s.nodes.length :=
  answer.length_askNodes s.nodes st

/-- On a blank graph, the replay asks for what it should. -/
theorem restore_replies (hblank : g.Blank)
    (hdistinct : ((answer.replies s st).identities.map (·.id)).Nodup) :
    (answer.restore s g st).identities = (answer.replies s st).identities ∧
      (answer.restore s g st).placed = (answer.replies s st).placed ∧
      (answer.restore s g st).remote = (answer.replies s st).remote := by
  have hlength := answer.length_askNodes s.nodes st
  have hmarks : (g.placeNodes (s.nodes.zip (answer.askNodes s.nodes st).1)).isLocalNode =
      fun id => (answer.askNodes s.nodes st).1.contains (.localOnly id) := by
    funext id
    rw [Bool.eq_iff_iff, Graph.isLocalNode_placeNodes, List.map_snd_zip (Nat.le_of_eq hlength),
      hblank.nodeMarks]
    simp
  have hrenamed := Snapshot.filterMap_renamed? hlength hdistinct
  simp only [restore, replies, hmarks, hrenamed, and_self]

theorem restore_graph (hblank : g.Blank)
    (hdistinct : ((answer.replies s st).identities.map (·.id)).Nodup) :
    (answer.restore s g st).graph =
      (g.placeNodes (s.nodes.zip (answer.replies s st).identities)).placeConnections
        (answer.replies s st).placed := by
  rw [← (restore_replies hblank hdistinct).2.1]
  rfl

variable (answer s st) in
omit [Scalar R] in
/-- Each connection that is asked for gets a new id and stays as it is otherwise. -/
theorem forall₂_placed :
    List.Forall₂ (fun c p => p.1 = { c with id := p.1.id })
      (s.renamed (answer.replies s st).identities) (answer.replies s st).placed :=
  answer.forall₂_askConnections _ _ _

omit [Scalar R] in
/-- What is placed goes from one node to another. -/
theorem not_loop_of_placed (hdistinct : ((answer.replies s st).identities.map (·.id)).Nodup) :
    ∀ p ∈ (answer.replies s st).placed, p.1.isSelfLoop = false := by
  intro p hp
  obtain ⟨hlength, hzip⟩ := List.forall₂_iff_zip.1 (answer.forall₂_placed s st)
  rw [← List.map_snd_zip (Nat.le_of_eq hlength.symm)] at hp
  obtain ⟨⟨c, _⟩, hmem, rfl⟩ := List.mem_map.1 hp
  rw [hzip hmem]
  exact (Snapshot.ends_of_renamed (answer.length_identities s st) hdistinct
    (List.of_mem_zip hmem).1).1

/-- **On a blank graph a replay rebuilds what was saved.** -/
theorem restore_rebuilt (hblank : g.Blank)
    (hnodes : ((answer.replies s st).identities.map (·.id)).Nodup)
    (hconnections : ((answer.replies s st).placed.map (·.1.id)).Nodup) (cleared saved : Bool) :
    Rebuilt s (answer.replies s st)
      { (answer.restore s g st).report s cleared with saved } (answer.restore s g st).graph := by
  have hlength := answer.length_identities s st
  have hforall := answer.forall₂_placed s st
  have hloops := not_loop_of_placed hnodes
  have hskipped := RestoreReport.count_skipped (newNames s.nodes (answer.replies s st).identities)
    s.connections
  rw [Snapshot.filterMap_renamed? hlength hnodes, hforall.length_eq] at hskipped
  obtain ⟨hidentities, hplaced, -⟩ := restore_replies hblank hnodes
  rw [restore_graph hblank hnodes, Restored.report, hidentities, hplaced]
  -- From here on it does not matter how the answers came about.
  generalize answer.replies s st = replies at *
  obtain ⟨identities, placed, remote⟩ := replies
  dsimp only at *
  have hdistinct : ((s.nodes.zip identities).map (·.2.id)).Nodup := by
    rw [← List.map_snd_zip (Nat.le_of_eq hlength), List.map_map] at hnodes
    exact hnodes
  have hfoundNodes := hblank.nodes_placed placed hdistinct
  have hfoundConnections := hblank.connections_placed (s.nodes.zip identities) hloops hconnections
  have hnodeCount := RestoreReport.count_nodes identities
  have hplacedCount := RestoreReport.count_placed placed
  refine
    { identities := hlength
      nodes := ?_
      nodeKeys := ?_
      nodeMarks := fun id => ?_
      placed := hforall
      connections := ?_
      connectionKeys := ?_
      connectionMarks := hblank.connectionMarks_placed
      nodesReplayed := Nat.zero_add _
      nodesLocal := Nat.zero_add _
      nodeCount := ?_
      connectionsReplayed := Nat.zero_add _
      connectionsLocal := Nat.zero_add _
      connectionCount := ?_ }
  · have hperm := Table.values_perm (by rw [List.map_map]; exact hdistinct) hfoundNodes
    rwa [List.map_map] at hperm
  · intro id node hfound
    rw [hfoundNodes] at hfound
    obtain ⟨p, -, hp⟩ := List.mem_map.1 (Table.mem_of_lookup hfound)
    cases hp
    rfl
  · rw [hblank.nodeMarks_placed, List.map_snd_zip (Nat.le_of_eq hlength)]
  · have hperm := Table.values_perm (by rw [List.map_map]; exact hconnections) hfoundConnections
    rwa [List.map_map] at hperm
  · intro id c hfound
    rw [hfoundConnections] at hfound
    obtain ⟨p, -, hp⟩ := List.mem_map.1 (Table.mem_of_lookup hfound)
    cases hp
    rfl
  · simp only [RestoreReport.countConnections, RestoreReport.countNodes]
    omega
  · simp only [RestoreReport.countConnections, RestoreReport.countNodes]
    omega

end Answering

namespace Client

/-- **A restore rebuilds the saved graph under new ids.** From every reachable canvas, and whatever
the far side answers, a restore ends; if no new id is given twice, the graph is then the saved one
under the new ids, and the far side was asked for exactly this. -/
theorem restoreSnapshot_rebuilds [DocumentStore σ] (answer : Answering R ε) (w : World R σ ε)
    (s : Snapshot R) (hreach : w.canvas.Reachable σ)
    (hnodes : ((answer.replies s ((answer .clearCanvas w.remote).2, w.ids)).identities.map
      (·.id)).Nodup)
    (hconnections : ((answer.replies s ((answer .clearCanvas w.remote).2, w.ids)).placed.map
      (·.1.id)).Nodup) :
    ∃ report w', (restoreSnapshot s).runWith answer.handler w = .ok (report, w') ∧
      Rebuilt s (answer.replies s ((answer .clearCanvas w.remote).2, w.ids)) report
        w'.canvas.graph ∧
      w'.remote = (answer.replies s ((answer .clearCanvas w.remote).2, w.ids)).remote := by
  have hblank := hreach.marksStored.blank_clear
  have hends : (restoreSnapshot s).Ends answer.handler w _ := restoreSnapshot_ends s
  obtain ⟨report, w', hrun, hreport, hgraph, hremote, -⟩ := hends
  refine ⟨report, w', hrun, ?_, ?_⟩
  · rw [hreport, hgraph]
    exact Answering.restore_rebuilt hblank hnodes hconnections _ _
  · rw [hremote]
    exact (Answering.restore_replies hblank hnodes).2.2

/-- A connection from one node to another. -/
def wire (id source target : String) : Connection :=
  { id, source, sourcePort := "out", target, targetPort := "in" }

/-- A snapshot in which an id is saved twice, and of five connections one is a loop and one has an
end that is not saved. -/
def crowdedSnapshot : Snapshot Rat where
  nodes :=
    [{ id := "a", type := "first", position := ⟨0, 0⟩ },
      { id := "b", type := "refused", position := ⟨1, 0⟩ },
      { id := "a", type := "second", position := ⟨2, 0⟩ },
      { id := "c", type := "last", position := ⟨3, 0⟩ }]
  connections := [wire "ac" "a" "c", wire "bc" "b" "c", wire "aa" "a" "a", wire "xc" "x" "c",
    wire "ca" "c" "a"]
  view := .initial

/-- A link to an empty backend that refuses the second node and the second connection. -/
def refusingLink : Link Rat where
  backend := (Backend.initial.failCall "create_node" 1 (.transport "lost")).failCall
    "create_connection" 1 (.transport "lost")

/-- The restored connections start or end at the later of the two nodes with one id, and what is
refused exists only here. -/
theorem restoreSnapshot_rebuilds_refusals :
    let replies := Link.answering.replies crowdedSnapshot
      ((Link.answering .clearCanvas refusingLink).2, .counting)
    replies.identities =
        [.remote "node-1", .localOnly "local-00000000-0000-4000-8000-000000000001",
          .remote "node-2", .remote "node-3"] ∧
      replies.placed.map (fun p => (p.1.source, p.1.target, p.2)) =
        [("node-2", "node-3", false),
          ("local-00000000-0000-4000-8000-000000000001", "node-3", true),
          ("node-3", "node-2", true)] ∧
      ∃ report w', (restoreSnapshot crowdedSnapshot).runWith Link.answering.handler
          ({ canvas := .initial {}, store := {}, ids := .counting, moment := ⟨0, ⟨0, 0⟩⟩,
             remote := refusingLink } : LocalWorld Rat) = .ok (report, w') ∧
        Rebuilt crowdedSnapshot replies report w'.canvas.graph ∧ w'.remote = replies.remote := by
  refine ⟨by decide +kernel, by decide +kernel, ?_⟩
  exact restoreSnapshot_rebuilds Link.answering _ crowdedSnapshot (.initial {}) (by decide +kernel)
    (by decide +kernel)

end Client

end NodeCanvas
