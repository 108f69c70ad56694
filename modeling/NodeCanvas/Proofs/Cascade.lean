import NodeCanvas.Proofs.Push
/-!
# What goes with a node

A removal collects the ids of the connections that touch a node and then erases what stands under
these ids. That this takes exactly those connections rests on `Graph.Filed`: whatever was done to a
graph, everything on it is stored under its own id. `Graph.Cascades` says what a removal takes, what
it leaves and what it gives back, entity by entity.
-/

namespace NodeCanvas

/-- A call that changes a graph. -/
inductive GraphCall (R : Type) where
  | upsertNode (node : Node R)
  | removeNode (id : NodeId)
  | upsertConnection (connection : Connection)
  | removeConnection (id : ConnectionId)
  | patchNode (id : NodeId) (patch : NodePatch R)
  | clear
  | replaceAll (nodes : List (Node R)) (connections : List Connection)
  | markLocalNode (id : NodeId)
  | markLocalConnection (id : ConnectionId)

variable {R : Type} [Scalar R]

namespace Graph

variable {g : Graph R} {id : NodeId}

/-- The graph after a call. A connection that is refused leaves it as it is. -/
def call (g : Graph R) : GraphCall R → Graph R
  | .upsertNode node => (g.upsertNode node).1
  | .removeNode id => (g.removeNode id).1
  | .upsertConnection connection =>
    match g.upsertConnection connection with
    | .ok (g, _) => g
    | .error _ => g
  | .removeConnection id => (g.removeConnection id).1
  | .patchNode id patch => (g.patchNode id patch).1
  | .clear => g.clear.1
  | .replaceAll nodes connections => g.replaceAll nodes connections
  | .markLocalNode id => g.markLocalNode id
  | .markLocalConnection id => g.markLocalConnection id

/-- The graph that calls make, one after the other, of the empty one. -/
def ofCalls (calls : List (GraphCall R)) : Graph R := calls.foldl call empty

/-! ## Everything under its own id -/

/-- Everything is stored under its own id, and no connection ends where it starts. -/
structure Filed (g : Graph R) : Prop where
  nodeIds : ∀ id n, g.nodes.get? id = some n → n.id = id
  keyed : g.Keyed
  loopless : ∀ id c, g.connections.get? id = some c → c.isSelfLoop = false

omit [Scalar R] in
theorem filed_empty : ({} : Graph R).Filed where
  nodeIds _ _ h := by cases h
  keyed _ _ h := by cases h
  loopless _ _ h := by cases h

/-- A change puts a node under its own id, and patches none to have another. -/
theorem nodeIds_alter (h : ∀ id n, g.nodes.get? id = some n → n.id = id)
    (ch : GraphChange R) {n : Node R} (hn : (g.alter ch).nodes.get? id = some n) :
    n.id = id := by
  rw [nodes_alter] at hn
  cases ch with
  | put node =>
    simp only [GraphChange.onNode] at hn
    split at hn
    · rename_i hid
      split at hn
      · exact h id n hn
      · cases hn
        exact hid.symm
    · exact h id n hn
  | drop node =>
    simp only [GraphChange.onNode] at hn
    split at hn
    · cases hn
    · exact h id n hn
  | patch node parts =>
    simp only [GraphChange.onNode] at hn
    split at hn
    · obtain ⟨m, hm, rfl⟩ := Option.map_eq_some_iff.1 hn
      exact h id m hm
    · exact h id n hn
  | merge node changes =>
    simp only [GraphChange.onNode] at hn
    split at hn
    · obtain ⟨m, hm, rfl⟩ := Option.map_eq_some_iff.1 hn
      exact h id m hm
    · exact h id n hn
  | link connection => exact h id n hn
  | unlink connection => exact h id n hn
  | wipe => cases hn

theorem Filed.alter (h : g.Filed) (ch : GraphChange R) : (g.alter ch).Filed where
  nodeIds _ _ hn := nodeIds_alter h.nodeIds ch hn
  keyed := h.keyed.alter ch
  loopless id c hc := by
    cases ch with
    | link connection =>
      rw [connections_alter h.keyed] at hc
      simp only [GraphChange.onConnection] at hc
      split at hc
      · rename_i hlink
        cases hc
        exact hlink.1
      · exact h.loopless id c hc
    | put | drop | patch | merge | unlink | wipe =>
      obtain hold | ⟨hlink, -⟩ := connection_of_alter h.keyed hc
      · exact h.loopless id c hold
      · cases hlink

omit [Scalar R] in
/-- A bulk load files what it is given, whatever is repeated in it, and leaves self-loops out. -/
theorem filed_replaceAll (g : Graph R) (nodes : List (Node R)) (connections : List Connection) :
    (g.replaceAll nodes connections).Filed := by
  have hconnection : ∀ id c, (g.replaceAll nodes connections).connections.get? id = some c →
      c.id = id ∧ c.isSelfLoop = false := by
    intro id c hc
    obtain ⟨d, hd, heq⟩ := List.mem_map.1 (Table.mem_of_get?_ofList hc)
    cases heq
    exact ⟨rfl, by simpa using (List.mem_filter.1 hd).2⟩
  refine ⟨fun id n hn => ?_, fun id c hc => (hconnection id c hc).1,
    fun id c hc => (hconnection id c hc).2⟩
  obtain ⟨m, -, heq⟩ := List.mem_map.1 (Table.mem_of_get?_ofList hn)
  cases heq
  rfl

theorem Filed.call (h : g.Filed) (call : GraphCall R) : (g.call call).Filed := by
  cases call with
  | upsertNode node => exact h.alter (.put node)
  | removeNode id => exact h.alter (.drop id)
  | upsertConnection connection => exact h.alter (.link connection)
  | removeConnection id => exact h.alter (.unlink id)
  | patchNode id patch => exact h.alter (.patch id patch)
  | clear => exact h.alter .wipe
  | replaceAll nodes connections => exact filed_replaceAll g nodes connections
  | markLocalNode id => exact ⟨h.nodeIds, h.keyed, h.loopless⟩
  | markLocalConnection id => exact ⟨h.nodeIds, h.keyed, h.loopless⟩

theorem filed_ofCalls (calls : List (GraphCall R)) : (ofCalls calls).Filed := by
  have hfold : ∀ g : Graph R, g.Filed → (calls.foldl Graph.call g).Filed := by
    induction calls with
    | nil => exact fun _ h => h
    | cons call calls ih => exact fun g h => ih _ (h.call call)
  exact hfold _ filed_empty

/-! ## The removal -/

/-- What taking a node off a graph takes along, leaves and gives back. -/
structure Cascades (g g' : Graph R) (id : NodeId) (removed : RemovedNode R) : Prop where
  node : g.node? id = some removed.node
  /-- The other nodes are left, as they were. -/
  nodes : ∀ k, g'.node? k = if k = id then none else g.node? k
  /-- The connections that do not touch the node are left, as they were. -/
  connections : ∀ k, g'.connection? k = (g.connection? k).filter (!·.touches id)
  /-- The ids of the others are given back. -/
  taken : ∀ k, k ∈ removed.connections ↔ ∃ c, g.connection? k = some c ∧ c.touches id = true
  /-- No id is given back twice. -/
  ascending : removed.connections.Pairwise (· < ·)
  nodeMarks : ∀ k, g'.isLocalNode k = true ↔ g.isLocalNode k = true ∧ k ≠ id
  connectionMarks : ∀ k,
    g'.isLocalConnection k = true ↔ g.isLocalConnection k = true ∧ k ∉ removed.connections
  undrawn : ∀ c ∈ g'.renderable, c.source ≠ id ∧ c.target ≠ id

/-- The ids of the connections that touch a node, in ascending order. -/
def touching (g : Graph R) (id : NodeId) : List ConnectionId :=
  (g.connections.filter fun _ c => c.touches id).keys

omit [Scalar R] in
/-- The ids that a removal collects are these. -/
theorem Keyed.collected_eq (h : g.Keyed) (id : NodeId) :
    (g.connections.values.filter (·.touches id)).map (·.id) = g.touching id := by
  rw [← Table.values_filter]
  refine Table.map_values_eq_keys fun k c hc => ?_
  rw [Table.get?_filter, Option.filter_eq_some_iff] at hc
  exact h k c hc.1

omit [Scalar R] in
theorem Keyed.removeNode_eq (h : g.Keyed) {node : Node R} (hnode : g.node? id = some node) :
    g.removeNode id =
      ({ g with
          nodes := g.nodes.erase id
          connections := (g.touching id).foldl Table.erase g.connections
          localNodes := g.localNodes.erase id
          localConnections := (g.touching id).foldl Table.erase g.localConnections
          revision := g.revision + 1 },
        some ⟨node, g.touching id⟩) := by
  rw [removeNode, ← h.collected_eq id]
  split
  · rename_i hnone
    cases hnone.symm.trans hnode
  · rename_i found hfound
    cases hfound.symm.trans hnode
    rfl

omit [Scalar R] in
/-- A connection is drawn only between nodes. -/
theorem contains_of_mem_renderable {c : Connection} (h : c ∈ g.renderable) :
    g.nodes.contains c.source = true ∧ g.nodes.contains c.target = true := by
  rw [← Bool.and_eq_true]
  exact (List.mem_filter.1 h).2

omit [Scalar R] in
/-- **A node that is there goes with its connections and with its marks, and with nothing else.** -/
theorem Keyed.cascades (h : g.Keyed) {node : Node R} (hnode : g.node? id = some node) :
    ∃ removed, (g.removeNode id).2 = some removed ∧
      g.Cascades (g.removeNode id).1 id removed := by
  have hremove := h.removeNode_eq hnode
  have hnodes := g.nodes_removeNode id
  have hgone : ∀ a, (g.removeNode id).1.nodes.contains a = true → a ≠ id := by
    rintro a ha rfl
    rw [Table.contains, hnodes, if_pos rfl] at ha
    cases ha
  refine ⟨⟨node, g.touching id⟩, by rw [hremove], hnode, hnodes, fun k => ?_, fun k => ?_, ?_,
    fun k => ?_, fun k => ?_, fun c hc => ?_⟩
  · rw [connection?, connections_removeNode h, if_pos (Table.contains_iff.2 ⟨node, hnode⟩)]
    rfl
  · rw [← h.collected_eq id]
    exact mem_cascade_iff h id k
  · exact List.pairwise_map.2 (Table.ascending _)
  · rw [hremove]
    simp only [isLocalNode, Table.contains, Table.get?_erase]
    by_cases hk : k = id <;> simp [hk]
  · rw [hremove]
    simp only [isLocalConnection, Table.contains, Table.get?_foldl_erase]
    by_cases hk : k ∈ g.touching id <;> simp [hk]
  · obtain ⟨hsource, htarget⟩ := contains_of_mem_renderable hc
    exact ⟨hgone _ hsource, hgone _ htarget⟩

/-- **Whatever calls made a graph, everything on it is under its own id and no connection is a
self-loop; a node that is then removed takes along the connections that touch it and the marks of
what is removed, and nothing else.** -/
theorem removal_is_exact (calls : List (GraphCall R)) :
    (ofCalls calls).Filed ∧
      ∀ id node, (ofCalls calls).node? id = some node →
        ∃ removed, ((ofCalls calls).removeNode id).2 = some removed ∧
          (ofCalls calls).Cascades ((ofCalls calls).removeNode id).1 id removed :=
  ⟨filed_ofCalls calls, fun _ _ hnode => (filed_ofCalls calls).keyed.cascades hnode⟩

/-- A bulk load with a node twice, a self-loop and a connection to a node that is missing, and marks of
what is there and of what is not. -/
def loadCalls : List (GraphCall Float) :=
  [.replaceAll [.fresh "b" "sum" .origin, .fresh "a" "old" .origin, .fresh "a" "new" .origin]
      [⟨"c3", "b", "output", "a", "input", none⟩, ⟨"c2", "a", "output", "a", "input", none⟩,
        ⟨"c1", "a", "output", "z", "input", none⟩, ⟨"c4", "b", "output", "z", "input", none⟩],
    .markLocalNode "a", .markLocalConnection "c3", .markLocalConnection "c4",
    .markLocalConnection "c9"]

theorem removal_is_exact_loaded :
    (ofCalls loadCalls).node? "a" = some (.fresh "a" "new" .origin) ∧
      (∃ removed, ((ofCalls loadCalls).removeNode "a").2 = some removed ∧
        (ofCalls loadCalls).Cascades ((ofCalls loadCalls).removeNode "a").1 "a" removed) ∧
      ((ofCalls loadCalls).removeNode "a").2.map (·.connections) = some ["c1", "c3"] :=
  ⟨rfl, (removal_is_exact loadCalls).2 "a" (.fresh "a" "new" .origin) rfl, rfl⟩

end Graph

end NodeCanvas
