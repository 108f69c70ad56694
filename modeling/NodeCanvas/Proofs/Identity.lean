import NodeCanvas.Proofs.Push
/-!
# Ids from here and ids from there

Ids that are made up here start with `localMark`; the backend numbers the ids that it gives out. So no
id is both, and a new id of the backend is none that it gave out before. `Graph.Tidy` says that the
marks of a graph tell the two apart: what is marked is exactly what is stored under an id from here,
and a connection that the backend has does not end at a node that it does not have.
-/

namespace NodeCanvas

/-- An id that was made up here. -/
def IsLocalId (id : String) : Prop := ∃ rest, id = localMark ++ rest

/-- An id that a backend has given out for an entity of some kind. -/
def Issued (kind : String) (allocated : Nat) (id : String) : Prop :=
  ∃ k ≤ allocated, id = kind ++ "-" ++ Nat.repr k

theorem isLocalId_freshLocalNode (ids : IdSource) : IsLocalId (freshLocalNode.run ids).1 :=
  ⟨_, rfl⟩

theorem isLocalId_freshLocalConnection (ids : IdSource) :
    IsLocalId (freshLocalConnection.run ids).1 :=
  ⟨"conn-" ++ (freshId.run ids).1, String.append_assoc⟩

theorem repr_injective {m n : Nat} (h : Nat.repr m = Nat.repr n) : m = n := by
  have hdigits : Nat.toDigits 10 m = Nat.toDigits 10 n := String.ofList_injective h
  calc m = Nat.ofDigitChars 10 (Nat.toDigits 10 m) 0 := Nat.ofDigitChars_ten_toDigits.symm
    _ = Nat.ofDigitChars 10 (Nat.toDigits 10 n) 0 := by rw [hdigits]
    _ = n := Nat.ofDigitChars_ten_toDigits

namespace Issued

variable {n : Nat} {id : String}

theorem mono {kind : String} {m : Nat} (h : Issued kind m id) (hmn : m ≤ n) : Issued kind n id := by
  obtain ⟨k, hk, hid⟩ := h
  exact ⟨k, Nat.le_trans hk hmn, hid⟩

theorem next (kind : String) (n : Nat) : Issued kind (n + 1) (kind ++ "-" ++ Nat.repr (n + 1)) :=
  ⟨n + 1, Nat.le_refl _, rfl⟩

/-- The next id is a new one. -/
theorem not_next {kind : String} (h : Issued kind n id) : id ≠ kind ++ "-" ++ Nat.repr (n + 1) := by
  obtain ⟨k, hk, rfl⟩ := h
  intro heq
  have hsame : k = n + 1 := repr_injective ((String.append_right_inj _).1 heq)
  omega

theorem not_isLocalId_of_node (h : Issued "node" n id) : ¬ IsLocalId id := by
  obtain ⟨k, _, rfl⟩ := h
  rintro ⟨rest, heq⟩
  have hchars := congrArg String.toList heq
  simp [localMark] at hchars

theorem not_isLocalId_of_conn (h : Issued "conn" n id) : ¬ IsLocalId id := by
  obtain ⟨k, _, rfl⟩ := h
  rintro ⟨rest, heq⟩
  have hchars := congrArg String.toList heq
  simp [localMark] at hchars

end Issued

/-! ## Marks -/

variable {R : Type}

/-- A change that adds nothing under an id from here, and no connection to a node from here. -/
def GraphChange.Remote : GraphChange R → Prop
  | .put node => ¬ IsLocalId node.id
  | .link c => ¬ IsLocalId c.id ∧ ¬ IsLocalId c.source ∧ ¬ IsLocalId c.target
  | _ => True

namespace Graph

variable {g : Graph R}

/-- The marks of a graph say which ids are from here. -/
structure Tidy (g : Graph R) : Prop where
  keyed : g.Keyed
  nodeMarks : ∀ id, g.isLocalNode id = true ↔ IsLocalId id ∧ g.nodes.contains id = true
  connectionMarks : ∀ id,
    g.isLocalConnection id = true ↔ IsLocalId id ∧ g.connections.contains id = true
  remoteEnds : ∀ id c, g.connections.get? id = some c → ¬ IsLocalId id →
    ¬ IsLocalId c.source ∧ ¬ IsLocalId c.target

theorem tidy_empty (revision : Nat) : ({ revision } : Graph R).Tidy where
  keyed _ _ h := by cases h
  nodeMarks id := by simp [isLocalNode]
  connectionMarks id := by simp [isLocalConnection]
  remoteEnds _ _ h := by cases h

theorem Tidy.clear (h : g.Tidy) : g.clear.1.Tidy := by
  rw [Graph.clear]
  split
  · exact h
  · exact tidy_empty _

variable [Scalar R]

/-- What is stored under an id from here stays as it is, or goes with its mark. -/
theorem Tidy.removeNode (h : g.Tidy) (a : NodeId) : (g.removeNode a).1.Tidy where
  keyed := h.keyed.alter (.drop a)
  nodeMarks id := by
    have hmarks : (g.removeNode a).1.isLocalNode id = true ↔
        id ≠ a ∧ g.isLocalNode id = true := by
      rw [Graph.removeNode]
      split
      · rename_i hnone
        -- What is not on the graph has no mark that could be left behind.
        refine ⟨fun hmark => ⟨?_, hmark⟩, And.right⟩
        rintro rfl
        have hstored := ((h.nodeMarks id).1 hmark).2
        rw [Table.contains, hnone] at hstored
        cases hstored
      · simp only [isLocalNode, Table.contains, Table.get?_erase]
        by_cases hid : id = a <;> simp [hid]
    rw [hmarks, h.nodeMarks, Table.contains, Table.contains, nodes_removeNode]
    by_cases hid : id = a <;> simp [hid]
  connectionMarks id := by
    rw [Graph.removeNode]
    split
    · exact h.connectionMarks id
    · simp only [isLocalConnection, Table.contains, Table.get?_foldl_erase]
      split
      · simp
      · exact h.connectionMarks id
  remoteEnds id c hc := by
    have halter : (g.alter (.drop a)).connections.get? id = some c := hc
    obtain hc | ⟨hch, -⟩ := connection_of_alter h.keyed halter
    · exact h.remoteEnds id c hc
    · cases hch

theorem Tidy.removeConnection (h : g.Tidy) (k : ConnectionId) : (g.removeConnection k).1.Tidy where
  keyed := h.keyed.alter (.unlink k)
  nodeMarks id := by
    rw [Graph.removeConnection]
    split <;> exact h.nodeMarks id
  connectionMarks id := by
    rw [Graph.removeConnection]
    split
    · exact h.connectionMarks id
    · simp only [isLocalConnection, Table.contains, Table.get?_erase]
      split
      · simp
      · exact h.connectionMarks id
  remoteEnds id c hc := by
    have halter : (g.alter (.unlink k)).connections.get? id = some c := hc
    obtain hc | ⟨hch, -⟩ := connection_of_alter h.keyed halter
    · exact h.remoteEnds id c hc
    · cases hch

theorem Tidy.patchNode (h : g.Tidy) (a : NodeId) (parts : NodePatch R) :
    (g.patchNode a parts).1.Tidy where
  keyed := h.keyed.alter (.patch a parts)
  nodeMarks id := by
    rw [isLocalNode, localNodes_patchNode, Table.contains, Table.contains, nodes_patchNode]
    split
    · rw [Option.isSome_map]
      exact h.nodeMarks id
    · exact h.nodeMarks id
  connectionMarks id := by
    rw [isLocalConnection, localConnections_patchNode, connections_patchNode]
    exact h.connectionMarks id
  remoteEnds id c hc := by
    rw [connections_patchNode] at hc
    exact h.remoteEnds id c hc

theorem Tidy.upsertNode (h : g.Tidy) {n : Node R} (hn : ¬ IsLocalId n.id) :
    (g.upsertNode n).1.Tidy where
  keyed := h.keyed.alter (.put n)
  nodeMarks id := by
    rw [isLocalNode, localNodes_upsertNode, Table.contains, Table.contains, nodes_upsertNode]
    by_cases hid : id = n.id
    · subst hid
      -- No id of the backend is marked, before or after.
      simp only [hn, false_and, iff_false]
      exact fun hmark => hn ((h.nodeMarks _).1 hmark).1
    · rw [if_neg hid]
      exact h.nodeMarks id
  connectionMarks id := by
    rw [isLocalConnection, localConnections_upsertNode, connections_upsertNode]
    exact h.connectionMarks id
  remoteEnds id c hc := by
    rw [connections_upsertNode] at hc
    exact h.remoteEnds id c hc

theorem marks_link (g : Graph R) (c : Connection) :
    (g.alter (.link c)).localNodes = g.localNodes ∧
      (g.alter (.link c)).localConnections = g.localConnections := by
  simp only [alter, upsertConnection]
  split <;> rename_i heq
  · split at heq
    · cases heq
    · split at heq <;> cases heq <;> exact ⟨rfl, rfl⟩
  · exact ⟨rfl, rfl⟩

/-- **Every change that adds nothing from here keeps a graph tidy.** -/
theorem Tidy.alter (h : g.Tidy) {ch : GraphChange R} (hremote : ch.Remote) : (g.alter ch).Tidy := by
  cases ch with
  | put node => exact h.upsertNode hremote
  | drop node => exact h.removeNode node
  | patch node parts => exact h.patchNode node parts
  | merge node changes =>
    rw [Graph.alter]
    split
    · exact h.patchNode _ _
    · exact h
  | link c =>
    obtain ⟨hnodes, hconnections⟩ := marks_link g c
    refine ⟨h.keyed.alter _, fun id => ?_, fun id => ?_, fun id d hd => ?_⟩
    · rw [isLocalNode, hnodes, nodes_link]
      exact h.nodeMarks id
    · rw [isLocalConnection, hconnections, Table.contains, Table.contains, connections_link]
      split
      · rename_i hlink
        rw [hlink.2]
        simp only [hremote.1, false_and, iff_false]
        exact fun hmark => hremote.1 ((h.connectionMarks _).1 hmark).1
      · exact h.connectionMarks id
    · obtain hd | ⟨hch, -⟩ := connection_of_alter h.keyed hd
      · exact h.remoteEnds id d hd
      · cases hch
        exact fun _ => hremote.2
  | unlink connection => exact h.removeConnection connection
  | wipe => exact h.clear

/-- A connection from here is added with its mark. -/
theorem Tidy.linkHere (h : g.Tidy) {c : Connection} (hid : IsLocalId c.id)
    (hloop : c.isSelfLoop = false) : ((g.alter (.link c)).markLocalConnection c.id).Tidy := by
  obtain ⟨hnodes, hconnections⟩ := marks_link g c
  refine ⟨h.keyed.alter (.link c), fun id => ?_, fun id => ?_, fun id d hd hid' => ?_⟩
  · change (g.alter (.link c)).localNodes.contains id = true ↔
      _ ∧ (g.alter (.link c)).nodes.contains id = true
    rw [hnodes, nodes_link]
    exact h.nodeMarks id
  · change (((g.alter (.link c)).localConnections.insert c.id ()).get? id).isSome = true ↔
      _ ∧ ((g.alter (.link c)).connections.get? id).isSome = true
    rw [hconnections, Table.get?_insert, connections_link]
    by_cases hsame : id = c.id
    · simp [hsame, hid, hloop]
    · simp only [hsame, if_false, and_false]
      exact h.connectionMarks id
  · obtain hold | ⟨hlink, hsame⟩ := connection_of_alter (g := g) h.keyed hd
    · exact h.remoteEnds id d hold hid'
    · cases hlink
      exact absurd (hsame ▸ hid) hid'

/-- A node from here is added with its mark. -/
theorem Tidy.putHere (h : g.Tidy) {node : Node R} (hid : IsLocalId node.id) :
    ((g.alter (.put node)).markLocalNode node.id).Tidy := by
  have hstored : ((g.upsertNode node).1.nodes.get? node.id).isSome = true := by
    rw [nodes_upsertNode, if_pos rfl]
    cases g.nodes.get? node.id with
    | none => rfl
    | some stored => split <;> rfl
  refine ⟨h.keyed.alter (.put node), fun id => ?_, fun id => ?_, fun id d hd => ?_⟩
  · change (((g.upsertNode node).1.localNodes.insert node.id ()).get? id).isSome = true ↔
      _ ∧ ((g.upsertNode node).1.nodes.get? id).isSome = true
    rw [localNodes_upsertNode, Table.get?_insert]
    by_cases hsame : id = node.id
    · subst hsame
      simp [hid, hstored]
    · rw [if_neg hsame, nodes_upsertNode, if_neg hsame]
      exact h.nodeMarks id
  · change (g.upsertNode node).1.localConnections.contains id = true ↔
      _ ∧ (g.upsertNode node).1.connections.contains id = true
    rw [localConnections_upsertNode, connections_upsertNode]
    exact h.connectionMarks id
  · change (g.upsertNode node).1.connections.get? id = some d at hd
    rw [connections_upsertNode] at hd
    exact h.remoteEnds id d hd

theorem Tidy.settle (h : g.Tidy) {changes : List (GraphChange R)}
    (hremote : ∀ ch ∈ changes, ch.Remote) : (g.settle changes).Tidy := by
  induction changes generalizing g with
  | nil => exact h
  | cons ch changes ih =>
    exact ih (h.alter (hremote ch List.mem_cons_self))
      fun ch' hch' => hremote ch' (List.mem_cons_of_mem ch hch')

end Graph

end NodeCanvas
