import NodeCanvas.Graph
import NodeCanvas.Proofs.Bag
/-!
# The graph by what is stored in it

Every operation compares before it writes, and values that compare as equal need not be the same:
a coordinate may be a zero of either sign, and what is no number differs from itself. `Alike` is the
agreement that survives this; after a write, what is stored is `Alike` what was to be written. For
each operation there is one equation for the nodes and one for the connections that are found
afterwards.
-/

namespace NodeCanvas

/-- Identical, or equal by comparison. -/
def Alike {α : Type} [BEq α] (a b : α) : Prop := a = b ∨ (a == b) = true

theorem Alike.refl {α : Type} [BEq α] (a : α) : Alike a a := .inl rfl

theorem alike_iff_eq {α : Type} [BEq α] [LawfulBEq α] {a b : α} : Alike a b ↔ a = b := by
  simp [Alike]

variable {R : Type}

/-! ## Removals, entity by entity -/

namespace Graph

/-- Every connection is stored under its own id. -/
def Keyed (g : Graph R) : Prop := ∀ id c, g.connections.get? id = some c → c.id = id

theorem nodes_removeNode (g : Graph R) (a id : NodeId) :
    (g.removeNode a).1.nodes.get? id = if id = a then none else g.nodes.get? id := by
  rw [removeNode]
  split
  · rename_i hnone
    by_cases hid : id = a
    · rw [if_pos hid, hid, hnone]
    · rw [if_neg hid]
  · exact Table.get?_erase _ _ _

/-- The ids that go with a node are those of the connections that touch it. -/
theorem mem_cascade_iff {g : Graph R} (h : g.Keyed) (a : NodeId) (id : ConnectionId) :
    id ∈ (g.connections.values.filter (·.touches a)).map (·.id) ↔
      ∃ c, g.connections.get? id = some c ∧ c.touches a = true := by
  simp only [List.mem_map, List.mem_filter, Table.mem_values_iff]
  constructor
  · rintro ⟨c, ⟨⟨k, hk⟩, htouch⟩, rfl⟩
    rw [h k c hk]
    exact ⟨c, hk, htouch⟩
  · rintro ⟨c, hc, htouch⟩
    exact ⟨c, ⟨⟨id, hc⟩, htouch⟩, h id c hc⟩

/-- A node that is there takes the connections that touch it along; one that is not takes none. -/
theorem connections_removeNode {g : Graph R} (h : g.Keyed) (a : NodeId) (id : ConnectionId) :
    (g.removeNode a).1.connections.get? id =
      if g.nodes.contains a then (g.connections.get? id).filter (!·.touches a)
      else g.connections.get? id := by
  rw [removeNode]
  split
  · rename_i hnone
    rw [Table.contains, hnone]
    rfl
  · rename_i n hsome
    rw [if_pos (Table.contains_iff.2 ⟨n, hsome⟩)]
    change (List.foldl Table.erase g.connections _).get? id = _
    simp only [Table.get?_foldl_erase, mem_cascade_iff h]
    cases hc : g.connections.get? id with
    | none => simp
    | some c => cases htouch : c.touches a <;> simp [htouch, Option.filter]

@[simp] theorem nodes_removeConnection (g : Graph R) (id : ConnectionId) :
    (g.removeConnection id).1.nodes = g.nodes := by
  rw [removeConnection]
  split <;> rfl

theorem connections_removeConnection (g : Graph R) (id k : ConnectionId) :
    (g.removeConnection id).1.connections.get? k =
      if k = id then none else g.connections.get? k := by
  rw [removeConnection]
  split
  · rename_i hnone
    by_cases hk : k = id
    · rw [if_pos hk, hk, hnone]
    · rw [if_neg hk]
  · exact Table.get?_erase _ _ _

@[simp] theorem nodes_clear (g : Graph R) (id : NodeId) : g.clear.1.nodes.get? id = none := by
  rw [clear]
  split
  · rename_i hempty
    simp only [isEmpty, Bool.and_eq_true] at hempty
    exact Table.isEmpty_iff.1 hempty.1.1 id
  · rfl

@[simp] theorem connections_clear (g : Graph R) (id : ConnectionId) :
    g.clear.1.connections.get? id = none := by
  rw [clear]
  split
  · rename_i hempty
    simp only [isEmpty, Bool.and_eq_true] at hempty
    exact Table.isEmpty_iff.1 hempty.1.2 id
  · rfl

end Graph

variable [Scalar R]

/-! ## Patches -/

namespace NodePatch

variable {α : Type}

@[simp] theorem replace_none [BEq α] (old : α) : replace old none = (old, false) := rfl

/-- What a part is replaced by is alike to what it was to be replaced by. -/
theorem alike_replace [BEq α] (old new : α) : Alike (replace old (some new)).1 new := by
  rw [replace]
  split
  · rename_i hsame
    exact .inr hsame
  · exact .inl rfl

theorem replace_of_unchanged [BEq α] {old : α} {new : Option α}
    (h : (replace old new).2 = false) : (replace old new).1 = old := by
  cases new with
  | none => rfl
  | some new =>
    rw [replace] at h ⊢
    split
    · rfl
    · rename_i hdiff
      rw [if_neg hdiff] at h
      cases h

theorem apply_fst (p : NodePatch R) (n : Node R) :
    (p.apply n).1 = { n with
      type := (replace n.type p.type).1
      position := (replace n.position p.position).1
      parameters := (replace n.parameters p.parameters).1
      metadata := (replace n.metadata p.metadata).1
      inputs := (replace n.inputs p.inputs).1
      outputs := (replace n.outputs p.outputs).1 } := rfl

theorem apply_snd (p : NodePatch R) (n : Node R) :
    (p.apply n).2 = ((replace n.type p.type).2 || (replace n.position p.position).2 ||
      (replace n.parameters p.parameters).2 || (replace n.metadata p.metadata).2 ||
      (replace n.inputs p.inputs).2 || (replace n.outputs p.outputs).2) := rfl

/-- A patch that changes nothing leaves the very same node. -/
theorem apply_of_unchanged {p : NodePatch R} {n : Node R} (h : (p.apply n).2 = false) :
    (p.apply n).1 = n := by
  simp only [apply_snd, Bool.or_eq_false_iff] at h
  obtain ⟨⟨⟨⟨⟨htype, hposition⟩, hparameters⟩, hmetadata⟩, hinputs⟩, houtputs⟩ := h
  rw [apply_fst, replace_of_unchanged htype, replace_of_unchanged hposition,
    replace_of_unchanged hparameters, replace_of_unchanged hmetadata,
    replace_of_unchanged hinputs, replace_of_unchanged houtputs]

/-- The node with the parts of a patch written over its own, whatever they were. -/
def overwrite (p : NodePatch R) (n : Node R) : Node R :=
  { n with
    type := p.type.getD n.type
    position := p.position.getD n.position
    parameters := p.parameters.getD n.parameters
    metadata := p.metadata.getD n.metadata
    inputs := p.inputs.getD n.inputs
    outputs := p.outputs.getD n.outputs }

end NodePatch

/-! ## Writes, entity by entity -/

namespace Graph

theorem nodes_upsertNode (g : Graph R) (n : Node R) (id : NodeId) :
    (g.upsertNode n).1.nodes.get? id =
      if id = n.id then if g.nodes.get? id == some n then g.nodes.get? id else some n
      else g.nodes.get? id := by
  rw [upsertNode]
  by_cases hid : id = n.id
  · subst hid
    rw [if_pos rfl]
    split
    · rfl
    · exact Table.get?_insert_self _ _ _
  · rw [if_neg hid]
    split
    · rfl
    · change (g.nodes.insert n.id n).get? id = _
      rw [Table.get?_insert, if_neg hid]

@[simp] theorem connections_upsertNode (g : Graph R) (n : Node R) :
    (g.upsertNode n).1.connections = g.connections := by
  rw [upsertNode]
  split <;> rfl

@[simp] theorem localNodes_upsertNode (g : Graph R) (n : Node R) :
    (g.upsertNode n).1.localNodes = g.localNodes := by
  rw [upsertNode]
  split <;> rfl

@[simp] theorem localConnections_upsertNode (g : Graph R) (n : Node R) :
    (g.upsertNode n).1.localConnections = g.localConnections := by
  rw [upsertNode]
  split <;> rfl

theorem nodes_patchNode (g : Graph R) (a : NodeId) (p : NodePatch R) (id : NodeId) :
    (g.patchNode a p).1.nodes.get? id =
      if id = a then (g.nodes.get? id).map fun n => (p.apply n).1 else g.nodes.get? id := by
  rw [patchNode]
  by_cases hid : id = a
  · subst hid
    rw [if_pos rfl]
    cases hn : g.nodes.get? id with
    | none => simpa using hn
    | some n =>
      cases hchanged : (p.apply n).2 with
      | false => simp [hchanged, hn, NodePatch.apply_of_unchanged hchanged]
      | true => simp [hchanged, hn, Table.get?_modify]
  · rw [if_neg hid]
    cases hn : g.nodes.get? a with
    | none => rfl
    | some n => cases hchanged : (p.apply n).2 <;> simp [hchanged, Table.get?_modify, hid]

@[simp] theorem connections_patchNode (g : Graph R) (a : NodeId) (p : NodePatch R) :
    (g.patchNode a p).1.connections = g.connections := by
  rw [patchNode]
  split
  · rfl
  · dsimp only
    split <;> rfl

@[simp] theorem localNodes_patchNode (g : Graph R) (a : NodeId) (p : NodePatch R) :
    (g.patchNode a p).1.localNodes = g.localNodes := by
  rw [patchNode]
  split
  · rfl
  · dsimp only
    split <;> rfl

@[simp] theorem localConnections_patchNode (g : Graph R) (a : NodeId) (p : NodePatch R) :
    (g.patchNode a p).1.localConnections = g.localConnections := by
  rw [patchNode]
  split
  · rfl
  · dsimp only
    split <;> rfl

end Graph

end NodeCanvas
