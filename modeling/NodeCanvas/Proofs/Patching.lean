import Mathlib.Data.List.Induction
import NodeCanvas.Proofs.Graph
/-!
# Patches one after another

A patch names some of the six parts of a node and leaves the others alone. Of several patches to one
node the last that names a part decides it, whatever the others said; a part that none of them names
stays as it was, and so does everything else on the graph. As every write compares first, a part is
`Alike` what was named, and need not be identical to it.

Patches that have no part in common do not see each other. So they can be applied in either order,
and each of them counts as a change, or does not, as it would alone: the revision is the same as
well.
-/

namespace NodeCanvas

variable {R : Type}

/-! ## The parts of a node -/

/-- A part of a node that a patch may replace. -/
inductive NodePart where
  | type
  | position
  | parameters
  | metadata
  | inputs
  | outputs
  deriving DecidableEq

/-- What a part consists of. -/
def NodePart.Value (R : Type) : NodePart → Type
  | .type => String
  | .position => Position R
  | .parameters => Parameters
  | .metadata => Metadata
  | .inputs | .outputs => List Port

def Node.part (n : Node R) : (k : NodePart) → k.Value R
  | .type => n.type
  | .position => n.position
  | .parameters => n.parameters
  | .metadata => n.metadata
  | .inputs => n.inputs
  | .outputs => n.outputs

/-- What a patch says of a part, if it names it. -/
def NodePatch.part (p : NodePatch R) : (k : NodePart) → Option (k.Value R)
  | .type => p.type
  | .position => p.position
  | .parameters => p.parameters
  | .metadata => p.metadata
  | .inputs => p.inputs
  | .outputs => p.outputs

/-- No part is named by both patches. -/
def NodePatch.Disjoint (p q : NodePatch R) : Prop := ∀ k, p.part k = none ∨ q.part k = none

/-- A node is its id and its parts. -/
theorem Node.ext_part {n n' : Node R} (hid : n.id = n'.id) (h : ∀ k, n.part k = n'.part k) :
    n = n' := by
  obtain ⟨id, type, position, parameters, metadata, inputs, outputs⟩ := n
  obtain ⟨id', type', position', parameters', metadata', inputs', outputs'⟩ := n'
  have htype : type = type' := h .type
  have hposition : position = position' := h .position
  have hparameters : parameters = parameters' := h .parameters
  have hmetadata : metadata = metadata' := h .metadata
  have hinputs : inputs = inputs' := h .inputs
  have houtputs : outputs = outputs' := h .outputs
  cases hid
  rw [htype, hposition, hparameters, hmetadata, hinputs, houtputs]

variable [Scalar R]

/-- Parts are compared like what they consist of. -/
instance NodePart.instBEqValue (k : NodePart) : BEq (k.Value R) :=
  match k with
  | .type => inferInstanceAs (BEq String)
  | .position => inferInstanceAs (BEq (Position R))
  | .parameters => inferInstanceAs (BEq Parameters)
  | .metadata => inferInstanceAs (BEq Metadata)
  | .inputs | .outputs => inferInstanceAs (BEq (List Port))

namespace NodePatch

@[simp] theorem part_apply (p : NodePatch R) (n : Node R) (k : NodePart) :
    (p.apply n).1.part k = (replace (n.part k) (p.part k)).1 := by
  cases k <;> rfl

theorem apply_snd_iff (p : NodePatch R) (n : Node R) :
    (p.apply n).2 = true ↔ ∃ k, (replace (n.part k) (p.part k)).2 = true := by
  simp only [apply_snd, Bool.or_eq_true]
  constructor
  · rintro (((((h | h) | h) | h) | h) | h)
    · exact ⟨.type, h⟩
    · exact ⟨.position, h⟩
    · exact ⟨.parameters, h⟩
    · exact ⟨.metadata, h⟩
    · exact ⟨.inputs, h⟩
    · exact ⟨.outputs, h⟩
  · rintro ⟨k, h⟩
    cases k with
    | type => exact .inl (.inl (.inl (.inl (.inl h))))
    | position => exact .inl (.inl (.inl (.inl (.inr h))))
    | parameters => exact .inl (.inl (.inl (.inr h)))
    | metadata => exact .inl (.inl (.inr h))
    | inputs => exact .inl (.inr h)
    | outputs => exact .inr h

/-! ## Patches without a common part -/

/-- A patch does not see whether a disjoint one was applied before it. -/
theorem Disjoint.apply_snd {p q : NodePatch R} (h : p.Disjoint q) (n : Node R) :
    (q.apply (p.apply n).1).2 = (q.apply n).2 := by
  rw [Bool.eq_iff_iff, apply_snd_iff, apply_snd_iff]
  refine exists_congr fun k => ?_
  rw [part_apply]
  obtain hp | hq := h k
  · rw [hp, replace_none]
  · rw [hq, replace_none, replace_none]

theorem Disjoint.apply_apply {p q : NodePatch R} (h : p.Disjoint q) (n : Node R) :
    (q.apply (p.apply n).1).1 = (p.apply (q.apply n).1).1 := by
  refine Node.ext_part rfl fun k => ?_
  simp only [part_apply]
  obtain hp | hq := h k
  · simp only [hp, replace_none]
  · simp only [hq, replace_none]

/-! ## The last patch that names a part -/

/-- What the last of some patches that names a part says of it. -/
def lastNamed? (patches : List (NodePatch R)) (k : NodePart) : Option (k.Value R) :=
  patches.reverse.findSome? (·.part k)

/-- A node with patches applied to it, the first one first. -/
def applyAll (patches : List (NodePatch R)) (n : Node R) : Node R :=
  patches.foldl (fun n p => (p.apply n).1) n

theorem applyAll_concat (patches : List (NodePatch R)) (p : NodePatch R) (n : Node R) :
    applyAll (patches ++ [p]) n = (p.apply (applyAll patches n)).1 := by
  rw [applyAll, List.foldl_append]
  rfl

theorem id_applyAll (patches : List (NodePatch R)) (n : Node R) :
    (applyAll patches n).id = n.id := by
  induction patches generalizing n with
  | nil => rfl
  | cons p patches ih => exact ih (p.apply n).1

/-- What has become of a part: it is alike to what the last patch that names it says, and the very
same as before if none does. -/
def Decides (patches : List (NodePatch R)) (k : NodePart) (old new : k.Value R) : Prop :=
  match lastNamed? patches k with
  | some named => Alike new named
  | none => new = old

/-- The induction is on the patches from the last one backwards, as the last one decides. -/
theorem decides_applyAll (patches : List (NodePatch R)) (n : Node R) (k : NodePart) :
    Decides patches k (n.part k) ((applyAll patches n).part k) := by
  induction patches using List.reverseRecOn with
  | nil => exact rfl
  | append_singleton patches p ih =>
    rw [applyAll_concat, part_apply]
    unfold Decides lastNamed? at ih ⊢
    rw [List.reverse_concat, List.findSome?_cons]
    cases p.part k with
    | none => exact ih
    | some named => exact alike_replace _ named

end NodePatch

/-! ## Patches on a graph -/

namespace Graph

/-- The graph with patches applied to a node of it, the first one first. -/
def patchAll (g : Graph R) (id : NodeId) (patches : List (NodePatch R)) : Graph R :=
  patches.foldl (fun g p => (g.patchNode id p).1) g

/-- Whether a patch changes a node, as a count. -/
def patchCount (g : Graph R) (id : NodeId) (p : NodePatch R) : Nat :=
  match g.nodes.get? id with
  | some n => (p.apply n).2.toNat
  | none => 0

/-- A patch that changes nothing may as well be written: it leaves the very same node. -/
theorem patchNode_eq (g : Graph R) (id : NodeId) (p : NodePatch R) :
    (g.patchNode id p).1 = { g with
      nodes := g.nodes.modify id fun n => (p.apply n).1
      revision := g.revision + g.patchCount id p } := by
  have hnodes : (g.patchNode id p).1.nodes = g.nodes.modify id fun n => (p.apply n).1 := by
    refine Table.ext_get? fun k => ?_
    rw [nodes_patchNode, Table.get?_modify]
  rw [← hnodes]
  unfold patchNode patchCount
  cases g.nodes.get? id with
  | none => rfl
  | some n =>
    dsimp only
    cases (p.apply n).2 <;> rfl

theorem nodes_patchAll (g : Graph R) (id : NodeId) (patches : List (NodePatch R)) (k : NodeId) :
    (g.patchAll id patches).nodes.get? k =
      if k = id then (g.nodes.get? k).map (NodePatch.applyAll patches) else g.nodes.get? k := by
  induction patches generalizing g with
  | nil =>
    rw [patchAll, List.foldl_nil]
    split
    · exact Option.map_id'.symm
    · rfl
  | cons p patches ih =>
    refine (ih (g.patchNode id p).1).trans ?_
    rw [nodes_patchNode]
    split
    · rw [Option.map_map]
      rfl
    · rfl

/-- What every patch leaves alone, any number of them do. -/
theorem patchAll_keeps {α : Type} {f : Graph R → α} {id : NodeId}
    (h : ∀ g p, f (g.patchNode id p).1 = f g) (patches : List (NodePatch R)) (g : Graph R) :
    f (g.patchAll id patches) = f g := by
  induction patches generalizing g with
  | nil => rfl
  | cons p patches ih => exact (ih _).trans (h g p)

/-- What patches to a node leave behind. -/
structure Patched (g g' : Graph R) (id : NodeId) (patches : List (NodePatch R)) : Prop where
  /-- A node that is not there is not patched. -/
  absent : g.node? id = none → g' = g
  /-- The node keeps its id, and each part of it is decided by the last patch that names it. -/
  decided : ∀ n, g.node? id = some n →
    ∃ n', g'.node? id = some n' ∧ n'.id = n.id ∧
      ∀ k, NodePatch.Decides patches k (n.part k) (n'.part k)
  others : ∀ other, other ≠ id → g'.node? other = g.node? other
  connections : g'.connections = g.connections
  localNodes : g'.localNodes = g.localNodes
  localConnections : g'.localConnections = g.localConnections

theorem patchNode_absent {g : Graph R} {id : NodeId} (h : g.node? id = none) (p : NodePatch R) :
    g.patchNode id p = (g, false) := by
  unfold node? at h
  rw [patchNode, h]

theorem patched_patchAll (g : Graph R) (id : NodeId) (patches : List (NodePatch R)) :
    g.Patched (g.patchAll id patches) id patches where
  absent h := by
    induction patches with
    | nil => rfl
    | cons p patches ih =>
      rw [patchAll, List.foldl_cons, patchNode_absent h]
      exact ih
  decided n h := by
    refine ⟨NodePatch.applyAll patches n, ?_, NodePatch.id_applyAll patches n,
      NodePatch.decides_applyAll patches n⟩
    unfold node? at h ⊢
    rw [nodes_patchAll, if_pos rfl, h, Option.map_some]
  others other hother := by
    unfold node?
    rw [nodes_patchAll, if_neg hother]
  connections := patchAll_keeps (fun g => connections_patchNode g id) patches g
  localNodes := patchAll_keeps (fun g => localNodes_patchNode g id) patches g
  localConnections := patchAll_keeps (fun g => localConnections_patchNode g id) patches g

/-! ## Either order -/

theorem patchCount_patchNode {p q : NodePatch R} (h : p.Disjoint q) (g : Graph R) (id : NodeId) :
    (g.patchNode id p).1.patchCount id q = g.patchCount id q := by
  unfold patchCount
  rw [nodes_patchNode, if_pos rfl]
  cases g.nodes.get? id with
  | none => rfl
  | some n => exact congrArg Bool.toNat (h.apply_snd n)

theorem patchAll_comm {p q : NodePatch R} (h : p.Disjoint q) (g : Graph R) (id : NodeId) :
    g.patchAll id [p, q] = g.patchAll id [q, p] := by
  have hpair (p q : NodePatch R) (h : p.Disjoint q) : g.patchAll id [p, q] = { g with
      nodes := (g.nodes.modify id fun n => (p.apply n).1).modify id fun n => (q.apply n).1
      revision := g.revision + (g.patchCount id p + g.patchCount id q) } := by
    change ((g.patchNode id p).1.patchNode id q).1 = _
    rw [patchNode_eq (g.patchNode id p).1, patchCount_patchNode h, patchNode_eq g, Nat.add_assoc]
  have hnodes : ((g.nodes.modify id fun n => (p.apply n).1).modify id fun n => (q.apply n).1) =
      (g.nodes.modify id fun n => (q.apply n).1).modify id fun n => (p.apply n).1 := by
    refine Table.ext_get? fun k => ?_
    simp only [Table.get?_modify]
    split
    · rw [Option.map_map, Option.map_map]
      exact congrArg (Option.map · _) (funext h.apply_apply)
    · rfl
  rw [hpair p q h, hpair q p fun k => (h k).symm, hnodes, Nat.add_comm (g.patchCount id p)]

/-! ## The main result -/

/-- **The last patch that names a part decides it.** For every graph and every node: whatever
patches are applied to the node one after the other, each part of it ends as the last patch that
names the part says, or stays as it was if none does; nothing else on the graph changes. And two
patches that name no part in common lead to the same graph in either order, with the same
revision. -/
theorem last_patch_wins (g : Graph R) (id : NodeId) :
    (∀ patches, g.Patched (g.patchAll id patches) id patches) ∧
      ∀ p q : NodePatch R, p.Disjoint q → g.patchAll id [p, q] = g.patchAll id [q, p] :=
  ⟨patched_patchAll g id, fun _ _ h => patchAll_comm h g id⟩

/-- A node at the origin is retyped and moved, where one coordinate is a zero of the other sign. -/
theorem last_patch_wins_moved :
    let g := (Graph.empty.upsertNode (.fresh "a" "input" .origin)).1
    let retyping : NodePatch Float := { type := some "sum", inputs := some [] }
    let move : NodePatch Float := { position := some ⟨-0.0, 5.0⟩ }
    retyping.Disjoint move ∧ g.patchAll "a" [retyping, move] = g.patchAll "a" [move, retyping] ∧
      (g.patchAll "a" [retyping, move]).revision = 3 := by
  intro g retyping move
  have hdisjoint : retyping.Disjoint move := by
    intro k
    cases k with
    | type | inputs => exact .inr rfl
    | position | parameters | metadata | outputs => exact .inl rfl
  exact ⟨hdisjoint, (last_patch_wins g "a").2 retyping move hdisjoint, rfl⟩

end Graph

end NodeCanvas
