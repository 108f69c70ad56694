import NodeCanvas.Backend.InProcess
import NodeCanvas.Proofs.Push
/-!
# Changes that overtake queued pushes

The client makes most changes as soon as the backend accepts them and hears of them again later,
behind pushes that were queued before. So the stale pushes meet a graph that already has the change.
This file compares what they make of it with what they make of the graph without the change:

* a patched node differs from the unpatched one in the patched parts only, whatever happens to both
  (`Graph.PatchedAt`);
* of anything else, the two graphs go on agreeing on the ids that the change is not about
  (`Graph.AgreeOn`).

The announcement of the change itself then writes the same over both.
-/

namespace NodeCanvas

variable {R : Type} [Scalar R]

/-! ## Nodes that differ in some parts -/

/-- Two nodes that are the same in all parts that a patch does not write. -/
structure Node.AgreeOutside (parts : NodePatch R) (n m : Node R) : Prop where
  id : n.id = m.id
  type : parts.type = none → n.type = m.type
  position : parts.position = none → n.position = m.position
  parameters : parts.parameters = none → n.parameters = m.parameters
  metadata : parts.metadata = none → n.metadata = m.metadata
  inputs : parts.inputs = none → n.inputs = m.inputs
  outputs : parts.outputs = none → n.outputs = m.outputs

namespace Node.AgreeOutside

variable {parts : NodePatch R} {n m : Node R}

omit [Scalar R] in
theorem refl (parts : NodePatch R) (n : Node R) : n.AgreeOutside parts n :=
  ⟨rfl, fun _ => rfl, fun _ => rfl, fun _ => rfl, fun _ => rfl, fun _ => rfl, fun _ => rfl⟩

/-- A patch writes its parts only. -/
theorem of_apply (parts : NodePatch R) (n : Node R) : (parts.apply n).1.AgreeOutside parts n := by
  constructor <;> intros <;> simp_all [NodePatch.apply_fst]

theorem apply (h : n.AgreeOutside parts m) (p : NodePatch R) :
    (p.apply n).1.AgreeOutside parts (p.apply m).1 := by
  rw [NodePatch.apply_fst, NodePatch.apply_fst]
  exact ⟨h.id, fun hp => by rw [h.type hp], fun hp => by rw [h.position hp],
    fun hp => by rw [h.parameters hp], fun hp => by rw [h.metadata hp],
    fun hp => by rw [h.inputs hp], fun hp => by rw [h.outputs hp]⟩

/-- A change set reads and writes the parameters of a node only. -/
theorem merge (h : n.AgreeOutside parts m) (changes : Table Json) :
    ((Client.patchOfChanges n changes).apply n).1.AgreeOutside parts
      ((Client.patchOfChanges m changes).apply m).1 := by
  have hparameters : parts.parameters = none →
      (Client.patchOfChanges n changes).parameters =
        (Client.patchOfChanges m changes).parameters := by
    intro hp
    simp only [Client.patchOfChanges, h.parameters hp]
  rw [NodePatch.apply_fst, NodePatch.apply_fst]
  exact ⟨h.id, fun hp => by rw [h.type hp]; rfl, fun hp => by rw [h.position hp]; rfl,
    fun hp => by rw [h.parameters hp, hparameters hp], fun hp => by rw [h.metadata hp]; rfl,
    fun hp => by rw [h.inputs hp]; rfl, fun hp => by rw [h.outputs hp]; rfl⟩

end Node.AgreeOutside

namespace Graph

variable {node : NodeId} {parts : NodePatch R} {g₁ g₂ g : Graph R}

/-- Two graphs that differ at most in some parts of one node. -/
structure PatchedAt (node : NodeId) (parts : NodePatch R) (g₁ g₂ : Graph R) : Prop where
  here : Option.Rel (Node.AgreeOutside parts) (g₁.nodes.get? node) (g₂.nodes.get? node)
  elsewhere : ∀ id, id ≠ node → g₁.nodes.get? id = g₂.nodes.get? id
  connections : ∀ id, g₁.connections.get? id = g₂.connections.get? id

omit [Scalar R] in
theorem PatchedAt.refl (node : NodeId) (parts : NodePatch R) (g : Graph R) :
    g.PatchedAt node parts g where
  here := by
    cases g.nodes.get? node with
    | none => exact .none
    | some n => exact .some (.refl parts n)
  elsewhere _ _ := rfl
  connections _ := rfl

theorem patchedAt_patch (g : Graph R) (node : NodeId) (parts : NodePatch R) :
    (g.alter (.patch node parts)).PatchedAt node parts g where
  here := by
    rw [nodes_alter, GraphChange.onNode, if_pos rfl]
    cases g.nodes.get? node with
    | none => exact .none
    | some n => exact .some (.of_apply parts n)
  elsewhere id hid := by rw [nodes_alter, GraphChange.onNode, if_neg hid]
  connections id := by rw [alter, connections_patchNode]

omit [Scalar R] in
theorem PatchedAt.contains_eq (h : g₁.PatchedAt node parts g₂) (id : NodeId) :
    g₁.nodes.contains id = g₂.nodes.contains id := by
  by_cases hid : id = node
  · subst hid
    exact Table.contains_eq_of_rel h.here
  · rw [Table.contains, Table.contains, h.elsewhere id hid]

/-- Every change that does not put the node anew leaves the graphs different in those parts only. -/
theorem PatchedAt.alter
    (h : g₁.PatchedAt node parts g₂) (hk₁ : g₁.Keyed) (hk₂ : g₂.Keyed) {ch : GraphChange R}
    (hput : ∀ n, ch = .put n → n.id ≠ node) :
    (g₁.alter ch).PatchedAt node parts (g₂.alter ch) where
  here := by
    rw [nodes_alter, nodes_alter]
    have hhere := h.here
    generalize g₁.nodes.get? node = o₁, g₂.nodes.get? node = o₂ at hhere ⊢
    cases ch with
    | put n => simpa only [GraphChange.onNode, if_neg (hput n rfl).symm] using hhere
    | drop a =>
      simp only [GraphChange.onNode]
      split
      · exact .none
      · exact hhere
    | patch a p =>
      simp only [GraphChange.onNode]
      split
      · cases hhere with
        | none => exact .none
        | some hsame => exact .some (hsame.apply p)
      · exact hhere
    | merge a changes =>
      simp only [GraphChange.onNode]
      split
      · cases hhere with
        | none => exact .none
        | some hsame => exact .some (hsame.merge changes)
      · exact hhere
    | link _ => exact hhere
    | unlink _ => exact hhere
    | wipe => exact .none
  elsewhere id hid := by rw [nodes_alter, nodes_alter, h.elsewhere id hid]
  connections id := by
    -- What is dropped with a node depends on whether the node is there, not on its parts.
    have hpresent : g₁.nodes.contains = g₂.nodes.contains := funext h.contains_eq
    rw [connections_alter hk₁, connections_alter hk₂, h.connections id, hpresent]

theorem PatchedAt.settle (h : g₁.PatchedAt node parts g₂) (hk₁ : g₁.Keyed) (hk₂ : g₂.Keyed)
    {changes : List (GraphChange R)} (hput : ∀ n, .put n ∈ changes → n.id ≠ node) :
    (g₁.settle changes).PatchedAt node parts (g₂.settle changes) := by
  induction changes generalizing g₁ g₂ with
  | nil => exact h
  | cons ch changes ih =>
    refine ih (h.alter hk₁ hk₂ ?_) (hk₁.alter ch) (hk₂.alter ch) ?_
    · rintro n rfl
      exact hput n List.mem_cons_self
    · intro n hn
      exact hput n (List.mem_cons_of_mem ch hn)

/-! ## Graphs that agree on some ids -/

/-- Two graphs that have the same under some ids of nodes and the same of some connections. -/
structure AgreeOn (nodes : NodeId → Prop) (connections : ConnectionId → Connection → Prop)
    (g₁ g₂ : Graph R) : Prop where
  nodes : ∀ id, nodes id → g₁.nodes.get? id = g₂.nodes.get? id
  connections : ∀ id c, connections id c →
    (g₁.connections.get? id = some c ↔ g₂.connections.get? id = some c)

variable {nodes : NodeId → Prop} {connections : ConnectionId → Connection → Prop}

omit [Scalar R] in
theorem AgreeOn.refl (nodes : NodeId → Prop) (connections : ConnectionId → Connection → Prop)
    (g : Graph R) : g.AgreeOn nodes connections g :=
  ⟨fun _ _ => rfl, fun _ _ _ => .rfl⟩

omit [Scalar R] in
theorem AgreeOn.mono {fewer : NodeId → Prop}
    {fewerConnections : ConnectionId → Connection → Prop} (h : g₁.AgreeOn nodes connections g₂)
    (hnodes : ∀ id, fewer id → nodes id)
    (hconnections : ∀ id c, fewerConnections id c → connections id c) :
    g₁.AgreeOn fewer fewerConnections g₂ :=
  ⟨fun id hid => h.nodes id (hnodes id hid),
    fun id c hc => h.connections id c (hconnections id c hc)⟩

/-- A change keeps the agreement, provided that a node which is dropped with connections agreed on
is agreed on itself. -/
theorem AgreeOn.alter (h : g₁.AgreeOn nodes connections g₂) (hk₁ : g₁.Keyed)
    (hk₂ : g₂.Keyed) {ch : GraphChange R}
    (hdrop : ∀ a, ch = .drop a → ∀ id c, connections id c → c.touches a = true → nodes a) :
    (g₁.alter ch).AgreeOn nodes connections (g₂.alter ch) where
  nodes id hid := by rw [nodes_alter, nodes_alter, h.nodes id hid]
  connections id c hc := by
    have hsame := h.connections id c hc
    rw [connections_alter hk₁, connections_alter hk₂]
    cases ch with
    | put _ => exact hsame
    | patch _ _ => exact hsame
    | merge _ _ => exact hsame
    | drop a =>
      simp only [GraphChange.onConnection]
      by_cases htouch : c.touches a = true
      -- The cascade runs only where the node is, so the graphs have to agree on the node.
      · have hpresent : g₁.nodes.contains a = g₂.nodes.contains a := by
          rw [Table.contains, Table.contains, h.nodes a (hdrop a rfl id c hc htouch)]
        rw [hpresent]
        split
        · simp [Option.filter_eq_some_iff, htouch]
        · exact hsame
      -- No cascade takes along what does not touch the node.
      · have hkeep : ∀ (present : Bool) (o : Option Connection),
            (if present = true then o.filter (!·.touches a) else o) = some c ↔ o = some c := by
          intro present o
          cases present <;> simp [Option.filter_eq_some_iff, htouch]
        rw [hkeep, hkeep]
        exact hsame
    | link d =>
      simp only [GraphChange.onConnection]
      split
      · rfl
      · exact hsame
    | unlink d =>
      simp only [GraphChange.onConnection]
      split
      · rfl
      · exact hsame
    | wipe => rfl

theorem AgreeOn.settle (h : g₁.AgreeOn nodes connections g₂) (hk₁ : g₁.Keyed)
    (hk₂ : g₂.Keyed) {changes : List (GraphChange R)}
    (hdrop : ∀ a, .drop a ∈ changes → ∀ id c, connections id c → c.touches a = true → nodes a) :
    (g₁.settle changes).AgreeOn nodes connections (g₂.settle changes) := by
  induction changes generalizing g₁ g₂ with
  | nil => exact h
  | cons ch changes ih =>
    refine ih (h.alter hk₁ hk₂ ?_) (hk₁.alter ch) (hk₂.alter ch) ?_
    · rintro a rfl
      exact hdrop a List.mem_cons_self
    · intro a ha
      exact hdrop a (List.mem_cons_of_mem ch ha)

theorem agreeOn_drop (hk : g.Keyed) (a : NodeId) :
    (g.alter (.drop a)).AgreeOn (· ≠ a) (fun _ c => c.touches a = false) g where
  nodes id hid := by rw [nodes_alter, GraphChange.onNode, if_neg hid]
  connections id c htouch := by
    rw [connections_alter hk, GraphChange.onConnection]
    split
    · simp [Option.filter_eq_some_iff, htouch]
    · rfl

theorem agreeOn_unlink (hk : g.Keyed) (k : ConnectionId) :
    (g.alter (.unlink k)).AgreeOn (fun _ => True) (fun id _ => id ≠ k) g where
  nodes id _ := by rw [nodes_alter, GraphChange.onNode]
  connections id c hid := by rw [connections_alter hk, GraphChange.onConnection, if_neg hid]

theorem agreeOn_put (hk : g.Keyed) (node : Node R) :
    (g.alter (.put node)).AgreeOn (· ≠ node.id) (fun _ _ => True) g where
  nodes id hid := by rw [nodes_alter, GraphChange.onNode, if_neg hid]
  connections id c _ := by rw [connections_alter hk, GraphChange.onConnection]

theorem agreeOn_link (hk : g.Keyed) (d : Connection) :
    (g.alter (.link d)).AgreeOn (fun _ => True) (fun id _ => id ≠ d.id) g where
  nodes id _ := by rw [nodes_alter, GraphChange.onNode]
  connections id c hid := by
    rw [connections_alter hk, GraphChange.onConnection, if_neg fun hand => hid hand.2]

end Graph

end NodeCanvas
