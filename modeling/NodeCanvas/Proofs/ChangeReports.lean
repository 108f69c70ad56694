import NodeCanvas.Proofs.Cascade
import NodeCanvas.Proofs.Repetition
/-!
# What calls report

Six of the calls that change a graph report whether they did. The report is right: `Graph.Outcome`
says once what such a call can do, which is to leave the very same graph, or to change what is on it
and to count that as one revision. What is on a graph is compared as the calls themselves compare, so
a coordinate that is no number would make a graph differ from itself, and a node be written over and
over again. Without such coordinates a call that is made twice has nothing left to do
(`change_reports_are_exact`).
-/

namespace NodeCanvas

variable {R : Type} [Scalar R]

/-! ## Patches that change something -/

namespace NodePatch

/-- A part that compares as equal to what it is replaced by counts as unchanged. -/
theorem replace_snd_of_beq {α : Type} [BEq α] {old : α} {new : Option α}
    (h : (old == (replace old new).1) = true) : (replace old new).2 = false := by
  cases new with
  | none => rfl
  | some new =>
    rw [replace] at h ⊢
    split at h
    · rename_i hsame
      rw [if_pos hsame]
    · rename_i hdiffers
      exact (hdiffers h).elim

/-- **A patch that reports a change makes a node that differs.** -/
theorem beq_apply_of_changed {p : NodePatch R} {n : Node R} (h : (p.apply n).2 = true) :
    (n == (p.apply n).1) = false := by
  rw [← Bool.not_eq_true]
  intro hsame
  have hparts : (n.id == n.id && (n.type == (replace n.type p.type).1 &&
      (n.position == (replace n.position p.position).1 &&
      (n.parameters == (replace n.parameters p.parameters).1 &&
      (n.metadata == (replace n.metadata p.metadata).1 &&
      (n.inputs == (replace n.inputs p.inputs).1 &&
      n.outputs == (replace n.outputs p.outputs).1)))))) = true := hsame
  simp only [Bool.and_eq_true] at hparts
  obtain ⟨-, htype, hposition, hparameters, hmetadata, hinputs, houtputs⟩ := hparts
  rw [apply_snd, replace_snd_of_beq htype, replace_snd_of_beq hposition,
    replace_snd_of_beq hparameters, replace_snd_of_beq hmetadata, replace_snd_of_beq hinputs,
    replace_snd_of_beq houtputs] at h
  cases h

end NodePatch

/-! ## Reports -/

namespace Graph

/-- What a call reports: whether it changed something, or why it was refused. Bulk loads and marks
report nothing. -/
def report? (g : Graph R) : GraphCall R → Option (Except GraphError Bool)
  | .upsertNode node => some (.ok (g.upsertNode node).2)
  | .removeNode id => some (.ok (g.removeNode id).2.isSome)
  | .upsertConnection connection => some ((g.upsertConnection connection).map (·.2))
  | .removeConnection id => some (.ok (g.removeConnection id).2.isSome)
  | .patchNode id patch => some (.ok (g.patchNode id patch).2)
  | .clear => some (.ok g.clear.2)
  | .replaceAll _ _ | .markLocalNode _ | .markLocalConnection _ => none

/-- Whether the nodes, the connections and the marks of two graphs compare as equal. -/
def sameContents (g g' : Graph R) : Bool :=
  g.nodes == g'.nodes && g.connections == g'.connections && g.localNodes == g'.localNodes &&
    g.localConnections == g'.localConnections

/-- What a call that reports may make of a graph. -/
inductive Outcome (g : Graph R) : Graph R → Except GraphError Bool → Prop
  | refused (error : GraphError) : Outcome g g (.error error)
  | unchanged : Outcome g g (.ok false)
  | changed {g' : Graph R} (revision : g'.revision = g.revision + 1)
      (contents : g.sameContents g' = false) : Outcome g g' (.ok true)

section

variable {g g' : Graph R}

theorem contents_of_node (id : NodeId) (h : (g.nodes.get? id == g'.nodes.get? id) = false) :
    g.sameContents g' = false := by
  rw [← Bool.not_eq_true] at h ⊢
  intro hsame
  simp only [sameContents, Bool.and_eq_true] at hsame
  exact h (Table.get?_beq_of_beq hsame.1.1.1 id)

theorem contents_of_connection (id : ConnectionId)
    (h : g.connections.get? id ≠ g'.connections.get? id) : g.sameContents g' = false := by
  rw [← Bool.not_eq_true]
  intro hsame
  simp only [sameContents, Bool.and_eq_true] at hsame
  exact h (beq_iff_eq.1 (Table.get?_beq_of_beq hsame.1.1.2 id))

theorem contents_of_mark (id : NodeId) (h : g.localNodes.get? id ≠ g'.localNodes.get? id) :
    g.sameContents g' = false := by
  rw [← Bool.not_eq_true]
  intro hsame
  simp only [sameContents, Bool.and_eq_true] at hsame
  exact h (beq_iff_eq.1 (Table.get?_beq_of_beq hsame.1.2 id))

end

/-! ## One call -/

variable (g : Graph R)

theorem outcome_upsertNode (node : Node R) :
    g.Outcome (g.upsertNode node).1 (.ok (g.upsertNode node).2) := by
  unfold upsertNode
  split
  · exact .unchanged
  · rename_i hdiffers
    refine .changed rfl (contents_of_node node.id ?_)
    rw [Table.get?_insert_self]
    exact Bool.not_eq_true _ ▸ hdiffers

theorem outcome_removeNode (id : NodeId) :
    g.Outcome (g.removeNode id).1 (.ok (g.removeNode id).2.isSome) := by
  unfold removeNode
  split
  · exact .unchanged
  · rename_i node hnode
    refine .changed rfl (contents_of_node id ?_)
    change (g.nodes.get? id == (g.nodes.erase id).get? id) = false
    rw [hnode, Table.get?_erase, if_pos rfl]
    rfl

theorem outcome_upsertConnection (c : Connection) :
    g.Outcome (g.call (.upsertConnection c)) ((g.upsertConnection c).map (·.2)) := by
  rw [call]
  by_cases hloop : c.isSelfLoop = true
  · have hrefused : g.upsertConnection c = .error (.selfLoop c.id c.source) := if_pos hloop
    rw [hrefused]
    exact .refused _
  · by_cases hstored : g.connections.get? c.id = some c
    · have hsame : g.upsertConnection c = .ok (g, false) := by
        rw [upsertConnection, if_neg hloop, if_pos hstored]
      rw [hsame]
      exact .unchanged
    · have hput : g.upsertConnection c = .ok ({ g with
          connections := g.connections.insert c.id c, revision := g.revision + 1 }, true) := by
        rw [upsertConnection, if_neg hloop, if_neg hstored]
      rw [hput]
      refine .changed rfl (contents_of_connection c.id ?_)
      rw [Table.get?_insert_self]
      exact hstored

theorem outcome_removeConnection (id : ConnectionId) :
    g.Outcome (g.removeConnection id).1 (.ok (g.removeConnection id).2.isSome) := by
  unfold removeConnection
  split
  · exact .unchanged
  · rename_i c hc
    refine .changed rfl (contents_of_connection id ?_)
    change g.connections.get? id ≠ (g.connections.erase id).get? id
    rw [hc, Table.get?_erase, if_pos rfl]
    exact Option.some_ne_none c

theorem outcome_patchNode (id : NodeId) (patch : NodePatch R) :
    g.Outcome (g.patchNode id patch).1 (.ok (g.patchNode id patch).2) := by
  unfold patchNode
  split
  · exact .unchanged
  · rename_i node hnode
    dsimp only
    split
    · rename_i hchanged
      refine .changed rfl (contents_of_node id ?_)
      change (g.nodes.get? id == (g.nodes.modify id fun _ => _).get? id) = false
      rw [Table.get?_modify, if_pos rfl, hnode]
      exact NodePatch.beq_apply_of_changed hchanged
    · exact .unchanged

/-- The test of a clearing leaves out the marks of connections, and so does the clearing then. -/
theorem outcome_clear : g.Outcome g.clear.1 (.ok g.clear.2) := by
  unfold clear
  split
  · exact .unchanged
  · rename_i hsome
    refine .changed rfl ?_
    simp only [isEmpty, Bool.and_eq_true, Table.isEmpty_iff, not_and_or, not_forall] at hsome
    obtain (⟨id, hnode⟩ | ⟨id, hconnection⟩) | ⟨id, hmark⟩ := hsome
    · refine contents_of_node id ?_
      obtain ⟨node, hnode⟩ := Option.ne_none_iff_exists'.1 hnode
      rw [hnode]
      rfl
    · exact contents_of_connection id hconnection
    · exact contents_of_mark id hmark

/-- **What a call does is what it reports.** -/
theorem outcome_call {call : GraphCall R} {report : Except GraphError Bool}
    (h : g.report? call = some report) : g.Outcome (g.call call) report := by
  cases call with
  | upsertNode node => exact Option.some.inj h ▸ g.outcome_upsertNode node
  | removeNode id => exact Option.some.inj h ▸ g.outcome_removeNode id
  | upsertConnection c => exact Option.some.inj h ▸ g.outcome_upsertConnection c
  | removeConnection id => exact Option.some.inj h ▸ g.outcome_removeConnection id
  | patchNode id patch => exact Option.some.inj h ▸ g.outcome_patchNode id patch
  | clear => exact Option.some.inj h ▸ g.outcome_clear
  | replaceAll | markLocalNode | markLocalConnection => cases h

/-! ## The same call again -/

theorem patchNode_twice (id : NodeId) {patch : NodePatch R}
    (hposition : ∀ p ∈ patch.position, (p == p) = true) :
    (g.patchNode id patch).1.patchNode id patch = ((g.patchNode id patch).1, false) := by
  refine patchNode_of_met fun n hn => ?_
  rw [nodes_patchNode, if_pos rfl] at hn
  obtain ⟨m, -, rfl⟩ := Option.map_eq_some_iff.1 hn
  exact NodePatch.met_apply hposition m

end Graph

/-- Both coordinates are numbers. -/
def Position.IsNumeric (p : Position Float) : Prop := p.x.isNaN = false ∧ p.y.isNaN = false

theorem Position.IsNumeric.beq_self {p : Position Float} (h : p.IsNumeric) : (p == p) = true :=
  Position.beq_self h.1 h.2

/-- The coordinates that a call brings are numbers. -/
def GraphCall.IsNumeric : GraphCall Float → Prop
  | .upsertNode node => node.position.IsNumeric
  | .patchNode _ patch => ∀ p ∈ patch.position, p.IsNumeric
  | .replaceAll nodes _ => ∀ node ∈ nodes, node.position.IsNumeric
  | .removeNode _ | .upsertConnection _ | .removeConnection _ | .clear | .markLocalNode _
  | .markLocalConnection _ => True

namespace Graph

/-- The coordinates of all nodes are numbers. -/
def IsNumeric (g : Graph Float) : Prop :=
  ∀ id node, g.nodes.get? id = some node → node.position.IsNumeric

/-- A graph without other coordinates than numbers is the same as itself. -/
theorem IsNumeric.sameContents_self {g : Graph Float} (h : g.IsNumeric) :
    g.sameContents g = true := by
  have hentries : ∀ entries : List (String × Node Float),
      (∀ e ∈ entries, (e.2 == e.2) = true) → (entries == entries) = true := by
    intro entries
    induction entries with
    | nil => exact fun _ => rfl
    | cons e entries ih =>
      intro hself
      rw [List.forall_mem_cons] at hself
      have he : (e == e) = true := by
        change (e.1 == e.1 && e.2 == e.2) = true
        rw [hself.1, BEq.rfl, Bool.and_self]
      rw [List.cons_beq_cons, he, ih hself.2, Bool.and_self]
  have hnodes : (g.nodes == g.nodes) = true := by
    refine hentries _ fun e he => Node.beq_self ?_
    exact (h e.1 e.2 (Table.get?_eq_some_iff.2 he)).beq_self
  simp only [sameContents, hnodes, BEq.rfl, Bool.and_self]

/-- **A call that was made has nothing left to do.** One that was refused is refused again. -/
theorem call_twice (g : Graph Float) {call : GraphCall Float} {report : Except GraphError Bool}
    (h : g.report? call = some report) (hcall : call.IsNumeric) :
    (g.call call).report? call = some (report.map fun _ => false) ∧
      (g.call call).call call = g.call call := by
  cases call with
  | upsertNode node =>
    cases h
    have htwice := g.upsertNode_twice (Node.beq_self hcall.beq_self)
    simp only [Graph.call, report?, htwice]
    exact ⟨rfl, trivial⟩
  | removeNode id =>
    cases h
    simp only [Graph.call, report?, g.removeNode_twice id]
    exact ⟨rfl, trivial⟩
  | upsertConnection c =>
    cases h
    have htwice : (g.call (.upsertConnection c)).upsertConnection c =
        if c.isSelfLoop then .error (.selfLoop c.id c.source)
        else .ok (g.call (.upsertConnection c), false) := g.upsertConnection_twice c
    generalize g.call (.upsertConnection c) = after at htwice ⊢
    by_cases hloop : c.isSelfLoop = true
    · have hrefused : g.upsertConnection c = .error (.selfLoop c.id c.source) := if_pos hloop
      simp only [report?, Graph.call, htwice, hrefused, if_pos hloop]
      exact ⟨rfl, trivial⟩
    · obtain ⟨result, hresult⟩ : ∃ result, g.upsertConnection c = .ok result := by
        rw [upsertConnection, if_neg hloop]
        split
        · exact ⟨_, rfl⟩
        · exact ⟨_, rfl⟩
      simp only [report?, Graph.call, htwice, hresult, if_neg hloop]
      exact ⟨rfl, trivial⟩
  | removeConnection id =>
    cases h
    simp only [Graph.call, report?, g.removeConnection_twice id]
    exact ⟨rfl, trivial⟩
  | patchNode id patch =>
    cases h
    have htwice := g.patchNode_twice id fun p hp => (hcall p hp).beq_self
    simp only [Graph.call, report?, htwice]
    exact ⟨rfl, trivial⟩
  | clear =>
    cases h
    simp only [Graph.call, report?, g.clear_twice]
    exact ⟨rfl, trivial⟩
  | replaceAll | markLocalNode | markLocalConnection => cases h

/-! ## The main result -/

/-- **Reports of changes are exact, and repetitions change nothing.** Let no coordinate on the graph
or in the call be NaN. A call reports a change if and only if the nodes, the connections or the marks
differ afterwards, and if and only if the revision has grown, which is by one then. Otherwise the
graph is the very same. Made once more, the call reports no change, or is refused for the same
reason, and leaves the graph as the first one left it. -/
theorem change_reports_are_exact {g : Graph Float} {call : GraphCall Float}
    {report : Except GraphError Bool} (h : g.report? call = some report) (hgraph : g.IsNumeric)
    (hcall : call.IsNumeric) :
    (report = .ok true ↔ g.sameContents (g.call call) = false) ∧
      (report = .ok true ↔ g.revision < (g.call call).revision) ∧
      (report = .ok true → (g.call call).revision = g.revision + 1) ∧
      (report ≠ .ok true → g.call call = g) ∧
      (g.call call).report? call = some (report.map fun _ => false) ∧
      (g.call call).call call = g.call call := by
  have hself := hgraph.sameContents_self
  obtain ⟨hreport, hagain⟩ := g.call_twice h hcall
  have houtcome := g.outcome_call h
  generalize g.call call = after at houtcome hreport hagain ⊢
  cases houtcome with
  | refused error => simp [hself, hreport, hagain]
  | unchanged => simp [hself, hreport, hagain]
  | changed revision contents => simp [revision, contents, hreport, hagain]

/-- A new type for a node, and its old position with a zero of the other sign. -/
def retyping : GraphCall Float := .patchNode "a" { type := some "sum", position := some ⟨-0.0, 0.0⟩ }

theorem change_reports_are_exact_retyped :
    (ofCalls loadCalls).report? retyping = some (.ok true) ∧ (ofCalls loadCalls).IsNumeric ∧
      retyping.IsNumeric ∧
      (ofCalls loadCalls).sameContents ((ofCalls loadCalls).call retyping) = false ∧
      ((ofCalls loadCalls).call retyping).revision = (ofCalls loadCalls).revision + 1 ∧
      ((ofCalls loadCalls).call retyping).report? retyping = some (.ok false) := by
  have hreport : (ofCalls loadCalls).report? retyping = some (.ok true) := rfl
  have horigin : (Position.origin : Position Float).IsNumeric :=
    ⟨by decide +kernel, by decide +kernel⟩
  have hgraph : (ofCalls loadCalls).IsNumeric := by
    intro id node hnode
    have hentries : (ofCalls loadCalls).nodes.entries =
        [("a", .fresh "a" "new" .origin), ("b", .fresh "b" "sum" .origin)] := rfl
    rw [Table.get?_eq_some_iff, hentries] at hnode
    simp only [List.mem_cons, Prod.mk.injEq, List.not_mem_nil, or_false] at hnode
    obtain ⟨-, rfl⟩ | ⟨-, rfl⟩ := hnode
    · exact horigin
    · exact horigin
  have hcall : retyping.IsNumeric := by
    intro p hp
    cases hp
    exact ⟨by decide +kernel, by decide +kernel⟩
  obtain ⟨hcontents, -, hrevision, -, hagain, -⟩ := change_reports_are_exact hreport hgraph hcall
  exact ⟨hreport, hgraph, hcall, hcontents.1 rfl, hrevision rfl, hagain⟩

end Graph

end NodeCanvas
