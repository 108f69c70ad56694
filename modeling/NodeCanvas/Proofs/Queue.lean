import NodeCanvas.Proofs.Push
/-!
# What a queue leaves of a graph

The changes that a queue makes depend on how many clearings are owed: as many announcements of one
are only counted (`PushEvent.changesOwing`, `World.applyAll_owing`). If all the clearings of a queue
are owed, the rest of it is applied to the graph as it is. What is on the graph then is said entity
by entity: the nodes by `Graph.contains_settle_owing`, and of the connections those that no push
reaches by `Graph.connection_settle_owing`.
-/

namespace NodeCanvas

variable {R : Type} [Scalar R]

/-- The change does not reach a connection: it is not about the connection itself and does not drop
a node at one of its ends. -/
def GraphChange.Spares (ch : GraphChange R) (c : Connection) : Prop :=
  match ch with
  | .link d => d.id ≠ c.id
  | .unlink id => id ≠ c.id
  | .drop a => c.touches a = false
  | _ => True

namespace PushEvent

/-- The change that a push makes to a graph when so many clearings are owed: the announcement of one
of them makes none. -/
def changeOwing (owed : Nat) (push : PushEvent R) : List (GraphChange R) :=
  if push.isClear = true ∧ 0 < owed then [] else push.change?.toList

/-- The changes that pushes make one after the other; each clearing is one owed less. -/
def changesOwing : Nat → List (PushEvent R) → List (GraphChange R)
  | _, [] => []
  | owed, push :: pushes =>
    push.changeOwing owed ++ changesOwing (owed - if push.isClear then 1 else 0) pushes

variable {pushes : List (PushEvent R)} {owed : Nat}

omit [Scalar R] in
theorem changesOwing_append (owed : Nat) (first second : List (PushEvent R)) :
    changesOwing owed (first ++ second) =
      changesOwing owed first ++ changesOwing (owed - first.countP (·.isClear)) second := by
  induction first generalizing owed with
  | nil => rfl
  | cons push first ih =>
    have hcount : owed - (first.countP (·.isClear) + if push.isClear = true then 1 else 0) =
        (owed - if push.isClear = true then 1 else 0) - first.countP (·.isClear) := by
      omega
    rw [List.cons_append, changesOwing, changesOwing, List.countP_cons, ih, hcount,
      List.append_assoc]

omit [Scalar R] in
theorem changeOwing_of_not_isClear {push : PushEvent R} (h : push.isClear = false) (owed : Nat) :
    push.changeOwing owed = push.change?.toList :=
  if_neg fun hc => by rw [h] at hc; cases hc.1

omit [Scalar R] in
theorem change?_eq_put {p : PushEvent R} {node : Node R} :
    p.change? = some (.put node) ↔ p = .nodeAdded node := by
  cases p <;> simp [change?]

omit [Scalar R] in
theorem change?_eq_drop {p : PushEvent R} {node : NodeId} :
    p.change? = some (.drop node) ↔ p = .nodeRemoved node := by
  cases p <;> simp [change?]

/-- The pushes announce a node, and not that it was removed after that. -/
def Leaves (pushes : List (PushEvent R)) (id : NodeId) : Prop :=
  ∃ before node after, pushes = before ++ .nodeAdded node :: after ∧ node.id = id ∧
    .nodeRemoved id ∉ after

omit [Scalar R] in
theorem not_leaves_nil {id : NodeId} : ¬ Leaves ([] : List (PushEvent R)) id := by
  rintro ⟨before, node, after, heq, -⟩
  cases before <;> cases heq

omit [Scalar R] in
theorem leaves_cons {push : PushEvent R} {id : NodeId} :
    Leaves (push :: pushes) id ↔
      (∃ node, push = .nodeAdded node ∧ node.id = id ∧ .nodeRemoved id ∉ pushes) ∨
        Leaves pushes id := by
  constructor
  · rintro ⟨before, node, after, heq, hid, hkept⟩
    cases before with
    | nil =>
      cases heq
      exact .inl ⟨node, rfl, hid, hkept⟩
    | cons first before =>
      cases heq
      exact .inr ⟨before, node, after, rfl, hid, hkept⟩
  · rintro (⟨node, rfl, hid, hkept⟩ | ⟨before, node, after, rfl, hid, hkept⟩)
    · exact ⟨[], node, pushes, rfl, hid, hkept⟩
    · exact ⟨push :: before, node, after, rfl, hid, hkept⟩

end PushEvent

/-! ## What pushes leave on a graph -/

namespace Graph

open PushEvent

variable {pushes : List (PushEvent R)} {owed : Nat}

theorem contains_changeOwing (g : Graph R) {push : PushEvent R}
    (howed : push.isClear = true → 0 < owed) (id : NodeId) :
    (g.settle (push.changeOwing owed)).nodes.contains id = true ↔
      (∃ node, push = .nodeAdded node ∧ node.id = id) ∨
        g.nodes.contains id = true ∧ push ≠ .nodeRemoved id := by
  simp only [← change?_eq_put, ne_eq, ← change?_eq_drop]
  by_cases hclear : push.isClear = true
  · rw [changeOwing, if_pos ⟨hclear, howed hclear⟩, isClear_iff.1 hclear]
    simp
  · rw [changeOwing_of_not_isClear (Bool.eq_false_iff.2 hclear)]
    cases hchange : push.change? with
    | none => simp
    | some ch =>
      have hwipe : ch ≠ .wipe := by
        rintro rfl
        exact hclear (isClear_iff.2 hchange)
      simpa using g.contains_alter hwipe id

/-- **The nodes that pushes leave**, if all clearings among them are owed: those of the graph before
that are not removed, and those that are announced and not removed after that. -/
theorem contains_settle_owing (g : Graph R) (howed : pushes.countP (·.isClear) ≤ owed)
    (id : NodeId) :
    (g.settle (changesOwing owed pushes)).nodes.contains id = true ↔
      Leaves pushes id ∨ g.nodes.contains id = true ∧ .nodeRemoved id ∉ pushes := by
  induction pushes generalizing g owed with
  | nil => simp [changesOwing, not_leaves_nil]
  | cons push pushes ih =>
    rw [List.countP_cons] at howed
    rw [changesOwing, settle_append, ih _ (by omega),
      contains_changeOwing g (fun hclear => by rw [if_pos hclear] at howed; omega), leaves_cons,
      List.mem_cons, not_or]
    constructor
    · rintro (hlater | ⟨⟨node, hnode, hid⟩ | ⟨hstored, hkept⟩, hkept'⟩)
      · exact .inl (.inr hlater)
      · exact .inl (.inl ⟨node, hnode, hid, hkept'⟩)
      · exact .inr ⟨hstored, hkept.symm, hkept'⟩
    · rintro ((⟨node, hnode, hid, hkept'⟩ | hlater) | ⟨hstored, hkept, hkept'⟩)
      · exact .inr ⟨.inl ⟨node, hnode, hid⟩, hkept'⟩
      · exact .inl hlater
      · exact .inr ⟨.inr ⟨hstored, Ne.symm hkept⟩, hkept'⟩

theorem connection_alter {g : Graph R} (hk : g.Keyed) {c : Connection} {ch : GraphChange R}
    (hc : g.connections.get? c.id = some c) (hwipe : ch ≠ .wipe) (hspares : ch.Spares c) :
    (g.alter ch).connections.get? c.id = some c := by
  rw [connections_alter hk, hc]
  cases ch with
  | put node | patch node parts | merge node changes => rfl
  | link d => exact if_neg fun h => hspares h.2.symm
  | unlink id => exact if_neg (Ne.symm hspares)
  | drop a =>
    have htouches : c.touches a = false := hspares
    rw [GraphChange.onConnection]
    split <;> simp [htouches]
  | wipe => exact (hwipe rfl).elim

/-- **A connection that no push reaches stays**, if all clearings among them are owed. -/
theorem connection_settle_owing {g : Graph R} (hk : g.Keyed) {c : Connection}
    (hc : g.connections.get? c.id = some c) (howed : pushes.countP (·.isClear) ≤ owed)
    (hspares : ∀ p ∈ pushes, ∀ ch, p.change? = some ch → ch.Spares c) :
    (g.settle (changesOwing owed pushes)).connections.get? c.id = some c := by
  induction pushes generalizing g owed with
  | nil => exact hc
  | cons push pushes ih =>
    rw [List.countP_cons] at howed
    rw [changesOwing, settle_append]
    refine ih (hk.settle _) ?_ (by omega) fun p hp => hspares p (List.mem_cons_of_mem push hp)
    by_cases hclear : push.isClear = true
    · rw [if_pos hclear] at howed
      rwa [changeOwing, if_pos ⟨hclear, by omega⟩]
    · rw [changeOwing_of_not_isClear (Bool.eq_false_iff.2 hclear)]
      cases hchange : push.change? with
      | none => exact hc
      | some ch =>
        refine connection_alter hk hc ?_ (hspares push List.mem_cons_self ch hchange)
        rintro rfl
        exact hclear (isClear_iff.2 hchange)

end Graph

/-! ## Applying pushes -/

namespace Client

variable {m : Moment} {c : Canvas R}

/-- Outside of a restore, a push makes its change unless it is an owed clearing. -/
theorem applyChange_owing (p : PushEvent R) (hrestoring : c.saving.restoring = false) :
    c.Becomes (applyChange p m c).canvas
      (c.graph.settle (p.changeOwing c.saving.owedClears))
      (c.saving.owedClears - if p.isClear then 1 else 0) := by
  by_cases howed : p.isClear = true ∧ 0 < c.saving.owedClears
  · have hcleared : p = .canvasCleared := by
      cases p <;> first | rfl | cases howed.1
    subst hcleared
    rw [PushEvent.changeOwing, if_pos howed]
    exact applyChange_owed howed.2
  · have hcount : c.saving.owedClears - (if p.isClear = true then 1 else 0) =
        c.saving.owedClears := by
      split
      · have : ¬ 0 < c.saving.owedClears := fun h => howed ⟨‹_›, h⟩
        omega
      · omega
    rw [PushEvent.changeOwing, if_neg howed, hcount]
    refine applyChange_becomes p fun hwipe => ⟨?_, hrestoring⟩
    have : ¬ 0 < c.saving.owedClears := fun h => howed ⟨PushEvent.isClear_iff.2 hwipe, h⟩
    omega

end Client

namespace World

variable {w : LocalWorld R}

/-- **Applying pushes**: the first clearings are counted as long as some are owed. -/
theorem applyAll_owing (pushes : List (PushEvent R)) (hsafe : ∀ p ∈ pushes, p.Safe)
    (hrestoring : w.canvas.saving.restoring = false) :
    ∃ w', w.applyAll pushes = .ok w' ∧
      w.Becomes w'
        (w.canvas.graph.settle (PushEvent.changesOwing w.canvas.saving.owedClears pushes))
        (w.canvas.saving.owedClears - pushes.countP (·.isClear)) w.remote := by
  induction pushes generalizing w with
  | nil => exact ⟨w, rfl, ⟨rfl, rfl, rfl⟩, rfl⟩
  | cons p pushes ih =>
    obtain ⟨hgraph, howed, hkept⟩ :=
      Client.applyChange_owing (m := w.moment) (c := w.canvas) p hrestoring
    obtain ⟨w', hrun, ⟨hgraph', howed', hkept'⟩, hremote⟩ :=
      ih (w := w.after (Client.applyChange p w.moment w.canvas))
        (fun q hq => hsafe q (List.mem_cons_of_mem p hq)) (hkept.trans hrestoring)
    refine ⟨w', ?_, ⟨hgraph'.trans ?_, howed'.trans ?_, hkept'.trans hkept⟩, hremote⟩
    · rw [applyAll, exec_applyPush (hsafe p List.mem_cons_self)]
      exact hrun
    · change Graph.settle (Client.applyChange p w.moment w.canvas).canvas.graph
        (PushEvent.changesOwing (Client.applyChange p w.moment w.canvas).canvas.saving.owedClears
          pushes) = _
      rw [hgraph, howed, PushEvent.changesOwing, Graph.settle_append]
    · change (Client.applyChange p w.moment w.canvas).canvas.saving.owedClears - _ = _
      rw [howed, List.countP_cons]
      omega

end World

end NodeCanvas
