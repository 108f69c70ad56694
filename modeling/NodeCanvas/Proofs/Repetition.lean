import NodeCanvas.Proofs.Comparison
import NodeCanvas.Proofs.Push
import NodeCanvas.Proofs.Republish
/-!
# Pushes that arrive twice

A channel may deliver a push more than once. Every kind of push has a test of its own for whether it
changes something: a node that is put is compared with the one that is there, a patch with the parts
it replaces, a step with the last one of its log. Behind each of them is the same law, that a push
that was applied has nothing left to do (`Client.idle_applyChange`): applied once more, it leaves
the canvas as it is, schedules no save and tells nobody.

The outcomes of a run are the exception, as their variables are written again with new numbers;
there the canvas only reads as before (`Canvas.ReadsLike`). For the comparisons to succeed the
values must equal themselves, which is where floats need care: what is read from a payload is a
number (`PushEvent.comparable_of_decode?`), and a view has to be finite.
-/

namespace NodeCanvas

variable {R : Type} [Scalar R]

/-! ## Changes of the graph, made twice -/

namespace NodePatch

/-- A part is as it should be: nothing new is given for it, or what it equals. -/
def PartMet {α : Type} [BEq α] (old : α) (new : Option α) : Prop := ∀ a ∈ new, (old == a) = true

/-- A part that is met is left. -/
theorem replace_of_partMet {α : Type} [BEq α] {old : α} {new : Option α} (h : PartMet old new) :
    replace old new = (old, false) := by
  cases new with
  | none => rfl
  | some a => exact if_pos (h a rfl)

/-- What was replaced is met. -/
theorem partMet_replace {α : Type} [BEq α] (old : α) {new : Option α}
    (hself : ∀ a ∈ new, (a == a) = true) : PartMet (replace old new).1 new := by
  intro a ha
  cases Option.mem_def.1 ha
  rw [replace]
  split
  · assumption
  · exact hself a rfl

/-- All parts of a node are as a patch wants them. -/
structure Met (p : NodePatch R) (n : Node R) : Prop where
  type : PartMet n.type p.type
  position : PartMet n.position p.position
  parameters : PartMet n.parameters p.parameters
  metadata : PartMet n.metadata p.metadata
  inputs : PartMet n.inputs p.inputs
  outputs : PartMet n.outputs p.outputs

/-- A patch that is met changes nothing. -/
theorem apply_of_met {p : NodePatch R} {n : Node R} (h : p.Met n) : p.apply n = (n, false) := by
  unfold apply
  rw [replace_of_partMet h.type, replace_of_partMet h.position, replace_of_partMet h.parameters,
    replace_of_partMet h.metadata, replace_of_partMet h.inputs, replace_of_partMet h.outputs]
  rfl

/-- A patch whose position is a point is met by every node that it was applied to. -/
theorem met_apply {p : NodePatch R} (hposition : ∀ a ∈ p.position, (a == a) = true) (n : Node R) :
    p.Met (p.apply n).1 where
  type := partMet_replace n.type fun _ _ => BEq.rfl
  position := partMet_replace n.position hposition
  parameters := partMet_replace n.parameters fun _ _ => BEq.rfl
  metadata := partMet_replace n.metadata fun _ _ => BEq.rfl
  inputs := partMet_replace n.inputs fun _ _ => BEq.rfl
  outputs := partMet_replace n.outputs fun _ _ => BEq.rfl

end NodePatch

namespace Graph

variable (g : Graph R)

/-- A patch that the node meets changes nothing. -/
theorem patchNode_of_met {g : Graph R} {id : NodeId} {p : NodePatch R}
    (h : ∀ n, g.nodes.get? id = some n → p.Met n) : g.patchNode id p = (g, false) := by
  unfold patchNode
  cases hn : g.nodes.get? id with
  | none => rfl
  | some n =>
    dsimp only
    rw [NodePatch.apply_of_met (h n hn)]
    rfl

/-- A node is upserted once. -/
theorem upsertNode_twice {node : Node R} (hself : (node == node) = true) :
    (g.upsertNode node).1.upsertNode node = ((g.upsertNode node).1, false) := by
  have hstored : ((g.upsertNode node).1.nodes.get? node.id == some node) = true := by
    rw [nodes_upsertNode, if_pos rfl]
    split
    · assumption
    · exact hself
  rw [upsertNode, if_pos hstored]

omit [Scalar R] in
/-- A node is removed once. -/
theorem removeNode_twice (id : NodeId) :
    (g.removeNode id).1.removeNode id = ((g.removeNode id).1, none) := by
  have hgone : (g.removeNode id).1.nodes.get? id = none := by
    rw [nodes_removeNode, if_pos rfl]
  rw [removeNode, hgone]

omit [Scalar R] in
/-- A connection is removed once. -/
theorem removeConnection_twice (id : ConnectionId) :
    (g.removeConnection id).1.removeConnection id = ((g.removeConnection id).1, none) := by
  have hgone : (g.removeConnection id).1.connections.get? id = none := by
    rw [connections_removeConnection, if_pos rfl]
  rw [removeConnection, hgone]

omit [Scalar R] in
/-- A graph is cleared once. -/
theorem clear_twice : g.clear.1.clear = (g.clear.1, false) := by
  have hempty : (g.clear.1.isEmpty && g.clear.1.localNodes.isEmpty) = true := by
    unfold clear
    split
    · assumption
    · rfl
  rw [clear, if_pos hempty]

/-- A connection is upserted once, and a loop never. -/
theorem upsertConnection_twice (c : Connection) :
    (g.alter (.link c)).upsertConnection c =
      if c.isSelfLoop then .error (.selfLoop c.id c.source)
      else .ok (g.alter (.link c), false) := by
  unfold upsertConnection
  by_cases hloop : c.isSelfLoop = true
  · rw [if_pos hloop, if_pos hloop]
  · have hstored : (g.alter (.link c)).connections.get? c.id = some c := by
      rw [connections_link, if_pos ⟨Bool.not_eq_true _ ▸ hloop, rfl⟩]
    rw [if_neg hloop, if_neg hloop, if_pos hstored]

end Graph

/-! ## Sections with nothing to do -/

namespace Edit

variable {α : Type} {a : α}

omit [Scalar R]

variable {c : Canvas R} {m : Moment}

/-- The section does nothing to a canvas and tells nothing. -/
def Idle (edit : Edit R Unit) (c : Canvas R) : Prop := ∀ m, edit m c = ⟨(), c, []⟩

/-- Idle sections may follow each other. -/
theorem Idle.andThen {first second : Edit R Unit} (h : first.Idle c) (h' : second.Idle c) :
    Idle (do first; second) c := by
  intro m
  simp only [bind, h m, h' m]
  rfl

theorem apply_of_still {f : Canvas R → Canvas R × α} (h : f c = (c, a))
    (m : Moment) : apply f m c = ⟨a, c, []⟩ := by
  simp only [apply, h]

theorem onGraph_of_still {f : Graph R → Graph R × α}
    (h : f c.graph = (c.graph, a)) (m : Moment) : onGraph f m c = ⟨a, c, []⟩ := by
  simp only [onGraph, apply, h]

theorem onViewport_of_still {f : Viewport R → Viewport R × α}
    (h : f c.viewport = (c.viewport, a)) (m : Moment) : onViewport f m c = ⟨a, c, []⟩ := by
  simp only [onViewport, apply, h]

theorem bind_of_still {β : Type} {x : Edit R α} {k : α → Edit R β} {m : Moment}
    (h : x m c = ⟨a, c, []⟩) : (x >>= k) m c = k a m c := by
  simp only [bind, h]
  rfl

/-- Without a change nothing follows. -/
theorem idle_ifChanged {change : Edit R Bool} (h : ∀ m, change m c = ⟨false, c, []⟩) :
    (Client.ifChanged change).Idle c := by
  intro m
  simp only [Client.ifChanged, bind, h m]
  rfl

/-- Removing what is not there is idle. -/
theorem idle_removal {f : Graph R → Graph R × Option α} (h : f c.graph = (c.graph, none)) :
    (Client.ifChanged do return (← onGraph f).isSome).Idle c := by
  refine idle_ifChanged fun m => ?_
  simp only [bind, onGraph_of_still h m]
  rfl

/-- A change of the sessions that is none the second time. -/
theorem idle_sessionsChanged (change : Edit R Bool) {c' : Canvas R}
    (hcanvas : (change m c).canvas = c') (h : ∀ m', change m' c' = ⟨false, c', []⟩) :
    Idle (do sessionsChanged (← change))
      (Outcome.canvas ((do sessionsChanged (← change) : Edit R Unit) m c)) := by
  intro m'
  have hfirst : Outcome.canvas ((do sessionsChanged (← change) : Edit R Unit) m c) = c' :=
    (canvas_sessionsChanged _ m _).trans hcanvas
  rw [hfirst]
  simp only [bind, h m']
  rfl

/-- An overlay that stays is idle. -/
theorem idle_onOverlay {f : Overlay R → Overlay R} (h : f c.overlay = c.overlay) :
    (onOverlay f).Idle c := by
  intro m
  simp only [onOverlay, modify, h]

/-- A patch that is met is idle. -/
theorem idle_patchNode [Scalar R] {id : NodeId} {p : NodePatch R}
    (h : ∀ n, c.graph.nodes.get? id = some n → p.Met n) : (patchNode id p).Idle c :=
  idle_ifChanged (onGraph_of_still (Graph.patchNode_of_met h))

/-- A section that touches at most what is known about saving. -/
def Saves {α : Type} (edit : Edit R α) : Prop :=
  ∀ m c, ∃ saving, (edit m c).canvas = { c with saving }

theorem saves_of_canvas {edit : Edit R α} (h : ∀ m c, (edit m c).canvas = c) :
    edit.Saves := fun m c => ⟨c.saving, h m c⟩

/-- Sections about saving may follow each other. -/
theorem Saves.bind {β : Type} {edit : Edit R α} {next : α → Edit R β} (h : edit.Saves)
    (hnext : ∀ a, (next a).Saves) : (edit >>= next).Saves := by
  intro m c
  obtain ⟨saving, hcanvas⟩ := h m c
  obtain ⟨saving', hcanvas'⟩ := hnext (edit m c).value m (edit m c).canvas
  exact ⟨saving', hcanvas'.trans (by rw [hcanvas])⟩

theorem saves_onSaving (f : Saving → Saving) : (onSaving f : Edit R Unit).Saves :=
  fun _ _ => ⟨_, rfl⟩

theorem saves_setSaveStatus (status : SaveStatus) : (setSaveStatus status : Edit R Unit).Saves := by
  refine .bind (saves_of_canvas fun _ _ => rfl) fun current => ?_
  split
  · exact saves_of_canvas fun _ _ => rfl
  · exact .bind (saves_onSaving _) fun _ => saves_of_canvas fun _ _ => rfl

/-- Marking the canvas is about saving only. -/
theorem saves_markDirty : (markDirty : Edit R Unit).Saves := by
  refine .bind (saves_of_canvas fun _ _ => rfl) fun restoring => ?_
  split
  · exact saves_of_canvas fun _ _ => rfl
  · exact .bind (saves_of_canvas fun _ _ => rfl) fun _ => .bind (saves_onSaving _) fun _ =>
      saves_setSaveStatus _

/-- So is what follows a change. -/
theorem saves_ifChanged {rest : Edit R Unit} (h : rest.Saves) (changed : Bool) :
    Saves (if changed then do markDirty; rest else pure () : Edit R Unit) := by
  split
  · exact .bind saves_markDirty fun _ => h
  · exact saves_of_canvas fun _ _ => rfl

/-- What follows a change of the graph is about saving only. -/
theorem canvas_ifChanged (change : Edit R Bool) (m : Moment) (c : Canvas R) :
    ∃ saving, (Client.ifChanged change m c).canvas = { (change m c).canvas with saving } :=
  saves_ifChanged (saves_of_canvas fun _ _ => rfl) (change m c).value m (change m c).canvas

end Edit

/-! ## Other parts of the canvas -/

omit [Scalar R] in
theorem Overlay.clearNode_twice (o : Overlay R) (node : NodeId) :
    (o.clearNode node).clearNode node = o.clearNode node := by
  have herase : (o.highlights.erase node).erase node = o.highlights.erase node := by
    refine Table.ext_get? fun k => ?_
    rw [Table.get?_erase, Table.get?_erase]
    split <;> rfl
  unfold clearNode releaseCurrent
  by_cases hcurrent : o.currentNode = some node
  · simp [hcurrent, herase]
  · simp [hcurrent, herase]

/-- A view of finite numbers. -/
def View.IsFinite (v : View Float) : Prop :=
  v.zoom.isFinite = true ∧ v.panX.isFinite = true ∧ v.panY.isFinite = true

theorem View.beq_self {v : View Float} (hzoom : v.zoom.isNaN = false) (hx : v.panX.isNaN = false)
    (hy : v.panY.isNaN = false) : (v == v) = true := by
  obtain ⟨zoom, panX, panY⟩ := v
  change (zoom == zoom && (panX == panX && panY == panY)) = true
  rw [float_beq_self hzoom, float_beq_self hx, float_beq_self hy]
  rfl

theorem not_isNaN_clampZoom {z : Float} (h : z.isNaN = false) : (clampZoom z).isNaN = false := by
  unfold clampZoom Scalar.clamp
  split
  · decide +kernel
  · split
    · decide +kernel
    · exact h

/-- A view with what an update has for it. -/
def ViewUpdate.onto (update : ViewUpdate R) (view : View R) : View R where
  zoom := match update.zoom with
    | some z => if Scalar.isFinite z ∧ (0.0 : R) < z then clampZoom z else view.zoom
    | none => view.zoom
  panX := match update.panX with
    | some x => if Scalar.isFinite x then x else view.panX
    | none => view.panX
  panY := match update.panY with
    | some y => if Scalar.isFinite y then y else view.panY
    | none => view.panY

theorem Viewport.applyUpdate_eq (v : Viewport R) (update : ViewUpdate R) :
    v.applyUpdate update =
      ({ v with view := update.onto v.view }, update.onto v.view != v.view) := rfl

/-- An update is taken over once. -/
theorem ViewUpdate.onto_onto (update : ViewUpdate R) (view : View R) :
    update.onto (update.onto view) = update.onto view := by
  obtain ⟨zoom, panX, panY⟩ := update
  unfold onto
  congr 1
  · cases zoom with
    | none => rfl
    | some z => dsimp only; split <;> rfl
  · cases panX with
    | none => rfl
    | some x => dsimp only; split <;> rfl
  · cases panY with
    | none => rfl
    | some y => dsimp only; split <;> rfl

/-- A finite view equals itself after an update. -/
theorem ViewUpdate.onto_beq_self (update : ViewUpdate Float) {view : View Float}
    (h : view.IsFinite) : (update.onto view == update.onto view) = true := by
  obtain ⟨hzoom, hx, hy⟩ := h
  obtain ⟨zoom, panX, panY⟩ := update
  refine View.beq_self ?_ ?_ ?_
  · cases zoom with
    | none => exact isNaN_of_isFinite hzoom
    | some z =>
      unfold onto
      dsimp only
      split
      · rename_i hz
        exact not_isNaN_clampZoom (isNaN_of_isFinite hz.1)
      · exact isNaN_of_isFinite hzoom
  · cases panX with
    | none => exact isNaN_of_isFinite hx
    | some x =>
      unfold onto
      dsimp only
      split
      · exact isNaN_of_isFinite ‹_›
      · exact isNaN_of_isFinite hx
  · cases panY with
    | none => exact isNaN_of_isFinite hy
    | some y =>
      unfold onto
      dsimp only
      split
      · exact isNaN_of_isFinite ‹_›
      · exact isNaN_of_isFinite hy

/-- A viewport is updated once. -/
theorem Viewport.applyUpdate_twice {v : Viewport Float} (h : v.view.IsFinite)
    (update : ViewUpdate Float) :
    (v.applyUpdate update).1.applyUpdate update = ((v.applyUpdate update).1, false) := by
  rw [applyUpdate_eq, applyUpdate_eq]
  dsimp only
  rw [update.onto_onto, bne, update.onto_beq_self h]
  rfl

theorem DebugSessions.setState_twice (d : DebugSessions) (id : SessionId) (state : SessionState) :
    (d.setState id state).1.setState id state = ((d.setState id state).1, false) :=
  setState_of_state (state_setState d id state)

/-- A step is recorded once. -/
theorem DebugSessions.recordStep_twice (d : DebugSessions) (id : SessionId) (result : StepResult) :
    (d.recordStep id result).1.recordStep id result = ((d.recordStep id result).1, false) := by
  cases hsession : d.session? id with
  | none => simp only [recordStep, hsession]
  | some session =>
    by_cases hlast : session.steps.getLast?.any (·.isResult result) = true
    · simp only [recordStep, hsession, if_pos hlast]
    · have hself : ∀ i,
          (StepRecord.mk i result.node result.status result.result).isResult result = true := by
        intro i
        simp [StepRecord.isResult]
      have hadded : (session.addStep result).steps.getLast?.any (·.isResult result) = true := by
        simp [DebugSession.addStep, hself]
      simp only [recordStep, hsession, if_neg hlast]
      rw [session?, Table.get?_insert_self]
      exact if_pos hadded

omit [Scalar R] in
/-- A step is applied once. -/
theorem Canvas.applyDebugStep_twice (c : Canvas R) (id : SessionId) (result : StepResult)
    (now now' : Instant) :
    (c.applyDebugStep id result now).1.applyDebugStep id result now' =
      ((c.applyDebugStep id result now).1, false) := by
  have htwice := c.debug.recordStep_twice id result
  unfold applyDebugStep
  cases hrecord : c.debug.recordStep id result with
  | mk debug changed =>
    rw [hrecord] at htwice
    cases changed with
    | false => simp only [hrecord]
    | true => simp only [htwice]

omit [Scalar R] in
/-- A session is removed once. -/
theorem Canvas.removeDebugSession_twice (c : Canvas R) (id : SessionId) :
    (c.removeDebugSession id).1.removeDebugSession id = ((c.removeDebugSession id).1, false) := by
  unfold removeDebugSession DebugSessions.remove
  cases hsession : c.debug.session? id with
  | none => simp only [hsession]
  | some session =>
    have hgone : DebugSessions.session? { c.debug with sessions := c.debug.sessions.erase id } id =
        none := (Table.get?_erase ..).trans (if_pos rfl)
    simp only [hgone]

/-! ## What pushes announce -/

theorem Position.beq_self {p : Position Float} (hx : p.x.isNaN = false) (hy : p.y.isNaN = false) :
    (p == p) = true := by
  change (p.x == p.x && p.y == p.y) = true
  rw [float_beq_self hx, float_beq_self hy]
  rfl

/-- Coordinates that are read are numbers. -/
theorem Import.not_isNaN_coordinate (value : Option Json) :
    (coordinate value : Float).isNaN = false := by
  change (((value >>= Json.float?).getD 0.0 : Float)).isNaN = false
  cases hx : value >>= Json.float? with
  | none => decide +kernel
  | some x =>
    obtain ⟨json, -, hjson⟩ := Option.bind_eq_some_iff.1 hx
    cases json with
    | number n =>
      cases hjson
      exact Json.not_isNaN_toFloat n
    | null | bool _ | string _ | array _ | object _ => cases hjson

theorem Import.position_beq_self (value : Option Json) :
    ((position value : Position Float) == position value) = true := by
  unfold position
  split
  · exact Position.beq_self (not_isNaN_coordinate _) (not_isNaN_coordinate _)
  · exact Position.beq_self (not_isNaN_coordinate _) (not_isNaN_coordinate _)
  · decide +kernel

theorem Node.beq_self {n : Node R} (h : (n.position == n.position) = true) : (n == n) = true := by
  obtain ⟨id, type, position, parameters, metadata, inputs, outputs⟩ := n
  change (id == id && (type == type && (position == position && (parameters == parameters &&
    (metadata == metadata && (inputs == inputs && outputs == outputs)))))) = true
  rw [h]
  simp only [BEq.rfl, Bool.and_self]

/-- A node that is read equals itself. -/
theorem Import.beq_self_of_node {value : Json} {key : Option String} {ids : IdSource}
    {n : Node Float} (h : ((node value key).run ids).1 = some n) : (n == n) = true := by
  cases value with
  | object fields =>
    cases h
    exact Node.beq_self (position_beq_self (fields.lookup "position"))
  | null | bool _ | number _ | string _ | array _ => cases h

/-- The entity that a push announces compares as equal to itself. -/
def PushEvent.Comparable : PushEvent R → Prop
  | .nodeAdded node => (node == node) = true
  | .nodeMoved _ position => (position == position) = true
  | _ => True

namespace PushEvent

theorem comparable_of_decodeOther? {name : String} {payload : Json} {push : PushEvent Float}
    (h : decodeOther? name payload = some push) : push.Comparable := by
  unfold decodeOther? at h
  split at h
  case h_2 =>
    obtain ⟨node, -, h⟩ := Option.bind_eq_some_iff.1 h
    obtain ⟨position, -, h⟩ := Option.bind_eq_some_iff.1 h
    cases h
    exact Import.position_beq_self (some position)
  all_goals first
    | (obtain ⟨_, -, rfl⟩ := Option.map_eq_some_iff.1 h; exact trivial)
    | (cases h; done)
    | (cases h; exact trivial)

/-- **What is decoded can be compared.** -/
theorem comparable_of_decode? {name : String} {payload : Json} {ids : IdSource}
    {push : PushEvent Float} (h : ((decode? name payload).run ids).1 = some push) :
    push.Comparable := by
  unfold decode? at h
  split at h
  · unfold decodeNodeAdded? at h
    dsimp only at h
    split at h
    · cases h
    · obtain ⟨node, hnode, rfl⟩ := Option.map_eq_some_iff.1 h
      exact Import.beq_self_of_node hnode
  · unfold decodeConnectionAdded? at h
    dsimp only at h
    split at h
    · cases h
    · obtain ⟨connection, -, rfl⟩ := Option.map_eq_some_iff.1 h
      exact trivial
  · exact comparable_of_decodeOther? h

end PushEvent

/-! ## Pushes, applied twice -/

/-- The parameters that a change set asks for: those given, with the other fields merged in. -/
theorem Client.parameters_patchOfChanges (changes : Table Json) :
    ∃ (given : Option Parameters) (loose : Table Json), ∀ n' : Node R,
      (Client.patchOfChanges n' changes).parameters =
        if loose.isEmpty then given else some (Bag.mergedWith (given.getD n'.parameters) loose) :=
  ⟨_, _, fun _ => rfl⟩

/-- What a change set asks for a second time is met. -/
theorem met_patchOfChanges (n : Node R) (changes : Table Json)
    (hposition : ∀ value, ((Import.position value : Position R) == Import.position value) = true) :
    (Client.patchOfChanges ((Client.patchOfChanges n changes).apply n).1 changes).Met
      ((Client.patchOfChanges n changes).apply n).1 := by
  have hmet := NodePatch.met_apply (p := Client.patchOfChanges n changes) (by
    intro position hmem
    obtain ⟨value, -, rfl⟩ := Option.map_eq_some_iff.1 hmem
    exact hposition _) n
  refine ⟨hmet.type, hmet.position, ?_, hmet.metadata, hmet.inputs, hmet.outputs⟩
  obtain ⟨given, loose, hparameters⟩ := Client.parameters_patchOfChanges (R := R) changes
  have hmet := hmet.parameters
  rw [hparameters] at hmet ⊢
  by_cases hloose : loose.isEmpty = true
  · rwa [if_pos hloose] at hmet ⊢
  · rw [if_neg hloose] at hmet ⊢
    cases given with
    | some p => exact hmet
    | none =>
      -- Merged parameters have the fields already; those kept equal the merged ones.
      have hkept : ((Client.patchOfChanges n changes).apply n).1.parameters =
          (NodePatch.replace n.parameters (Client.patchOfChanges n changes).parameters).1 := rfl
      rw [hparameters, if_neg hloose, NodePatch.replace] at hkept
      split at hkept
      · rw [hkept] at hmet ⊢
        exact hmet
      · rw [hkept]
        intro a ha
        cases Option.mem_def.1 ha
        simp only [Option.getD_none, LaidBag.mergedWith_mergedWith]
        exact BEq.rfl

namespace Client

open Edit

variable {m : Moment}

/-- A push makes its change, unless it is a clearing that is owed. -/
theorem graph_applyChange {p : PushEvent R} {ch : GraphChange R} {c : Canvas R}
    (hchange : p.change? = some ch)
    (hwipe : ch = .wipe → c.saving.owedClears = 0 ∧ c.saving.restoring = false) :
    (applyChange p m c).canvas.graph = c.graph.alter ch := by
  have hbecomes := applyChange_becomes (m := m) (c := c) p
    fun heq => hwipe (Option.some.inj (hchange.symm.trans heq))
  rw [hbecomes.graph, hchange]
  rfl

/-- After a patch the node is there exactly if it was, patched. -/
theorem get?_patched {push : PushEvent R} {id : NodeId} {p : NodePatch R}
    {c : Canvas R} (hchange : push.change? = some (.patch id p)) {n : Node R}
    (hn : (applyChange push m c).canvas.graph.nodes.get? id = some n) :
    ∃ n₀, n = (p.apply n₀).1 := by
  rw [graph_applyChange hchange (by simp), Graph.alter, Graph.nodes_patchNode, if_pos rfl] at hn
  obtain ⟨n₀, -, rfl⟩ := Option.map_eq_some_iff.1 hn
  exact ⟨n₀, rfl⟩

/-- A patch that was applied is met. -/
theorem idle_patched {push : PushEvent R} {id : NodeId} {p : NodePatch R}
    (hchange : push.change? = some (.patch id p))
    (hposition : ∀ a ∈ p.position, (a == a) = true) (m : Moment) (c : Canvas R) :
    (Edit.patchNode id p).Idle (applyChange push m c).canvas := by
  refine idle_patchNode fun n hn => ?_
  obtain ⟨n₀, rfl⟩ := get?_patched hchange hn
  exact NodePatch.met_apply hposition n₀

theorem applyUpdated_eq (node : NodeId) (changes : Table Json) (m : Moment) (c : Canvas R) :
    applyChange (.nodeUpdated node changes) m c =
      match c.graph.nodes.get? node with
      | some found => Edit.patchNode node (patchOfChanges found changes) m c
      | none => ⟨(), c, []⟩ := by
  simp only [applyChange, bind, Edit.read, Graph.node?]
  cases c.graph.nodes.get? node <;> rfl

/-- A change set that was merged is met. -/
theorem idle_merged {node : NodeId} {changes : Table Json} {c : Canvas R}
    (hposition : ∀ value, ((Import.position value : Position R) == Import.position value) = true) :
    (applyChange (.nodeUpdated node changes)).Idle
      (applyChange (.nodeUpdated node changes) m c).canvas := by
  have hgraph : (applyChange (.nodeUpdated node changes) m c).canvas.graph =
      c.graph.alter (.merge node changes) := graph_applyChange rfl (by simp)
  intro m'
  rw [applyUpdated_eq node changes m', hgraph, Graph.alter]
  cases hn : c.graph.nodes.get? node with
  | none => simp only [hn]
  | some n =>
    dsimp only
    have hn' : (c.graph.patchNode node (patchOfChanges n changes)).1.nodes.get? node =
        some ((patchOfChanges n changes).apply n).1 := by
      rw [Graph.nodes_patchNode, if_pos rfl, hn]
      rfl
    rw [hn']
    refine idle_patchNode (fun n' hstored => ?_) m'
    rw [hgraph, Graph.alter, hn] at hstored
    cases hn'.symm.trans hstored
    exact met_patchOfChanges n changes hposition

omit [Scalar R] in
theorem applyCleared_eq {c : Canvas R} (howed : c.saving.owedClears = 0)
    (hrestoring : c.saving.restoring = false) :
    applyCleared m c = (do
      Edit.onOverlay (·.reset)
      ifChanged (Edit.onGraph (·.clear)) : Edit R Unit) m c := by
  simp only [applyCleared, bind, Edit.read, howed, hrestoring]
  rfl

/-- A second clearing is idle. -/
theorem idle_cleared {c : Canvas R} (howed : c.saving.owedClears = 0) :
    (applyCleared : Edit R Unit).Idle (applyCleared m c).canvas := by
  cases hrestoring : c.saving.restoring with
  | true =>
    have hnothing : ∀ m, applyCleared m c = ⟨(), c, []⟩ :=
      fun m => applyChange_restoring howed hrestoring
    rw [hnothing m]
    exact hnothing
  | false =>
    obtain ⟨hgraph, howed', hrestoring'⟩ := applyChange_becomes (m := m) (c := c) .canvasCleared
      fun _ => ⟨howed, hrestoring⟩
    change (applyCleared m c).canvas.saving.owedClears = _ at howed'
    obtain ⟨saving, hcanvas⟩ := canvas_ifChanged (Edit.onGraph (·.clear)) m
      { c with overlay := c.overlay.reset }
    intro m'
    rw [applyCleared_eq (howed'.trans howed) (hrestoring'.trans hrestoring)]
    refine Idle.andThen (idle_onOverlay ?_) (idle_ifChanged (onGraph_of_still ?_)) m'
    · rw [applyCleared_eq howed hrestoring]
      exact congrArg (fun c => Overlay.reset (Canvas.overlay c) = Canvas.overlay c) hcanvas ▸ rfl
    · have hclear : (applyCleared m c).canvas.graph = c.graph.clear.1 :=
        graph_applyChange (p := .canvasCleared) rfl fun _ => ⟨howed, hrestoring⟩
      rw [hclear]
      exact c.graph.clear_twice

/-- What follows a change of the view is about saving only. -/
theorem canvas_viewportChanged (update : ViewUpdate R) (m : Moment) (c : Canvas R) :
    ∃ saving, (applyChange (.viewportChanged update) m c).canvas =
      { c with viewport := (c.viewport.applyUpdate update).1, saving } :=
  saves_ifChanged (saves_of_canvas fun _ _ => rfl) (c.viewport.applyUpdate update).2 m
    { c with viewport := (c.viewport.applyUpdate update).1 }

/-- A second update of the view is idle. -/
theorem idle_viewportChanged {update : ViewUpdate Float} {c : Canvas Float}
    (hview : c.viewport.view.IsFinite) :
    (applyChange (.viewportChanged update)).Idle
      (applyChange (.viewportChanged update) m c).canvas := by
  obtain ⟨saving, hcanvas⟩ := canvas_viewportChanged update m c
  have hviewport : (applyChange (.viewportChanged update) m c).canvas.viewport =
      (c.viewport.applyUpdate update).1 := congrArg Canvas.viewport hcanvas
  intro m'
  have hread : Edit.onViewport (·.applyUpdate update) m'
      (applyChange (.viewportChanged update) m c).canvas =
        ⟨false, (applyChange (.viewportChanged update) m c).canvas, []⟩ := by
    refine onViewport_of_still ?_ m'
    rw [hviewport]
    exact Viewport.applyUpdate_twice hview update
  exact (bind_of_still hread).trans rfl

theorem applyParadigm_eq (paradigm : String) (m : Moment) (c : Canvas R) :
    applyChange (.paradigmChanged paradigm) m c =
      if c.paradigm = some paradigm then ⟨(), c, []⟩
      else ⟨(), { c with paradigm := some paradigm }, [.paradigmChanged paradigm]⟩ := by
  change (if c.paradigm != some paradigm then _ else _ : Edit R Unit) m c = _
  by_cases hc : c.paradigm = some paradigm
  · rw [if_pos hc, if_neg (by simp [hc])]
    rfl
  · rw [if_neg hc, if_pos (bne_iff_ne.2 hc)]
    rfl

/-- A second switch is idle. -/
theorem idle_paradigmChanged {paradigm : String} {c : Canvas R} :
    (applyChange (.paradigmChanged paradigm)).Idle
      (applyChange (.paradigmChanged paradigm) m c).canvas := by
  intro m'
  rw [applyParadigm_eq paradigm m', if_pos]
  rw [applyParadigm_eq]
  split
  · assumption
  · rfl

/-- **A push that was applied has nothing left to do.** -/
theorem idle_applyChange {push : PushEvent Float} {c : Canvas Float} (hpush : push.Comparable)
    (hview : c.viewport.view.IsFinite)
    (howed : push = .canvasCleared → c.saving.owedClears = 0)
    (hrun : ∀ results, push ≠ .allSessionsCompleted results) (m : Moment) :
    (applyChange push).Idle (applyChange push m c).canvas := by
  cases push with
  | nodeAdded node =>
    refine idle_ifChanged (onGraph_of_still ?_)
    rw [graph_applyChange rfl (by simp)]
    exact Graph.upsertNode_twice c.graph hpush
  | nodeRemoved node =>
    obtain ⟨saving, hcanvas⟩ := canvas_ifChanged
      (do return (← Edit.onGraph (·.removeNode node)).isSome) m
      { c with overlay := c.overlay.clearNode node }
    refine .andThen (idle_onOverlay ?_) (idle_removal ?_)
    · have hoverlay : (applyChange (.nodeRemoved node) m c).canvas.overlay =
          c.overlay.clearNode node := congrArg Canvas.overlay hcanvas
      rw [hoverlay]
      exact c.overlay.clearNode_twice node
    · rw [graph_applyChange rfl (by simp)]
      exact c.graph.removeNode_twice node
  | nodeMoved node position =>
    exact idle_patched rfl (fun a ha => by cases ha; exact hpush) m c
  | nodeUpdated node changes => exact idle_merged Import.position_beq_self
  | nodeParametersUpdated node parameters => exact idle_patched rfl (fun a ha => by cases ha) m c
  | nodeMetadataUpdated node metadata => exact idle_patched rfl (fun a ha => by cases ha) m c
  | nodePortsUpdated node inputs outputs => exact idle_patched rfl (fun a ha => by cases ha) m c
  | connectionAdded connection =>
    refine idle_ifChanged (onGraph_of_still ?_)
    rw [graph_applyChange rfl (by simp), Graph.upsertConnection_twice]
    by_cases hloop : connection.isSelfLoop = true
    · rw [if_pos hloop]
    · rw [if_neg hloop]
  | connectionRemoved connection =>
    refine idle_removal ?_
    rw [graph_applyChange rfl (by simp)]
    exact c.graph.removeConnection_twice connection
  | canvasCleared => exact idle_cleared (howed rfl)
  | viewportChanged update => exact idle_viewportChanged hview
  | paradigmChanged paradigm => exact idle_paradigmChanged
  | execution event => exact fun _ => rfl
  | debugSessionStarted session state =>
    refine idle_sessionsChanged (Edit.onDebug (·.setState session state)) rfl fun m' => ?_
    simp only [Edit.onDebug, Edit.apply, DebugSessions.setState_twice]
  | debugStepExecuted session result =>
    exact idle_sessionsChanged
      (do
        let now ← Edit.now
        Edit.apply (·.applyDebugStep session result now)) rfl
      fun m' => by
        change Edit.apply (·.applyDebugStep session result m'.now) m'
          (c.applyDebugStep session result m.now).1 = _
        exact apply_of_still (c.applyDebugStep_twice session result m.now m'.now) m'
  | debugSessionStopped session =>
    exact idle_sessionsChanged (Edit.apply (·.removeDebugSession session)) rfl
      fun m' => apply_of_still (c.removeDebugSession_twice session) m'
  | allSessionsCompleted results => exact (hrun results rfl).elim

end Client

/-- The second canvas reads like the first: all its parts are the same, but for the numbers of the
writes to the shared namespace. -/
structure Canvas.ReadsLike (c c' : Canvas R) : Prop where
  graph : c'.graph = c.graph
  viewport : c'.viewport = c.viewport
  saving : c'.saving = c.saving
  overlay : c'.overlay = c.overlay
  paradigm : c'.paradigm = c.paradigm
  sessions : c'.debug.sessions = c.debug.sessions
  shared : c.debug.shared.ReadsLike c'.debug.shared

omit [Scalar R] in
theorem Canvas.ReadsLike.refl (c : Canvas R) : c.ReadsLike c :=
  ⟨rfl, rfl, rfl, rfl, rfl, rfl, .refl _⟩

namespace Client

theorem applyRunAll_twice (results : Table Json) (m m' : Moment) (c : Canvas R) :
    (applyChange (.allSessionsCompleted results) m c).canvas.ReadsLike
        (applyChange (.allSessionsCompleted results) m'
          (applyChange (.allSessionsCompleted results) m c).canvas).canvas ∧
      (applyChange (.allSessionsCompleted results) m'
        (applyChange (.allSessionsCompleted results) m c).canvas).events = [] := by
  have hcanvas : ∀ m (c : Canvas R), (applyChange (.allSessionsCompleted results) m c).canvas =
      { c with debug := (c.debug.applyRunAll results).1 } :=
    fun m c => Edit.canvas_sessionsChanged (c.debug.applyRunAll results).2 m _
  obtain ⟨hunchanged, hsessions, hshared⟩ := c.debug.applyRunAll_twice results
  rw [hcanvas m c]
  constructor
  · rw [hcanvas]
    exact ⟨rfl, rfl, rfl, rfl, rfl, hsessions, hshared⟩
  · change Outcome.events
      (Edit.sessionsChanged ((c.debug.applyRunAll results).1.applyRunAll results).2 m' _) = _
    rw [hunchanged]
    rfl

/-- **A push, applied once more, changes nothing that can be read and tells nobody.** -/
theorem applyChange_twice {push : PushEvent Float} {c : Canvas Float} (hpush : push.Comparable)
    (hview : c.viewport.view.IsFinite)
    (howed : push = .canvasCleared → c.saving.owedClears = 0) (m m' : Moment) :
    (applyChange push m c).canvas.ReadsLike
        (applyChange push m' (applyChange push m c).canvas).canvas ∧
      (applyChange push m' (applyChange push m c).canvas).events = [] := by
  by_cases hrun : ∃ results, push = .allSessionsCompleted results
  · obtain ⟨results, rfl⟩ := hrun
    exact applyRunAll_twice results m m' c
  · rw [idle_applyChange hpush hview howed (fun results h => hrun ⟨results, h⟩) m m']
    exact ⟨.refl _, rfl⟩

end Client

/-- **Applying a push is idempotent.** A push that is delivered a second time leaves the canvas as
the first delivery left it, whatever time has passed, and no event is announced. Two kinds of pushes
are counted instead: an execution event is one more event of the log, and a clearing that a restore
is owed is one owed clearing less. -/
theorem World.applyPush_twice (w : LocalWorld Float) (name : String) (payload : Json)
    (ids : IdSource) {push : PushEvent Float}
    (hdecoded : ((PushEvent.decode? name payload).run ids).1 = some push)
    (hfinite : w.canvas.viewport.view.IsFinite) (hexecution : ∀ event, push ≠ .execution event)
    (howed : push = .canvasCleared → w.canvas.saving.owedClears = 0) (later : Moment) :
    ∃ w₁ w₂, w.exec (Client.applyPush push) = .ok w₁ ∧
      World.exec { w₁ with moment := later } (Client.applyPush push) = .ok w₂ ∧
      w₁.canvas.ReadsLike w₂.canvas ∧ w₂.events = w₁.events := by
  have hsafe : push.Safe := by
    cases push with
    | execution event => exact (hexecution event rfl).elim
    | _ => exact trivial
  obtain ⟨hreads, hevents⟩ := Client.applyChange_twice (PushEvent.comparable_of_decode? hdecoded)
    hfinite howed w.moment later
  refine ⟨_, _, exec_applyPush hsafe, exec_applyPush hsafe, hreads, ?_⟩
  exact (congrArg (_ ++ ·) hevents).trans (List.append_nil _)

/-- A canvas with a node and a session that runs it. -/
def busyWorld : LocalWorld Float :=
  let w := (Session.initial {} .counting ⟨0, 0⟩ : Session Float).world
  { w with canvas := { w.canvas with
    graph := (w.canvas.graph.upsertNode (.fresh "a" "input" .origin)).1
    debug := w.canvas.debug.register "s" ["a"] .running } }

/-- A step of the session, which ran the node and wrote a variable. -/
def stepPayload : Json :=
  .object [("session_id", .string "s"), ("result", .object [("status", .string "stepped"),
    ("node_id", .string "a"), ("result", .string "done"),
    ("variables", .object [("x", .number (.int 1))])])]

/-- The step is logged once, however often it is announced. -/
theorem World.applyPush_twice_stepping :
    ∃ push w₁ w₂,
      ((PushEvent.decode? "debug_step_executed" stepPayload).run .counting).1 = some push ∧
      busyWorld.exec (Client.applyPush push) = .ok w₁ ∧
      (w₁.canvas.debug.session? "s").map (·.steps.length) = some 1 ∧
      World.exec { w₁ with moment := ⟨1, ⟨0, 0⟩⟩ } (Client.applyPush push) = .ok w₂ ∧
      w₁.canvas.ReadsLike w₂.canvas ∧ w₂.events = w₁.events := by
  obtain ⟨w₁, w₂, hfirst, hsecond, hreads, hevents⟩ := applyPush_twice busyWorld
    "debug_step_executed" stepPayload .counting rfl
    ⟨by decide +kernel, by decide +kernel, by decide +kernel⟩ (fun _ => nofun) nofun ⟨1, ⟨0, 0⟩⟩
  refine ⟨_, w₁, w₂, rfl, hfirst, ?_, hsecond, hreads, hevents⟩
  cases hfirst
  decide +kernel

end NodeCanvas
