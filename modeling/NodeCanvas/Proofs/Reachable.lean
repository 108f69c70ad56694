import NodeCanvas.Client.Operation
import NodeCanvas.Proofs.Evolution
/-!
# Canvases that a client can come to

`Client.Operation.role` sorts the operations of a client by what they have to do with the graph.
Operations may overlap, and what they learn from the backend, the store and the source of
identifiers is up to these; so a canvas counts as reachable if sections of operations lead to it,
each at any moment and in any order. This is more than what can happen, and holds for every backend.

An invariant of the graph that every move keeps holds on every reachable canvas
(`Canvas.Reachable.graph_induction`); one is that only connections on the canvas are marked as
existing only here (`Canvas.Reachable.marksStored`).
-/

namespace NodeCanvas

variable {R σ α : Type} [Scalar R]

/-! ## Edits of the graph -/

namespace Client

open Edit

omit [Scalar R] in
theorem aside_nodeIdentity (node : NodeId) : (nodeIdentity node : Attempt R σ _).Within .aside :=
  Program.closed_within.nodeIdentity node

theorem steady_loadFromBackend : (loadFromBackend : Attempt R σ Unit).Within .steady := by
  refine .bind (Program.closed_within.ask trivial) fun load =>
    .bind (Attempt.within_atomically ?_) fun _ =>
      .bind (Attempt.within_tell _) fun _ => Attempt.within_tell _
  refine .bind (steady_onGraph fun g => ?_) fun _ => .bind (quiet_onViewport _).steady fun _ =>
    .bind (steady_onSaving fun _ => rfl) fun _ => (quiet_read _).steady
  exact (Graph.Move.replaceAll g load.nodes load.connections).evolves

omit [Scalar R] in
theorem aside_mergedHere (node : NodeId) (merge : Node R → α) :
    (mergedHere node merge : Attempt R σ α).Within .aside :=
  Program.closed_within.mergedHere node merge

theorem steady_connectHere (connection : Connection) :
    (connectHere connection : Attempt R σ ConnectionId).Within .steady := by
  cases hloop : connection.isSelfLoop with
  | true =>
    -- A loop is refused, and the canvas stays.
    refine Program.within_atomically fun m c => ⟨.of_eq ?_, ?_⟩ <;>
      simp [bind, Edit.read, Graph.upsertConnection, hloop, pure]
  | false =>
    obtain ⟨body, hbody, hbecomes⟩ := exists_connectHere (R := R) hloop
    rw [hbody]
    refine Program.within_atomically fun m c => (hbecomes m c).advances ?_
    have hmove := (Graph.Move.placeConnection c.graph connection true hloop).evolves
    rw [Graph.placeConnection_eq, if_pos rfl] at hmove
    exact hmove

/-! ## Operations that are not about the graph -/

theorem quiet_moves {shown : β → View R} {body : Edit R (Option β)} (h : body.Moves shown) :
    body.Quiet := by
  induction h with
  | still => exact quiet_pure _
  | move motion =>
    refine .bind (quiet_onViewport _) fun changed => ?_
    split
    · exact .bind quiet_markDirty fun _ => .bind (quiet_read _) fun _ => quiet_pure _
    · exact quiet_pure _
  | look f _ ih => exact .bind (quiet_read f) ih

omit [Scalar R] in
theorem aside_setParadigm (paradigm : String) :
    (setParadigm paradigm : Attempt R σ Unit).Within .aside := by
  refine .bind (Program.closed_within.ask rfl) fun answered =>
    .bind (Attempt.within_atomically (Quiet.aside ?_)) fun changed => ?_
  · exact .bind (quiet_read _) fun _ => .bind (quiet_modify (fun _ => rfl) fun _ => rfl) fun _ =>
      quiet_pure _
  · split
    · exact Attempt.within_tell _
    · exact Program.within_pure _

/-! ## Saving -/

theorem aside_saveNow [DocumentStore σ] : (saveNow : Attempt R σ Unit).Within .aside :=
  .bind (Attempt.within_atomically quiet_beginSave.aside) fun _ =>
    .bind (Attempt.within_access _) fun result =>
      .bind (Attempt.within_atomically (quiet_endSave result).aside) fun _ =>
        Program.closed_within.document result

omit [Scalar R] in
theorem aside_exportProject : (exportProject : Program R σ (ProjectFile R)).Within .aside :=
  Program.within_atomically (Quiet.aside (.bind (quiet_read _) fun _ =>
    .bind (fun _ _ => ⟨rfl, rfl, rfl⟩) fun _ => quiet_pure _))

omit [Scalar R] in
theorem aside_applyUiSettings (ui : UiSettings) :
    (Edit.modify (·.applyUiSettings ui) : Edit R Unit).Aside :=
  fun _ _ => ⟨rfl, rfl⟩

theorem aside_pollTimers [DocumentStore σ] (now : Instant) :
    (pollTimers now : Program R σ Unit).Within .aside := by
  refine .bind (Program.within_atomically (Quiet.aside ?_)) fun due => ?_
  · refine .bind (quiet_onOverlay _) fun _ => .bind (quiet_read _) fun restoring => ?_
    split
    · exact quiet_pure _
    · exact fun _ _ => ⟨rfl, rfl, rfl⟩
  · split
    · exact .bind aside_saveNow fun _ => Program.within_pure _
    · exact Program.within_pure _

/-! ## Restores -/

theorem moves_restoreSnapshot [DocumentStore σ] (s : Snapshot R) :
    (restoreSnapshot s : Program R σ RestoreReport).Within .moving := by
  refine .bind (Program.within_atomically (evolves_onSaving _)) fun _ =>
    .bind (Program.closed_within.clearRemote trivial ?_) fun cleared =>
      .bind (Program.within_atomically ?_) fun _ =>
        .bind (Program.closed_within.replayNodes (fun _ => trivial) ?_ _ _) fun replay =>
          .bind (Program.closed_within.replayConnections (fun _ => trivial) ?_ _ _ _) fun report =>
            .bind (Program.within_atomically ?_) fun _ => .bind (Program.within_tell _) fun _ =>
              .bind (Program.within_tell _) fun _ =>
                Program.closed_within.saveRestored aside_saveNow.steady.moving report
  · exact Program.within_atomically (evolves_onSaving _)
  · exact .bind (steady_onGraph fun g => (Graph.Move.alter g .wipe).evolves).evolves fun _ =>
      (quiet_onOverlay _).steady.evolves
  · exact fun node identity => Program.within_atomically (steady_placeNode node identity).evolves
  · exact fun c isLocal hloop =>
      Program.within_atomically (steady_placeConnection hloop isLocal).evolves
  · exact .bind (quiet_onViewport _).steady.evolves fun _ => .bind (evolves_onSaving _) fun _ =>
      (quiet_read _).steady.evolves

/-! ## Pushes -/

theorem steady_applyPush (push : PushEvent R) :
    (applyPush push : Program R σ Unit).Within .steady := by
  refine .bind (Program.within_atomically (steady_applySection push)) fun applied => ?_
  split
  · exact Program.within_pure _
  · trivial

/-! ## All operations -/

/-- What an operation has to do with the graph. -/
inductive Role where
  | aside
  | editing
  | restoring
  | pushing
  deriving DecidableEq

namespace Operation

def role : Operation R → Role
  | call .loadFromBackend | call (.moveNode _ _) | call (.deleteNode _)
  | call (.updateParameters _ _) | call (.updateMetadata _ _) | call (.updatePorts _ _)
  | call (.connect _ _ _ _) | call (.disconnect _) | call .clearCanvas => .editing
  | restoreSnapshot _ | restoreSaved | importText _ => .restoring
  | applyPush _ => .pushing
  | _ => .aside

variable [DocumentStore σ] {op : Operation R}

/-- **Most operations leave the graph alone** and ask for nothing about it. -/
theorem within_aside (h : op.role = .aside) :
    (op.program : Program R σ op.Result).Within .aside := by
  have hclosed : Program.Closed (R := R) (σ := σ) _ (Program.Within .aside) := Program.closed_within
  have hordinary {op : Operation R} : op.isOrdinary = true →
      (op.program : Program R σ op.Result).Within .aside :=
    hclosed.ordinary (fun _ => id) (Program.within_tell _)
      (fun f => Program.within_atomically (quiet_onDebug f).aside)
      (fun _ _ => Program.within_atomically (Quiet.aside (.bind quiet_now fun _ =>
        quiet_applyDebugStep _ _ _)))
      fun _ => Program.within_atomically (aside_applyUiSettings _)
  have hforget (session : SessionId) : (Program.atomically
      (Edit.apply (·.removeDebugSession session)) : Program R σ Bool).Within .aside :=
    Program.within_atomically (quiet_removeDebugSession session).aside
  cases op with
  | call c =>
    cases c with
    | loadFromBackend | moveNode | deleteNode | updateParameters | updateMetadata | updatePorts
    | connect | disconnect | clearCanvas => cases h
    | createNode | startExecution | stepExecution | searchPattern | refactorPattern | exportCode
    | createSession | startSession | stepSession | runAllSessions => exact hordinary rfl
    | setParadigm paradigm => exact aside_setParadigm paradigm
    | stopExecution =>
      exact Attempt.Within.bind (Program.closed_within.ask rfl) fun _ =>
        .bind (Attempt.within_atomically (quiet_onOverlay _).aside) fun _ =>
          .bind (Attempt.within_tell _) fun _ => Program.within_pure _
    | stopSession session =>
      exact hclosed.stopSession (Program.within_tell _) (fun _ => rfl) hforget
  | restoreSnapshot | restoreSaved | importText | applyPush => cases h
  | setSurface width height => exact Program.within_atomically (quiet_onViewport _).aside
  | setZoom | zoomIn | zoomOut | panBy | fitToContent =>
    refine hclosed.gesture (fun _ => id) (fun shown body next hbody hnone hsome => ?_) rfl
    refine .bind (Program.within_atomically (quiet_moves hbody).aside) fun answered => ?_
    cases answered with
    | none => exact hnone ▸ Program.within_pure _
    | some b =>
      obtain ⟨rest, hnext, hrest⟩ := hsome b
      exact hnext ▸ .bind (Program.within_tell _) fun _ => hrest
  | stopAllSessions =>
    exact hclosed.stopAllSessions (Program.within_tell _) (fun _ => rfl) hforget
  | refreshSessions | loadUiSettings => exact hordinary rfl
  | saveNow => exact aside_saveNow
  | exportProject => exact aside_exportProject
  | exportText => exact .bind aside_exportProject fun _ => Program.within_pure _
  | saveUiSettings ui =>
    exact Attempt.Within.bind (Attempt.within_atomically fun _ _ => ⟨rfl, rfl⟩) fun _ =>
      .bind (Attempt.within_access _) fun _ => .bind (Program.closed_within.document _) fun _ =>
        Attempt.within_atomically (aside_applyUiSettings ui)
  | pushesClosed reason =>
    exact .bind (Program.within_atomically fun _ _ => ⟨rfl, rfl⟩) fun _ => Program.within_tell _
  | pollTimers now => exact aside_pollTimers now

/-- An edit changes the graph by moves and leaves the restore guard alone. -/
theorem within_steady (h : op.role = .editing) :
    (op.program : Program R σ op.Result).Within .steady := by
  have hclosed : Program.Closed (R := R) (σ := σ) _ (Program.Within .steady) :=
    Program.closed_within
  have hpatch (node : NodeId) (patch : NodePatch R) :
      (Program.atomically (Edit.patchNode node patch) : Program R σ Unit).Within .steady :=
    Program.within_atomically (alters_patchNode node patch).steady
  cases op with
  | call c =>
    cases c with
    | loadFromBackend => exact steady_loadFromBackend
    | moveNode | updateParameters | updateMetadata | updatePorts =>
      exact hclosed.patching (fun _ => trivial) hpatch rfl
    | deleteNode node =>
      exact hclosed.unlessLocal (r := .deleteNode node) trivial
        (Program.within_atomically (alters_deletion node).steady)
    | connect source sourcePort target targetPort =>
      exact hclosed.connect (fun _ => trivial) steady_connectHere
    | disconnect connection =>
      exact hclosed.disconnect trivial
        (Program.within_atomically (alters_disconnection connection).steady)
    | clearCanvas =>
      exact Attempt.Within.bind (Program.closed_within.ask trivial) fun _ =>
        Attempt.within_atomically alters_clearing.steady
    | _ => cases h
  | _ => cases h

/-- A restore makes moves of the graph and nothing else. -/
theorem within_moving_of_restoring (h : op.role = .restoring) :
    (op.program : Program R σ op.Result).Within .moving := by
  have hnamed (f : Saving → Saving) :
      (Program.atomically (Edit.onSaving f) : Program R σ Unit).Within .moving :=
    Program.within_atomically (evolves_onSaving f)
  cases op with
  | restoreSnapshot s => exact moves_restoreSnapshot s
  | restoreSaved =>
    exact Program.closed_within.restoreSaved moves_restoreSnapshot fun _ => hnamed _
  | importText text =>
    exact Program.closed_within.importText moves_restoreSnapshot fun _ _ => hnamed _
  | call c => cases c <;> cases h
  | _ => cases h

/-- **Every section of an operation makes moves of the graph and nothing else.** -/
theorem within_moving (op : Operation R) : (op.program : Program R σ op.Result).Within .moving := by
  cases hrole : op.role with
  | aside => exact (within_aside hrole).steady.moving
  | editing => exact (within_steady hrole).moving
  | restoring => exact within_moving_of_restoring hrole
  | pushing =>
    cases op with
    | applyPush push => exact (steady_applyPush push).moving
    | call c => cases c <;> cases hrole
    | _ => cases hrole

end Operation

end Client

/-! ## Reachable canvases -/

/-- Sections of operations lead to the canvas, over documents in a store of some kind. -/
inductive Canvas.Reachable (σ : Type) [DocumentStore σ] : Canvas R → Prop where
  | initial (settings : Settings) : Reachable σ (.initial settings)
  | passed {c c' : Canvas R} (h : Reachable σ c) (op : Client.Operation R)
      (hpass : (op.program : Program R σ op.Result).Passes c c') : Reachable σ c'

/-- An invariant of the graph that every move keeps holds on every reachable canvas. -/
theorem Canvas.Reachable.graph_induction [DocumentStore σ] {I : Graph R → Prop} (hempty : I {})
    (hmove : ∀ g g', Graph.Move g g' → I g → I g') {c : Canvas R} (h : c.Reachable σ) :
    I c.graph := by
  induction h with
  | initial settings => exact hempty
  | passed _ op hpass ih =>
    obtain ⟨β, body, m, hbody, rfl⟩ := op.within_moving.exists_edit hpass
    exact (hbody m _).keeps hmove ih

/-! ## Marks -/

namespace Graph

variable {g : Graph R}

/-- Only connections on the graph are marked as existing only here. -/
def MarksStored (g : Graph R) : Prop :=
  ∀ id, g.isLocalConnection id = true → g.connections.contains id = true

omit [Scalar R] in
theorem MarksStored.removeNode (h : g.MarksStored) (node : NodeId) :
    (g.removeNode node).1.MarksStored := by
  intro id
  rw [Graph.removeNode]
  split
  · exact h id
  · simp only [isLocalConnection, Table.contains, Table.get?_foldl_erase]
    split
    · exact fun hmark => hmark
    · exact h id

omit [Scalar R] in
theorem MarksStored.removeConnection (h : g.MarksStored) (connection : ConnectionId) :
    (g.removeConnection connection).1.MarksStored := by
  intro id
  rw [Graph.removeConnection]
  split
  · exact h id
  · simp only [isLocalConnection, Table.contains, Table.get?_erase]
    split
    · exact fun hmark => hmark
    · exact h id

omit [Scalar R] in
theorem MarksStored.clear (h : g.MarksStored) : g.clear.1.MarksStored := by
  rw [Graph.clear]
  split
  · exact h
  · intro id hmark
    cases hmark

theorem MarksStored.alter (h : g.MarksStored) (ch : GraphChange R) : (g.alter ch).MarksStored := by
  intro id
  cases ch with
  | put node => simpa [isLocalConnection, Graph.alter] using h id
  | drop node => exact h.removeNode node id
  | patch node parts => simpa [isLocalConnection, Graph.alter] using h id
  | merge node changes =>
    rw [Graph.alter]
    split
    · simpa [isLocalConnection] using h id
    · exact h id
  | link c =>
    intro hmark
    rw [isLocalConnection, (marks_link g c).2] at hmark
    rw [Table.contains, connections_link]
    split
    · rfl
    · exact h id hmark
  | unlink connection => exact h.removeConnection connection id
  | wipe => exact h.clear id

theorem MarksStored.move {g' : Graph R} (hmove : Move g g') (h : g.MarksStored) :
    g'.MarksStored := by
  cases hmove with
  | alter ch => exact h.alter ch
  | replaceAll nodes connections =>
    intro id hmark
    cases hmark
  | place node identity =>
    intro id
    simpa [isLocalConnection] using h id
  | placeConnection c isLocal hloop =>
    intro id hmark
    rw [Table.contains, connections_placeConnection g hloop]
    split
    · rfl
    · rename_i hid
      rw [isLocalConnection_placeConnection] at hmark
      exact h id (hmark.resolve_left fun hnew => hid hnew.2)

end Graph

/-- **On a reachable canvas, only connections on it are marked.** -/
theorem Canvas.Reachable.marksStored [DocumentStore σ] {c : Canvas R} (h : c.Reachable σ) :
    c.graph.MarksStored :=
  h.graph_induction (fun _ hmark => by cases hmark) fun _ _ => Graph.MarksStored.move

end NodeCanvas
