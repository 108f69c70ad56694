import NodeCanvas.Client.Push
import NodeCanvas.Client.Graph
/-!
# Sections and the graph

Most of what a section does after a change of the graph is not about the graph: it schedules a save,
tells subscribers, ends highlights. `Edit.Quiet` says that a section leaves the graph and the count
of owed clearings alone. There is a rule for each way to build a section, so that a section is shown
to be quiet along its text, and `Canvas.Becomes.andThen` drops what follows a change from a proof
about the change.
-/

namespace NodeCanvas

variable {R α β : Type}

/-- What a canvas becomes as far as the graph goes: the graph, how many announcements of a clearing
are still to come, and that a restore goes on if it did. -/
structure Canvas.Becomes (c c' : Canvas R) (graph : Graph R) (owed : Nat) : Prop where
  graph : c'.graph = graph
  owed : c'.saving.owedClears = owed
  restoring : c'.saving.restoring = c.saving.restoring

/-- A section that is not about the graph. -/
def Edit.Quiet (edit : Edit R α) : Prop :=
  ∀ (m : Moment) (c : Canvas R), c.Becomes (edit m c).canvas c.graph c.saving.owedClears

/-- What is not about the graph may follow a change of it. -/
theorem Canvas.Becomes.andThen {c : Canvas R} {m : Moment} {edit : Edit R α} {next : α → Edit R β}
    {graph : Graph R} {owed : Nat} (h : c.Becomes (edit m c).canvas graph owed)
    (hnext : ∀ a, (next a).Quiet) : c.Becomes ((edit >>= next) m c).canvas graph owed := by
  have hquiet := hnext (edit m c).value m (edit m c).canvas
  exact ⟨hquiet.graph.trans h.graph, hquiet.owed.trans h.owed, hquiet.restoring.trans h.restoring⟩

namespace Edit

theorem Quiet.bind {edit : Edit R α} {next : α → Edit R β} (h : edit.Quiet)
    (hnext : ∀ a, (next a).Quiet) : (edit >>= next).Quiet :=
  fun m c => (h m c).andThen hnext

/-- What is not about the graph may come before a change of it. -/
theorem Quiet.andThen {m : Moment} {c : Canvas R} {edit : Edit R α} {next : α → Edit R β}
    {graph : Graph R} {owed : Nat} (h : edit.Quiet)
    (hnext : (edit m c).canvas.Becomes (next (edit m c).value m (edit m c).canvas).canvas graph
      owed) : c.Becomes ((edit >>= next) m c).canvas graph owed :=
  ⟨hnext.graph, hnext.owed, hnext.restoring.trans (h m c).restoring⟩

theorem quiet_pure (a : α) : (pure a : Edit R α).Quiet := fun _ _ => ⟨rfl, rfl, rfl⟩

theorem quiet_read (f : Canvas R → α) : (read f).Quiet := fun _ _ => ⟨rfl, rfl, rfl⟩

theorem quiet_emit (event : Event R) : (emit event).Quiet := fun _ _ => ⟨rfl, rfl, rfl⟩

theorem quiet_now : (now : Edit R Instant).Quiet := fun _ _ => ⟨rfl, rfl, rfl⟩

theorem quiet_modify {f : Canvas R → Canvas R} (hgraph : ∀ c, (f c).graph = c.graph)
    (hsaving : ∀ c, (f c).saving = c.saving) : (modify f).Quiet :=
  fun _ c => ⟨hgraph c, congrArg _ (hsaving c), congrArg _ (hsaving c)⟩

theorem quiet_apply {f : Canvas R → Canvas R × α} (hgraph : ∀ c, (f c).1.graph = c.graph)
    (hsaving : ∀ c, (f c).1.saving = c.saving) : (apply f).Quiet :=
  fun _ c => ⟨hgraph c, congrArg _ (hsaving c), congrArg _ (hsaving c)⟩

theorem quiet_onOverlay (f : Overlay R → Overlay R) : (onOverlay f).Quiet :=
  fun _ _ => ⟨rfl, rfl, rfl⟩

theorem quiet_onViewport (f : Viewport R → Viewport R × α) : (onViewport f).Quiet :=
  fun _ _ => ⟨rfl, rfl, rfl⟩

theorem quiet_onDebug (f : DebugSessions → DebugSessions × α) : (onDebug f : Edit R α).Quiet :=
  fun _ _ => ⟨rfl, rfl, rfl⟩

theorem quiet_onSaving {f : Saving → Saving} (howed : ∀ s, (f s).owedClears = s.owedClears)
    (hrestoring : ∀ s, (f s).restoring = s.restoring) : (onSaving f : Edit R Unit).Quiet :=
  fun _ c => ⟨rfl, howed c.saving, hrestoring c.saving⟩

theorem quiet_setSaveStatus (status : SaveStatus) : (setSaveStatus status : Edit R Unit).Quiet := by
  refine .bind (quiet_read _) fun current => ?_
  split
  · exact quiet_pure _
  · exact .bind (quiet_onSaving (fun _ => rfl) fun _ => rfl) fun _ => quiet_emit _

theorem quiet_markDirty : (markDirty : Edit R Unit).Quiet := by
  refine .bind (quiet_read _) fun restoring => ?_
  split
  · exact quiet_pure _
  · exact .bind quiet_now fun _ =>
      .bind (quiet_onSaving (fun _ => rfl) fun _ => rfl) fun _ => quiet_setSaveStatus _

theorem quiet_graphChanged : (graphChanged : Edit R Unit).Quiet :=
  .bind quiet_markDirty fun _ => .bind (quiet_read _) fun _ => quiet_emit _

theorem quiet_sessionsChanged (changed : Bool) : (sessionsChanged changed : Edit R Unit).Quiet := by
  unfold sessionsChanged
  split
  · exact quiet_emit _
  · exact quiet_pure _

theorem canvas_sessionsChanged (changed : Bool) (m : Moment) (c : Canvas R) :
    (sessionsChanged changed m c).canvas = c := by
  cases changed <;> rfl

theorem quiet_applyDebugStep (session : SessionId) (result : StepResult) (now : Instant) :
    (apply (·.applyDebugStep session result now) : Edit R Bool).Quiet := by
  refine quiet_apply (fun c => ?_) fun c => ?_
  · rw [Canvas.applyDebugStep]
    split <;> rfl
  · rw [Canvas.applyDebugStep]
    split <;> rfl

theorem quiet_removeDebugSession (session : SessionId) :
    (apply (·.removeDebugSession session) : Edit R Bool).Quiet := by
  refine quiet_apply (fun c => ?_) fun c => ?_
  · rw [Canvas.removeDebugSession]
    split <;> rfl
  · rw [Canvas.removeDebugSession]
    split <;> rfl

/-- What follows a change, if there was one. -/
theorem quiet_graphChangedIf (changed : Bool) :
    (if changed = true then graphChanged else pure () : Edit R Unit).Quiet := by
  split
  · exact quiet_graphChanged
  · exact quiet_pure _

end Edit

/-! ## Changes of the graph -/

variable {m : Moment} {c : Canvas R}

theorem Canvas.Becomes.ifChanged {change : Edit R Bool} {graph : Graph R} {owed : Nat}
    (h : c.Becomes (change m c).canvas graph owed) :
    c.Becomes (Client.ifChanged change m c).canvas graph owed :=
  h.andThen Edit.quiet_graphChangedIf

theorem Edit.patchNode_becomes [Scalar R] (node : NodeId) (patch : NodePatch R) :
    c.Becomes (Edit.patchNode node patch m c).canvas (c.graph.patchNode node patch).1
      c.saving.owedClears := by
  have hpatch : c.Becomes (Edit.onGraph (·.patchNode node patch) m c).canvas
      (c.graph.patchNode node patch).1 c.saving.owedClears := ⟨rfl, rfl, rfl⟩
  exact hpatch.andThen Edit.quiet_graphChangedIf

end NodeCanvas
