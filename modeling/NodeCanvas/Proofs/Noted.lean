import NodeCanvas.Proofs.Leads
import NodeCanvas.Proofs.Reachable
/-!
# Changes are noted

What is saved of a canvas is its graph and its view. An operation that changes one of them schedules
a save, sets the status accordingly and tells subscribers of the change; one that tells of no change
leaves the graph, the scheduled save and the status exactly as they were, and the view up to what
compares as equal: `Canvas.Noted`. This holds of every operation that does not load, save or restore
the canvas as a whole (`Client.Operation.notes`), as long as no restore is under way.

The rules for sections are `Edit.Notes`, for a section that may have changed something and
`Edit.Marks`, for what follows a change. Those for programs are those of `Program.Leads`.
-/

namespace NodeCanvas

variable {R σ ε α β : Type}

/-- Whether subscribers are told of a change of what is saved. -/
def Event.isChange : Event R → Bool
  | .graphChanged _ | .viewChanged _ => true
  | _ => false

/-- Whether subscribers are told that a save has succeeded. -/
def Event.isSaved : Event R → Bool
  | .saveStatusChanged .saved => true
  | _ => false

/-! ## Views that compare as equal -/

namespace View

variable [BEq R] {v v' : View R}

theorem beq_iff : (v == v') = true ↔
    (v.zoom == v'.zoom) = true ∧ (v.panX == v'.panX) = true ∧ (v.panY == v'.panY) = true := by
  obtain ⟨zoom, panX, panY⟩ := v
  obtain ⟨zoom', panX', panY'⟩ := v'
  change (zoom == zoom' && (panX == panX' && panY == panY')) = true ↔ _
  rw [Bool.and_eq_true, Bool.and_eq_true]

instance partialEquivBEq [PartialEquivBEq R] : PartialEquivBEq (View R) where
  symm {v v'} h := by
    rw [beq_iff] at h ⊢
    exact ⟨BEq.symm h.1, BEq.symm h.2.1, BEq.symm h.2.2⟩
  trans {v v' v''} h h' := by
    rw [beq_iff] at h h' ⊢
    exact ⟨BEq.trans h.1 h'.1, BEq.trans h.2.1 h'.2.1, BEq.trans h.2.2 h'.2.2⟩

/-- The views are the same, or compare as equal. -/
def Alike (v v' : View R) : Prop := v = v' ∨ (v == v') = true

theorem Alike.refl (v : View R) : v.Alike v := .inl rfl

/-- A view that was put in the place of another one without any difference. -/
theorem alike_of_bne [PartialEquivBEq R] (h : (v' != v) = false) : v.Alike v' := by
  have heq : (v' == v) = true := by
    rw [bne, Bool.not_eq_false'] at h
    exact h
  exact .inr (BEq.symm heq)

theorem Alike.trans [PartialEquivBEq R] {v'' : View R} (h : v.Alike v') (h' : v'.Alike v'') :
    v.Alike v'' := by
  obtain rfl | heq := h
  · exact h'
  · obtain rfl | heq' := h'
    · exact .inr heq
    · exact .inr (BEq.trans heq heq')

end View

/-- The snapshots are the same, up to views that compare as equal. -/
structure Snapshot.Alike [BEq R] (s s' : Snapshot R) : Prop where
  nodes : s.nodes = s'.nodes
  connections : s.connections = s'.connections
  view : s.view.Alike s'.view

namespace Snapshot.Alike

variable [BEq R] {s s' s'' : Snapshot R}

theorem refl (s : Snapshot R) : s.Alike s := ⟨rfl, rfl, .refl _⟩

theorem trans [PartialEquivBEq R] (h : s.Alike s') (h' : s'.Alike s'') : s.Alike s'' :=
  ⟨h.nodes.trans h'.nodes, h.connections.trans h'.connections, h.view.trans h'.view⟩

end Snapshot.Alike

/-! ## Canvases -/

namespace Canvas

/-- Nothing that is saved has changed, and nothing about saving has. -/
structure Kept [BEq R] (c c' : Canvas R) : Prop where
  graph : c'.graph = c.graph
  view : c.viewport.view.Alike c'.viewport.view
  autosave : c'.saving.autosave = c.saving.autosave
  status : c'.saving.status = c.saving.status
  restoring : c'.saving.restoring = c.saving.restoring

/-- A save has been scheduled at an instant. -/
structure Scheduled (now : Instant) (c c' : Canvas R) : Prop where
  autosave : c'.saving.autosave = c.saving.autosave.schedule now
  status : c'.saving.status = .saving
  restoring : c'.saving.restoring = c.saving.restoring

/-- What was told tells whether a save has been scheduled or everything kept. -/
structure Noted [BEq R] (c : Canvas R) (now : Instant) (told : List (Event R)) (c' : Canvas R) :
    Prop where
  unsaved : told.any (·.isSaved) = false
  changed : told.any (·.isChange) = true → c.Scheduled now c'
  unchanged : told.any (·.isChange) = false → c.Kept c'

variable {c c' c'' : Canvas R} {now : Instant} {told told' : List (Event R)}

/-- What was there before does not matter once a save is scheduled. -/
theorem Scheduled.of_saving (h : c'.Scheduled now c'')
    (hautosave : c'.saving.autosave.debounce = c.saving.autosave.debounce)
    (hrestoring : c'.saving.restoring = c.saving.restoring) : c.Scheduled now c'' where
  autosave := by rw [h.autosave, Autosave.schedule, Autosave.schedule, hautosave]
  status := h.status
  restoring := h.restoring.trans hrestoring

variable [BEq R]

theorem Kept.refl (c : Canvas R) : c.Kept c := ⟨rfl, .refl _, rfl, rfl, rfl⟩

theorem Kept.alike (h : c.Kept c') : c.snapshot.Alike c'.snapshot := by
  unfold snapshot Graph.snapshot
  rw [h.graph]
  exact ⟨rfl, rfl, h.view⟩

theorem Kept.trans [PartialEquivBEq R] (h : c.Kept c') (h' : c'.Kept c'') : c.Kept c'' where
  graph := h'.graph.trans h.graph
  view := h.view.trans h'.view
  autosave := h'.autosave.trans h.autosave
  status := h'.status.trans h.status
  restoring := h'.restoring.trans h.restoring

theorem Scheduled.kept (h : c.Scheduled now c') (h' : c'.Kept c'') : c.Scheduled now c'' where
  autosave := h'.autosave.trans h.autosave
  status := h'.status.trans h.status
  restoring := h'.restoring.trans h.restoring

theorem Kept.noted (h : c.Kept c') (hunsaved : told.any (·.isSaved) = false)
    (hunchanged : told.any (·.isChange) = false) : c.Noted now told c' where
  unsaved := hunsaved
  changed htold := by
    rw [hunchanged] at htold
    cases htold
  unchanged _ := h

theorem Scheduled.noted (h : c.Scheduled now c') (hunsaved : told.any (·.isSaved) = false)
    (hchanged : told.any (·.isChange) = true) : c.Noted now told c' where
  unsaved := hunsaved
  changed _ := h
  unchanged htold := by
    rw [hchanged] at htold
    cases htold

theorem Noted.restoring (h : c.Noted now told c') :
    c'.saving.restoring = c.saving.restoring := by
  cases htold : told.any (·.isChange) with
  | true => exact (h.changed htold).restoring
  | false => exact (h.unchanged htold).restoring

theorem Noted.debounce (h : c.Noted now told c') :
    c'.saving.autosave.debounce = c.saving.autosave.debounce := by
  cases htold : told.any (·.isChange) with
  | true => rw [(h.changed htold).autosave, Autosave.schedule]
  | false => rw [(h.unchanged htold).autosave]

theorem Noted.trans [PartialEquivBEq R] (h : c.Noted now told c') (h' : c'.Noted now told' c'') :
    c.Noted now (told ++ told') c'' := by
  have hunsaved : (told ++ told').any (·.isSaved) = false := by
    rw [List.any_append, h.unsaved, h'.unsaved, Bool.or_self]
  cases hlater : told'.any (·.isChange) with
  | true =>
    refine ((h'.changed hlater).of_saving h.debounce h.restoring).noted hunsaved ?_
    rw [List.any_append, hlater, Bool.or_true]
  | false =>
    cases hearlier : told.any (·.isChange) with
    | true =>
      refine ((h.changed hearlier).kept (h'.unchanged hlater)).noted hunsaved ?_
      rw [List.any_append, hearlier, Bool.true_or]
    | false =>
      refine ((h.unchanged hearlier).trans (h'.unchanged hlater)).noted hunsaved ?_
      rw [List.any_append, hearlier, hlater, Bool.or_self]

end Canvas

/-! ## Sections -/

namespace Edit

/-- The section schedules a save and tells of a change. -/
def Marks (edit : Edit R α) : Prop :=
  ∀ (m : Moment) (c : Canvas R), c.saving.restoring = false →
    c.Scheduled m.now (edit m c).canvas ∧ (edit m c).events.any (·.isChange) = true ∧
      (edit m c).events.any (·.isSaved) = false

/-- Marking a canvas that is not being restored schedules a save, and of that only the status is
told. -/
theorem markDirty_of_idle (m : Moment) {c : Canvas R} (h : c.saving.restoring = false) :
    c.Scheduled m.now (markDirty m c).canvas ∧ (markDirty m c).events.any (·.isChange) = false ∧
      (markDirty m c).events.any (·.isSaved) = false := by
  obtain ⟨graph, viewport, ⟨autosave, status, restoring, owed, name, tabs, ui⟩, overlay, debug,
    paradigm⟩ := c
  cases h
  cases status <;> exact ⟨⟨rfl, rfl, rfl⟩, rfl, rfl⟩

/-- What follows a change of what is saved. -/
theorem marks_of_change {f : Canvas R → α} {event : α → Event R}
    (hchange : ∀ a, (event a).isChange = true) (hunsaved : ∀ a, (event a).isSaved = false) :
    Marks (do
      markDirty
      emit (event (← read f)) : Edit R Unit) := by
  intro m c hidle
  obtain ⟨hscheduled, -, hsaved⟩ := markDirty_of_idle m hidle
  refine ⟨hscheduled, ?_, ?_⟩
  · refine List.any_append.trans ?_
    simp [Bind.bind, read, emit, hchange]
  · refine List.any_append.trans ?_
    simp [Bind.bind, read, emit, hunsaved, hsaved]

theorem marks_graphChanged : (graphChanged : Edit R Unit).Marks :=
  marks_of_change (fun _ => rfl) fun _ => rfl

section

variable [BEq R] {edit : Edit R α} {next : α → Edit R β} {changed : α → Bool}

/-- Unless a restore is under way, the section notes what it changes. -/
def Notes (edit : Edit R α) : Prop :=
  ∀ (m : Moment) (c : Canvas R), c.saving.restoring = false →
    c.Noted m.now (edit m c).events (edit m c).canvas

/-- The section is about neither what is saved nor saving. -/
theorem notes_of_kept (h : ∀ (m : Moment) (c : Canvas R), c.Kept (edit m c).canvas)
    (hevents : ∀ m c, ∀ e ∈ (edit m c).events, e.isChange = false ∧ e.isSaved = false) :
    edit.Notes := by
  intro m c _
  refine (h m c).noted (List.any_eq_false.2 fun e he => ?_) (List.any_eq_false.2 fun e he => ?_)
  · exact Bool.eq_false_iff.1 (hevents m c e he).2
  · exact Bool.eq_false_iff.1 (hevents m c e he).1

theorem notes_pure (a : α) : (pure a : Edit R α).Notes :=
  notes_of_kept (fun _ c => .refl c) fun _ _ _ he => absurd he List.not_mem_nil

theorem notes_read (f : Canvas R → α) : (read f).Notes :=
  notes_of_kept (fun _ c => .refl c) fun _ _ _ he => absurd he List.not_mem_nil

theorem notes_moment : (moment : Edit R Moment).Notes :=
  notes_of_kept (fun _ c => .refl c) fun _ _ _ he => absurd he List.not_mem_nil

theorem notes_apply {f : Canvas R → Canvas R × α} (h : ∀ c : Canvas R, c.Kept (f c).1) :
    (apply f).Notes :=
  notes_of_kept (fun _ c => h c) fun _ _ _ he => absurd he List.not_mem_nil

theorem notes_modify {f : Canvas R → Canvas R} (h : ∀ c : Canvas R, c.Kept (f c)) :
    (modify f).Notes :=
  notes_of_kept (fun _ c => h c) fun _ _ _ he => absurd he List.not_mem_nil

theorem notes_onOverlay (f : Overlay R → Overlay R) : (onOverlay f).Notes :=
  notes_modify fun _ => ⟨rfl, .refl _, rfl, rfl, rfl⟩

theorem notes_onDebug (f : DebugSessions → DebugSessions × α) : (onDebug f : Edit R α).Notes :=
  notes_apply fun _ => ⟨rfl, .refl _, rfl, rfl, rfl⟩

theorem notes_emit {event : Event R} (hchange : event.isChange = false)
    (hsaved : event.isSaved = false) : (emit event).Notes := by
  refine notes_of_kept (fun _ c => .refl c) ?_
  intro _ _ e he
  rw [List.mem_singleton.1 he]
  exact ⟨hchange, hsaved⟩

theorem notes_applyDebugStep (session : SessionId) (result : StepResult) (now : Instant) :
    (apply (·.applyDebugStep session result now) : Edit R Bool).Notes := by
  refine notes_apply fun c => ?_
  rw [Canvas.applyDebugStep]
  split <;> exact ⟨rfl, .refl _, rfl, rfl, rfl⟩

theorem notes_removeDebugSession (session : SessionId) :
    (apply (·.removeDebugSession session) : Edit R Bool).Notes := by
  refine notes_apply fun c => ?_
  rw [Canvas.removeDebugSession]
  split <;> exact ⟨rfl, .refl _, rfl, rfl, rfl⟩

theorem notes_owed (f : Nat → Nat) :
    (onSaving fun s => { s with owedClears := f s.owedClears } : Edit R Unit).Notes :=
  notes_modify fun _ => ⟨rfl, .refl _, rfl, rfl, rfl⟩

theorem notes_sessionsChanged (changed : Bool) : (sessionsChanged changed : Edit R Unit).Notes := by
  unfold sessionsChanged
  split
  · exact notes_emit rfl rfl
  · exact notes_pure _

theorem Notes.bind [PartialEquivBEq R] (h : edit.Notes)
    (hnext : ∀ a, (next a).Notes) : (edit >>= next).Notes := by
  intro m c hidle
  have hfirst := h m c hidle
  exact hfirst.trans (hnext _ m _ (hfirst.restoring.trans hidle))

/-- A change may follow what is noted. -/
theorem Notes.bind_marks (h : edit.Notes)
    (hnext : ∀ a, (next a).Marks) : (edit >>= next).Marks := by
  intro m c hidle
  have hfirst := h m c hidle
  obtain ⟨hscheduled, hchange, hunsaved⟩ :=
    hnext (edit m c).value m (edit m c).canvas (hfirst.restoring.trans hidle)
  refine ⟨hscheduled.of_saving hfirst.debounce hfirst.restoring, ?_, ?_⟩
  · exact List.any_append.trans (by rw [hchange, Bool.or_true])
  · exact List.any_append.trans (by rw [hfirst.unsaved, hunsaved, Bool.or_self])

/-- What is noted may follow a change. -/
theorem Marks.bind (h : edit.Marks)
    (hnext : ∀ a m c, c.Kept (next a m c).canvas ∧ (next a m c).events = []) :
    (edit >>= next).Marks := by
  intro m c hidle
  obtain ⟨hscheduled, hchange, hunsaved⟩ := h m c hidle
  obtain ⟨hkept, hnone⟩ := hnext (edit m c).value m (edit m c).canvas
  have hevents : ((edit >>= next) m c).events = (edit m c).events := by
    change (edit m c).events ++ _ = _
    rw [hnone, List.append_nil]
  rw [hevents]
  exact ⟨hscheduled.kept hkept, hchange, hunsaved⟩

/-- The section makes at most a change of which it answers, and nothing else. -/
def Reports (change : Edit R α) (changed : α → Bool) : Prop :=
  ∀ (m : Moment) (c : Canvas R), (change m c).events = [] ∧ (change m c).canvas.saving = c.saving ∧
    (changed (change m c).value = false → c.Kept (change m c).canvas)

theorem reports_onGraph {f : Graph R → Graph R × α}
    (h : ∀ g, changed (f g).2 = false → (f g).1 = g) : (onGraph f).Reports changed := by
  intro m c
  refine ⟨rfl, rfl, fun hsame => ⟨h c.graph hsame, .refl _, rfl, rfl, rfl⟩⟩

theorem reports_onViewport {f : Viewport R → Viewport R × α}
    (h : ∀ v, changed (f v).2 = false → v.view.Alike (f v).1.view) :
    (onViewport f).Reports changed := by
  intro m c
  exact ⟨rfl, rfl, fun hsame => ⟨rfl, h c.viewport hsame, rfl, rfl, rfl⟩⟩

/-- A change of which the section answers is noted if what follows depends on the answer. -/
theorem Reports.notes [PartialEquivBEq R] {change : Edit R α} (h : change.Reports changed)
    (hkept : ∀ a, changed a = false → (next a).Notes)
    (hmarks : ∀ a, changed a = true → (next a).Marks) : (change >>= next).Notes := by
  intro m c hidle
  obtain ⟨hnone, hsaving, hsame⟩ := h m c
  have hevents : ((change >>= next) m c).events =
      (next (change m c).value m (change m c).canvas).events := by
    change (change m c).events ++ _ = _
    rw [hnone, List.nil_append]
  have hidle' : (change m c).canvas.saving.restoring = false := by rw [hsaving, hidle]
  rw [hevents]
  -- without a change nothing is owed, so what follows need only note its own; with one it has to
  -- mark the canvas, and that it marks the changed canvas does not matter
  cases hanswer : changed (change m c).value with
  | false =>
    have hfirst : c.Noted m.now [] (change m c).canvas := (hsame hanswer).noted rfl rfl
    exact hfirst.trans (hkept _ hanswer m _ hidle')
  | true =>
    obtain ⟨hscheduled, hchange, hunsaved⟩ := hmarks _ hanswer m _ hidle'
    exact (hscheduled.of_saving (by rw [hsaving]) (by rw [hsaving])).noted hunsaved hchange

theorem notes_ifReported [PartialEquivBEq R] {change : Edit R Bool} {follow : Edit R Unit}
    (h : change.Reports id) (hfollow : follow.Marks) :
    Notes (do if ← change then follow : Edit R Unit) := by
  refine h.notes (fun changed hchanged => ?_) fun changed hchanged => ?_
  · cases hchanged
    exact notes_pure _
  · cases hchanged
    exact hfollow

theorem notes_ifChanged [PartialEquivBEq R] {change : Edit R Bool} (h : change.Reports id) :
    (Client.ifChanged change).Notes :=
  notes_ifReported h marks_graphChanged

/-- Taking something off the graph. -/
theorem reports_removal {f : Graph R → Graph R × Option α} (h : ∀ g, (f g).2 = none → (f g).1 = g) :
    Reports (do return (← onGraph f).isSome : Edit R Bool) id := by
  intro m c
  refine ⟨rfl, rfl, fun hnone => ?_⟩
  refine ⟨h c.graph (Option.isNone_iff_eq_none.1 ?_), .refl _, rfl, rfl, rfl⟩
  exact Option.isSome_eq_false_iff.1 hnone

end

end Edit

/-! ## What is no change -/

section Unchanged

variable [Scalar R] {g : Graph R} {v : Viewport R}

theorem Graph.upsertNode_of_same {node : Node R} (h : (g.upsertNode node).2 = false) :
    (g.upsertNode node).1 = g := by
  unfold upsertNode at h ⊢
  split
  · rfl
  · rename_i hnew
    rw [if_neg hnew] at h
    cases h

theorem Graph.patchNode_of_same {id : NodeId} {patch : NodePatch R}
    (h : (g.patchNode id patch).2 = false) : (g.patchNode id patch).1 = g := by
  unfold patchNode at h ⊢
  cases hnode : g.nodes.get? id with
  | none => rfl
  | some node =>
    simp only [hnode] at h ⊢
    split
    · rename_i hchanged
      rw [if_pos hchanged] at h
      cases h
    · rfl

omit [Scalar R] in
theorem Graph.removeNode_of_none {id : NodeId} (h : (g.removeNode id).2 = none) :
    (g.removeNode id).1 = g := by
  unfold removeNode at h ⊢
  cases hnode : g.nodes.get? id with
  | none => rfl
  | some node =>
    rw [hnode] at h
    cases h

omit [Scalar R] in
theorem Graph.removeConnection_of_none {id : ConnectionId}
    (h : (g.removeConnection id).2 = none) : (g.removeConnection id).1 = g := by
  unfold removeConnection at h ⊢
  cases hconnection : g.connections.get? id with
  | none => rfl
  | some c =>
    rw [hconnection] at h
    cases h

omit [Scalar R] in
theorem Graph.clear_of_same (h : g.clear.2 = false) : g.clear.1 = g := by
  unfold clear at h ⊢
  split
  · rfl
  · rename_i hfull
    rw [if_neg hfull] at h
    cases h

/-- Taking over a view that compares as equal to the present one. -/
theorem Viewport.applyUpdate_alike [PartialEquivBEq R] {update : ViewUpdate R}
    (h : (v.applyUpdate update).2 = false) : v.view.Alike (v.applyUpdate update).1.view :=
  View.alike_of_bne h

theorem Viewport.fit_alike [PartialEquivBEq R] {bounds : Rect R} {padding : R}
    (h : (v.fit bounds padding).2 = false) : v.view.Alike (v.fit bounds padding).1.view := by
  unfold fit at h ⊢
  split
  · exact .refl _
  · rename_i hsurface
    rw [if_neg hsurface] at h
    exact View.alike_of_bne h

theorem Viewport.setZoom_of_same {zoom : R} {anchor : Option (R × R)}
    (h : (v.setZoom zoom anchor).2 = false) : (v.setZoom zoom anchor).1 = v := by
  unfold setZoom at h ⊢
  split
  · rfl
  · rename_i hfinite
    rw [if_neg hfinite] at h
    dsimp only at h ⊢
    split
    · rfl
    · rename_i hzoom
      rw [if_neg hzoom] at h
      cases anchor <;> cases h

theorem Viewport.panBy_of_same {dx dy : R} (h : (v.panBy dx dy).2 = false) :
    (v.panBy dx dy).1 = v := by
  unfold panBy at h ⊢
  split
  · rfl
  · rename_i hmoves
    rw [if_neg hmoves] at h
    cases h

/-- What is not reported as a change of the view is none. -/
theorem Motion.alike_apply [PartialEquivBEq R] {motion : Motion R}
    (h : (motion.apply v).2 = false) : v.view.Alike (motion.apply v).1.view := by
  cases motion with
  | setZoom zoom anchor => exact .inl (congrArg _ (Viewport.setZoom_of_same h).symm)
  | panBy dx dy => exact .inl (congrArg _ (Viewport.panBy_of_same h).symm)
  | fit bounds => exact Viewport.fit_alike h

end Unchanged

/-! ## Pushes -/

namespace Client

open Edit

theorem reports_upsertConnection [BEq R] (connection : Connection) :
    (onGraph fun g =>
      match g.upsertConnection connection with
      | .ok (g, changed) => (g, changed)
      | .error _ => (g, false) : Edit R Bool).Reports id := by
  refine reports_onGraph fun g hsame => ?_
  unfold Graph.upsertConnection at hsame ⊢
  cases hloop : connection.isSelfLoop with
  | true => rfl
  | false =>
    by_cases hstored : g.connections.get? connection.id = some connection
    · simp [hstored]
    · simp [hloop, hstored] at hsame

variable [Scalar R] [PartialEquivBEq R]

theorem notes_patchNode (node : NodeId) (patch : NodePatch R) :
    (Edit.patchNode node patch : Edit R Unit).Notes :=
  notes_ifChanged (reports_onGraph fun _ => Graph.patchNode_of_same)

theorem notes_clear : (ifChanged (onGraph (·.clear)) : Edit R Unit).Notes :=
  notes_ifChanged (reports_onGraph fun _ => Graph.clear_of_same)

theorem notes_applyCleared : (applyCleared : Edit R Unit).Notes := by
  refine .bind (notes_read _) fun saving => ?_
  split
  · exact notes_owed (· - 1)
  · split
    · exact notes_pure _
    · exact .bind (notes_onOverlay _) fun _ => notes_clear

theorem notes_viewportChanged (update : ViewUpdate R) :
    (applyChange (.viewportChanged update) : Edit R Unit).Notes :=
  notes_ifReported (reports_onViewport fun _ => Viewport.applyUpdate_alike)
    (marks_of_change (fun _ => rfl) fun _ => rfl)

theorem notes_paradigmChanged (paradigm : String) :
    (applyChange (.paradigmChanged paradigm) : Edit R Unit).Notes := by
  refine .bind (notes_read _) fun current => ?_
  split
  · exact .bind (notes_modify fun _ => ⟨rfl, .refl _, rfl, rfl, rfl⟩) fun _ => notes_emit rfl rfl
  · exact notes_pure _

/-- **Every push notes what it changes.** -/
theorem notes_applyChange (p : PushEvent R) : (applyChange p : Edit R Unit).Notes := by
  cases p with
  | nodeAdded node => exact notes_ifChanged (reports_onGraph fun _ => Graph.upsertNode_of_same)
  | nodeRemoved node =>
    exact .bind (notes_onOverlay _) fun _ =>
      notes_ifChanged (reports_removal fun _ => Graph.removeNode_of_none)
  | nodeMoved node position => exact notes_patchNode _ _
  | nodeUpdated node changes =>
    refine .bind (notes_read _) fun found => ?_
    split
    · exact notes_patchNode _ _
    · exact notes_pure _
  | nodeParametersUpdated node parameters => exact notes_patchNode _ _
  | nodeMetadataUpdated node metadata => exact notes_patchNode _ _
  | nodePortsUpdated node inputs outputs => exact notes_patchNode _ _
  | connectionAdded connection => exact notes_ifChanged (reports_upsertConnection connection)
  | connectionRemoved connection =>
    exact notes_ifChanged (reports_removal fun _ => Graph.removeConnection_of_none)
  | canvasCleared => exact notes_applyCleared
  | viewportChanged update => exact notes_viewportChanged update
  | paradigmChanged paradigm => exact notes_paradigmChanged paradigm
  | execution event => exact notes_pure _
  | debugSessionStarted session state => exact .bind (notes_onDebug _) notes_sessionsChanged
  | debugStepExecuted session result =>
    exact .bind (.bind notes_moment fun _ => notes_pure _) fun _ =>
      .bind (notes_applyDebugStep _ _ _) notes_sessionsChanged
  | debugSessionStopped session => exact .bind (notes_removeDebugSession _) notes_sessionsChanged
  | allSessionsCompleted results => exact .bind (notes_onDebug _) notes_sessionsChanged

theorem notes_applyExecution (event : ExecutionEvent) :
    (applyExecution event : Edit R (Except OverlayFault Unit)).Notes := by
  refine .bind (.bind notes_moment fun _ => notes_pure _) fun now =>
    .bind (notes_read _) fun canvas => ?_
  split
  · exact notes_pure _
  · refine .bind (notes_modify fun _ => ⟨rfl, .refl _, rfl, rfl, rfl⟩) fun _ => ?_
    dsimp only
    split
    · exact .bind (notes_emit rfl rfl) fun _ => notes_pure _
    · exact notes_pure _

theorem notes_applySection (p : PushEvent R) :
    (applySection p : Edit R (Except OverlayFault Unit)).Notes := by
  cases p with
  | execution event => exact notes_applyExecution event
  | _ => exact .bind (notes_applyChange _) fun _ => notes_pure _

end Client

end NodeCanvas
