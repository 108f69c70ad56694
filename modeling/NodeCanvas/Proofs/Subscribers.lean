import NodeCanvas.Proofs.Noted
/-!
# What subscribers know

A subscriber who remembers the latest event about each topic has a picture of the canvas:
`Subscriber.hearAll`. Whether the picture is right is asked topic by topic (`Subscriber.Knows`): an
event about one topic says nothing of the others.

`Edit.Informs t` says of a section that whoever knew a topic before it and hears what it tells knows
the topic after it. Some sections leave an event to the program that they are a part of, which tells
it right afterwards; these are covered by `Edit.Owes`. There is one rule for each way to build a
section. Every push informs of everything (`Client.informs_applySection`), except that three kinds
of pushes take away what runs and do not tell.
-/

namespace NodeCanvas

variable {R σ ε α β : Type}

/-! ## What runs -/

/-- What runs now: whether anything does, and which node. -/
structure Progress where
  executing : Bool := false
  node : Option NodeId := none
  deriving DecidableEq

def Overlay.progress (o : Overlay R) : Progress := ⟨o.executing, o.currentNode⟩

namespace Progress

variable {p q r : Progress}

/-- What may be left once something was taken off the canvas: all of it, or no node that runs now,
or nothing that runs at all. -/
inductive Leaves (p : Progress) : Progress → Prop where
  | all : Leaves p p
  | noNode : Leaves p { p with node := none }
  | nothing : Leaves p {}

theorem Leaves.trans (h : p.Leaves q) (h' : q.Leaves r) : p.Leaves r := by
  cases h with
  | all => exact h'
  | noNode =>
    cases h' with
    | all => exact .noNode
    | noNode => exact .noNode
    | nothing => exact .nothing
  | nothing =>
    cases h' with
    | all => exact .nothing
    | noNode => exact .nothing
    | nothing => exact .nothing

/-- What was taken away does not come back by taking away more. -/
theorem Leaves.antisymm (h : p.Leaves q) (h' : q.Leaves p) : p = q := by
  obtain ⟨executing, node⟩ := p
  cases h with
  | all => rfl
  | noNode =>
    cases node with
    | none => rfl
    | some node => cases h'
  | nothing =>
    cases h' with
    | all => rfl
    | noNode => rfl
    | nothing => rfl

end Progress

namespace Overlay

variable (o : Overlay R)

theorem leaves_releaseCurrent (node : NodeId) :
    o.progress.Leaves (o.releaseCurrent node).progress := by
  unfold releaseCurrent
  split
  · exact .noNode
  · exact .all

theorem leaves_clearNode (node : NodeId) : o.progress.Leaves (o.clearNode node).progress :=
  leaves_releaseCurrent { o with highlights := o.highlights.erase node } node

theorem leaves_reset : o.progress.Leaves o.reset.progress := .nothing

theorem progress_setSpeed (speed : Float) : (o.setSpeed speed).progress = o.progress := by
  unfold setSpeed
  split <;> rfl

theorem sameProgress_iff {o o' : Overlay R} :
    o.sameProgress o' = true ↔ o.progress = o'.progress := by
  simp [sameProgress, progress]

/-- An event that is shown answers whether what runs has changed. -/
theorem apply_of_same [Scalar R] {o shown : Overlay R} {event : ExecutionEvent} {graph : Graph R}
    {now : Instant} (h : o.apply event graph now = .ok (shown, false)) :
    shown.progress = o.progress := by
  unfold apply at h
  cases heffect : (o.appendLog event).effect event graph now with
  | error fault =>
    rw [heffect] at h
    cases h
  | ok after =>
    rw [heffect] at h
    obtain ⟨rfl, hsame⟩ := Prod.mk.inj (Except.ok.inj h)
    rw [Bool.not_eq_false'] at hsame
    exact (sameProgress_iff.1 hsame).symm

end Overlay

/-! ## Subscribers -/

/-- Somebody who remembers the latest event about each topic. -/
structure Subscriber (R : Type) where
  revision : Nat := 0
  view : View R
  status : SaveStatus := .idle
  paradigm : Option String := none
  progress : Progress := {}

/-- What there is to know about a canvas. -/
inductive Topic where
  | revision
  | view
  | status
  | paradigm
  | progress
  /-- That nothing has been heard of what runs since `heard`, and that it is what is left of `ran`.
  -/
  | remainder (heard ran : Progress)

def Topic.isRemainder : Topic → Bool
  | .remainder _ _ => true
  | _ => false

/-- Whether an event changes what its hearers believe about a topic. -/
def Event.isAbout : Event R → Topic → Bool
  | .graphChanged _, .revision => true
  | .viewChanged _, .view => true
  | .saveStatusChanged _, .status => true
  | .paradigmChanged _, .paradigm => true
  | .executionChanged _ _, .progress => true
  | .executionChanged _ _, .remainder _ _ => true
  | _, _ => false

namespace Subscriber

/-- Somebody who has not heard anything yet. -/
def initial [Scalar R] : Subscriber R := { view := .initial }

def hear (s : Subscriber R) : Event R → Subscriber R
  | .graphChanged revision => { s with revision }
  | .viewChanged view => { s with view }
  | .saveStatusChanged status => { s with status }
  | .paradigmChanged paradigm => { s with paradigm := some paradigm }
  | .executionChanged executing node => { s with progress := ⟨executing, node⟩ }
  | .notification _ _ | .debugSessionsChanged | .pushesClosed _ => s

/-- Hear what is told, in order. -/
def hearAll (s : Subscriber R) (told : List (Event R)) : Subscriber R := told.foldl hear s

theorem hearAll_append (s : Subscriber R) (told later : List (Event R)) :
    s.hearAll (told ++ later) = (s.hearAll told).hearAll later :=
  List.foldl_append

/-- What the subscriber has heard last about a topic is so. Views count as the same if they compare
as equal. -/
def Knows [BEq R] (s : Subscriber R) (c : Canvas R) : Topic → Prop
  | .revision => s.revision = c.graph.revision
  | .view => s.view.Alike c.viewport.view
  | .status => s.status = c.saving.status
  | .paradigm => s.paradigm = c.paradigm
  | .progress => s.progress = c.overlay.progress
  | .remainder heard ran => s.progress = heard ∧ ran.Leaves c.overlay.progress

variable [BEq R] {s : Subscriber R} {c : Canvas R} {t : Topic}

theorem Knows.hear (h : s.Knows c t) {event : Event R} (hevent : event.isAbout t = false) :
    (s.hear event).Knows c t := by
  cases event <;> cases t <;> first | exact h | cases hevent

theorem Knows.hearAll (h : s.Knows c t) {told : List (Event R)}
    (htold : ∀ event ∈ told, event.isAbout t = false) : (s.hearAll told).Knows c t := by
  induction told generalizing s with
  | nil => exact h
  | cons event told ih =>
    refine ih (h.hear (htold event List.mem_cons_self)) fun later hlater => ?_
    exact htold later (List.mem_cons_of_mem event hlater)

/-- Another overlay on which the same runs. -/
theorem Knows.overlay (h : s.Knows c t) {o : Overlay R} {debug : DebugSessions}
    (ho : o.progress = c.overlay.progress) : s.Knows { c with overlay := o, debug } t := by
  cases t with
  | progress => exact Eq.trans h ho.symm
  | remainder heard ran => exact ⟨h.1, ho ▸ h.2⟩
  | _ => exact h

/-- An overlay on which less runs is what is left, but not what was told. -/
theorem Knows.taking (h : s.Knows c t) {o : Overlay R} {debug : DebugSessions}
    (ho : c.overlay.progress.Leaves o.progress) (ht : t ≠ .progress) :
    s.Knows { c with overlay := o, debug } t := by
  cases t with
  | progress => exact absurd rfl ht
  | remainder heard ran => exact ⟨h.1, h.2.trans ho⟩
  | _ => exact h

end Subscriber

/-! ## Sections -/

namespace Edit

section

variable [BEq R] {t u : Topic} {changed : α → Bool} {change : Edit R Bool}

/-- Whoever knew the topic before the section and hears what it tells, and then what it still owes,
knows the topic. -/
def Owes (t : Topic) (owed : α → List (Event R)) (edit : Edit R α) : Prop :=
  ∀ (m : Moment) (c : Canvas R) (s : Subscriber R), s.Knows c t →
    ((s.hearAll (edit m c).events).hearAll (owed (edit m c).value)).Knows (edit m c).canvas t

/-- The same of anybody. -/
def Promises (t : Topic) (owed : α → List (Event R)) (edit : Edit R α) : Prop :=
  ∀ (m : Moment) (c : Canvas R) (s : Subscriber R),
    ((s.hearAll (edit m c).events).hearAll (owed (edit m c).value)).Knows (edit m c).canvas t

/-- Whoever knew the topic before the section and hears what it tells knows it afterwards. -/
def Informs (t : Topic) (edit : Edit R α) : Prop := edit.Owes t fun _ => []

/-- Whoever hears what the section tells knows the topic afterwards. -/
def Teaches (t : Topic) (edit : Edit R α) : Prop := edit.Promises t fun _ => []

section

variable {edit : Edit R α} {next : α → Edit R β} {owed : β → List (Event R)}

omit [BEq R] in
/-- One hears first what the first section tells. -/
theorem hearAll_bind (m : Moment) (c : Canvas R) (s : Subscriber R) :
    s.hearAll ((edit >>= next) m c).events =
      (s.hearAll (edit m c).events).hearAll
        (next (edit m c).value m (edit m c).canvas).events :=
  Subscriber.hearAll_append s _ _

theorem Promises.owes {owed : α → List (Event R)} (h : edit.Promises t owed) : edit.Owes t owed :=
  fun m c s _ => h m c s

theorem Informs.owes {owed : α → List (Event R)} (h : edit.Informs t)
    (howed : ∀ a, ∀ event ∈ owed a, event.isAbout t = false) : edit.Owes t owed :=
  fun m c s hs => (h m c s hs).hearAll (howed _)

theorem Informs.bind_owes (h : edit.Informs t)
    (hnext : ∀ a, (next a).Owes t owed) : (edit >>= next).Owes t owed := by
  intro m c s hs
  rw [hearAll_bind]
  exact hnext _ m _ _ (h m c s hs)

theorem Informs.bind (h : edit.Informs t) (hnext : ∀ a, (next a).Informs t) :
    (edit >>= next).Informs t :=
  h.bind_owes hnext

/-- What comes before does not matter to what is promised to anybody. -/
theorem promises_bind (hnext : ∀ a, (next a).Promises t owed) :
    (edit >>= next).Promises t owed := by
  intro m c s
  rw [hearAll_bind]
  exact hnext _ m _ _

theorem Teaches.bind (h : edit.Teaches t) (hnext : ∀ a, (next a).Informs t) :
    (edit >>= next).Teaches t := by
  intro m c s
  rw [hearAll_bind]
  exact hnext _ m _ _ (h m c s)

/-- What the canvas is like at the end of a section. -/
theorem promises_read {f : Canvas R → α} {g : α → β}
    (h : ∀ (c : Canvas R) (s : Subscriber R), (s.hearAll (owed (g (f c)))).Knows c t) :
    Promises t owed (do return g (← read f) : Edit R β) :=
  fun _ c s => h c s

end

theorem informs_pure (a : α) : (pure a : Edit R α).Informs t := fun _ _ _ hs => hs

theorem informs_read (f : Canvas R → α) : (read f).Informs t := fun _ _ _ hs => hs

theorem informs_moment : (moment : Edit R Moment).Informs t := fun _ _ _ hs => hs

theorem informs_now : (now : Edit R Instant).Informs t := fun _ _ _ hs => hs

theorem informs_emit {event : Event R} (h : event.isAbout t = false) : (emit event).Informs t :=
  fun _ _ _ hs => hs.hear h

theorem informs_apply {f : Canvas R → Canvas R × α}
    (h : ∀ (c : Canvas R) (s : Subscriber R), s.Knows c t → s.Knows (f c).1 t) :
    (apply f).Informs t :=
  fun _ c s hs => h c s hs

theorem informs_modify {f : Canvas R → Canvas R}
    (h : ∀ (c : Canvas R) (s : Subscriber R), s.Knows c t → s.Knows (f c) t) :
    (modify f).Informs t :=
  fun _ c s hs => h c s hs

theorem informs_onDebug (f : DebugSessions → DebugSessions × α) :
    (onDebug f : Edit R α).Informs t := by
  refine informs_apply fun c s hs => ?_
  cases t <;> exact hs

theorem informs_onSaving {f : Saving → Saving} (h : ∀ s, (f s).status = s.status) :
    (onSaving f : Edit R Unit).Informs t := by
  refine informs_modify fun c s hs => ?_
  cases t with
  | status => exact Eq.trans hs (h c.saving).symm
  | _ => exact hs

/-- An overlay on which the same runs. -/
theorem informs_onOverlay {f : Overlay R → Overlay R} (h : ∀ o, (f o).progress = o.progress) :
    (onOverlay f).Informs t := by
  refine informs_modify fun c s hs => hs.overlay ?_
  exact h c.overlay

/-- An overlay on which less runs: what is left is known, but nobody is told what it is. -/
theorem informs_taking {f : Overlay R → Overlay R}
    (h : ∀ o : Overlay R, o.progress.Leaves (f o).progress) (ht : t ≠ .progress) :
    (onOverlay f).Informs t := by
  refine informs_modify fun c s hs => hs.taking ?_ ht
  exact h c.overlay

/-! ### What follows a change -/

theorem informs_setSaveStatus (status : SaveStatus) :
    (setSaveStatus status : Edit R Unit).Informs t := by
  refine .bind (informs_read _) fun current => ?_
  split
  · exact informs_pure _
  · intro m c s hs
    cases t with
    | status => rfl
    | _ => exact hs

theorem informs_markDirty : (markDirty : Edit R Unit).Informs t := by
  refine .bind (informs_read _) fun restoring => ?_
  split
  · exact informs_pure _
  · exact .bind informs_now fun _ =>
      .bind (informs_onSaving fun _ => rfl) fun _ => informs_setSaveStatus _

/-- What the canvas is like now is told. -/
theorem teaches_emit_read {f : Canvas R → α} {event : α → Event R}
    (h : ∀ (c : Canvas R) (s : Subscriber R), (s.hear (event (f c))).Knows c t) :
    Teaches t (do emit (event (← read f)) : Edit R Unit) :=
  fun _ c s => h c s

theorem teaches_graphChanged : (graphChanged : Edit R Unit).Teaches .revision :=
  promises_bind fun _ => teaches_emit_read fun _ _ => rfl

theorem informs_graphChanged : (graphChanged : Edit R Unit).Informs t := by
  cases t with
  | revision => exact teaches_graphChanged.owes
  | _ => exact .bind informs_markDirty fun _ => .bind (informs_read _) fun _ => informs_emit rfl

theorem informs_sessionsChanged (changed : Bool) :
    (sessionsChanged changed : Edit R Unit).Informs t := by
  unfold sessionsChanged
  split
  · refine informs_emit ?_
    cases t <;> rfl
  · exact informs_pure _

/-! ### Changes that are told afterwards -/

/-- The section tells nothing and concerns one topic only; its answer says whether what was known
about that may have changed. -/
def Alone (u : Topic) (change : Edit R α) (changed : α → Bool) : Prop :=
  ∀ (m : Moment) (c : Canvas R), (change m c).events = [] ∧
    ∀ s : Subscriber R, (∀ t, t ≠ u → s.Knows c t → s.Knows (change m c).canvas t) ∧
      (changed (change m c).value = false → s.Knows c u → s.Knows (change m c).canvas u)

theorem alone_onGraph {f : Graph R → Graph R × α}
    (h : (onGraph f).Reports changed) : (onGraph f).Alone .revision changed := by
  refine fun m c => ⟨rfl, fun s => ⟨fun t ht hs => ?_, fun hsame hs => ?_⟩⟩
  · cases t with
    | revision => exact absurd rfl ht
    | _ => exact hs
  · obtain ⟨-, -, hkept⟩ := h m c
    exact Eq.trans hs (congrArg Graph.revision (hkept hsame).graph.symm)

/-- Taking something off the graph. -/
theorem alone_removal {f : Graph R → Graph R × Option α} (h : ∀ g, (f g).2 = none → (f g).1 = g) :
    (onGraph f).Alone .revision (·.isSome) := by
  refine alone_onGraph (reports_onGraph fun g hnone => h g ?_)
  exact Option.isNone_iff_eq_none.1 (Option.isSome_eq_false_iff.1 hnone)

theorem alone_onViewport [PartialEquivBEq R] {f : Viewport R → Viewport R × α}
    (h : (onViewport f).Reports changed) : (onViewport f).Alone .view changed := by
  refine fun m c => ⟨rfl, fun s => ⟨fun t ht hs => ?_, fun hsame hs => ?_⟩⟩
  · cases t with
    | view => exact absurd rfl ht
    | _ => exact hs
  · obtain ⟨-, -, hkept⟩ := h m c
    exact View.Alike.trans hs (hkept hsame).view

/-- Only the answer is looked at. -/
theorem Alone.map {change : Edit R α} (h : change.Alone u changed) :
    Alone u (do return changed (← change) : Edit R Bool) id := by
  intro m c
  obtain ⟨hnone, hknows⟩ := h m c
  refine ⟨?_, hknows⟩
  change (change m c).events ++ [] = []
  rw [hnone, List.append_nil]

/-- A change is told of or owed right after it is made, if it is one. -/
theorem Alone.owes {change : Edit R α} {next : α → Edit R β}
    {owed : β → List (Event R)} (h : change.Alone u changed) (hnext : ∀ a, (next a).Owes t owed)
    (hchanged : ∀ a, changed a = true → (next a).Promises u owed) :
    (change >>= next).Owes t owed := by
  intro m c s hs
  obtain ⟨hnone, hknows⟩ := h m c
  obtain ⟨hothers, hsame⟩ := hknows s
  have hevents : ((change >>= next) m c).events =
      (next (change m c).value m (change m c).canvas).events := by
    change (change m c).events ++ _ = _
    rw [hnone, List.nil_append]
  rw [hevents]
  -- Another topic is not touched; this one is still known, or it is told of.
  by_cases ht : t = u
  · subst ht
    cases hanswer : changed (change m c).value with
    | false => exact hnext _ m _ s (hsame hanswer hs)
    | true => exact hchanged _ hanswer m _ s
  · exact hnext _ m _ s (hothers t ht hs)

theorem Alone.informs {change : Edit R α} {next : α → Edit R β}
    (h : change.Alone u changed) (hnext : ∀ a, (next a).Informs t)
    (hchanged : ∀ a, changed a = true → (next a).Teaches u) : (change >>= next).Informs t :=
  h.owes hnext hchanged

/-- A change after which something follows only if it was one. -/
theorem Alone.informs_if {follow : Edit R Unit} (h : change.Alone u id)
    (hinforms : follow.Informs t) (hteaches : follow.Teaches u) :
    Informs t (do if ← change then follow : Edit R Unit) := by
  refine h.informs (fun changed => ?_) fun changed hchanged => ?_
  · split
    · exact hinforms
    · exact informs_pure _
  · cases hchanged
    exact hteaches

theorem informs_ifChanged (h : change.Alone .revision id) : (Client.ifChanged change).Informs t :=
  h.informs_if informs_graphChanged teaches_graphChanged

/-- What is owed for a view that a section answers. -/
def owedView (shown : β → View R) (answered : Option β) : List (Event R) :=
  answered.toList.map fun b => .viewChanged (shown b)

/-- A change of the view of which the program is to tell: the section answers the view if there was
a change. -/
theorem owes_viewChange {follow : Bool → Edit R (Option β)}
    {answered : View R → β} {shown : β → View R} (h : change.Alone .view id)
    (hunchanged : follow false = pure none)
    (hchanged : follow true = do
      markDirty
      return some (answered (← read (·.viewport.view))))
    (hshown : ∀ view, shown (answered view) = view) :
    (change >>= follow).Owes t (owedView shown) := by
  have hpromises : (follow true).Promises .view (owedView shown) := by
    rw [hchanged]
    refine promises_bind fun _ => promises_read fun c s => .inl ?_
    exact hshown c.viewport.view
  refine h.owes (fun changed => ?_) fun changed hanswer => ?_
  · cases changed with
    | false =>
      rw [hunchanged]
      exact fun _ _ _ hs => hs
    | true =>
      by_cases ht : t = .view
      · rw [ht]
        exact hpromises.owes
      · rw [hchanged]
        refine informs_markDirty.bind_owes fun _ => Informs.owes
          (.bind (informs_read _) fun _ => informs_pure _) fun result event hevent => ?_
        obtain ⟨b, -, rfl⟩ := List.mem_map.1 hevent
        cases t with
        | view => exact absurd rfl ht
        | _ => rfl
  · cases hanswer
    exact hpromises

end

end Edit

/-! ## Pushes -/

/-- Whether a push may end what runs, by taking away what it belongs to. -/
def PushEvent.takesAway : PushEvent R → Bool
  | .nodeRemoved _ | .canvasCleared | .debugSessionStopped _ => true
  | _ => false

namespace Client

open Edit

variable [Scalar R] {t : Topic}

theorem informs_patchNode (node : NodeId) (patch : NodePatch R) :
    (Edit.patchNode node patch : Edit R Unit).Informs t :=
  informs_ifChanged (alone_onGraph (reports_onGraph fun _ => Graph.patchNode_of_same))

theorem informs_clear : (ifChanged (onGraph (·.clear)) : Edit R Unit).Informs t :=
  informs_ifChanged (alone_onGraph (reports_onGraph fun _ => Graph.clear_of_same))

theorem informs_applyDebugStep (session : SessionId) (result : StepResult) (now : Instant) :
    (apply (·.applyDebugStep session result now) : Edit R Bool).Informs t := by
  refine informs_apply fun c s hs => ?_
  rw [Canvas.applyDebugStep]
  split
  · exact hs
  · refine hs.overlay ?_
    split <;> rfl

theorem informs_removeDebugSession (session : SessionId) (ht : t ≠ .progress) :
    (apply (·.removeDebugSession session) : Edit R Bool).Informs t := by
  refine informs_apply fun c s hs => ?_
  rw [Canvas.removeDebugSession]
  split
  · exact hs
  · refine hs.taking ?_ ht
    split
    · exact c.overlay.leaves_clearNode _
    · exact .all

theorem informs_applyCleared (ht : t ≠ .progress) : (applyCleared : Edit R Unit).Informs t := by
  refine .bind (informs_read _) fun saving => ?_
  split
  · exact informs_onSaving fun _ => rfl
  · split
    · exact informs_pure _
    · exact .bind (informs_taking Overlay.leaves_reset ht) fun _ => informs_clear

theorem informs_paradigmChanged (paradigm : String) :
    (applyChange (.paradigmChanged paradigm) : Edit R Unit).Informs t := by
  refine .bind (informs_read _) fun current => ?_
  split
  · cases t with
    | paradigm => exact fun _ _ _ _ => rfl
    | _ => exact .bind (informs_modify fun _ _ hs => hs) fun _ => informs_emit rfl
  · exact informs_pure _

/-- An execution event is told of if it changes what runs. -/
theorem informs_applyExecution (event : ExecutionEvent) (ht : t.isRemainder = false) :
    (applyExecution event : Edit R (Except OverlayFault Unit)).Informs t := by
  refine .bind informs_now fun now => ?_
  intro m c s hs
  cases happly : c.overlay.apply event c.graph now with
  | error fault =>
    simp only [bind, Edit.read, id, happly]
    exact hs
  | ok shown =>
    obtain ⟨overlay, changed⟩ := shown
    simp only [bind, Edit.read, id, happly]
    cases changed with
    | false => exact hs.overlay (Overlay.apply_of_same happly)
    | true =>
      cases t with
      | progress => rfl
      | remainder => cases ht
      | _ => exact hs

section PartialEquivBEq

variable [PartialEquivBEq R]

theorem informs_viewportChanged (update : ViewUpdate R) :
    (applyChange (.viewportChanged update) : Edit R Unit).Informs t := by
  have hteaches : Teaches .view (do
      Edit.emit (.viewChanged (← Edit.read (·.viewport.view))) : Edit R Unit) :=
    teaches_emit_read fun _ _ => .refl _
  refine Alone.informs_if
    (alone_onViewport (reports_onViewport fun _ => Viewport.applyUpdate_alike))
    (.bind informs_markDirty fun _ => ?_) (promises_bind fun _ => hteaches)
  cases t with
  | view => exact hteaches.owes
  | _ => exact .bind (informs_read _) fun _ => informs_emit rfl

/-- **Every push informs** of what it changes, unless it takes away what runs. -/
theorem informs_applyChange (p : PushEvent R) (htaking : p.takesAway = true → t ≠ .progress) :
    (applyChange p : Edit R Unit).Informs t := by
  cases p with
  | nodeAdded node =>
    exact informs_ifChanged (alone_onGraph (reports_onGraph fun _ => Graph.upsertNode_of_same))
  | nodeRemoved node =>
    exact .bind (informs_taking (fun o => o.leaves_clearNode node) (htaking rfl)) fun _ =>
      informs_ifChanged (alone_removal fun _ => Graph.removeNode_of_none).map
  | nodeMoved node position => exact informs_patchNode _ _
  | nodeUpdated node changes =>
    refine .bind (informs_read _) fun found => ?_
    split
    · exact informs_patchNode _ _
    · exact informs_pure _
  | nodeParametersUpdated node parameters => exact informs_patchNode _ _
  | nodeMetadataUpdated node metadata => exact informs_patchNode _ _
  | nodePortsUpdated node inputs outputs => exact informs_patchNode _ _
  | connectionAdded connection =>
    exact informs_ifChanged (alone_onGraph (reports_upsertConnection connection))
  | connectionRemoved connection =>
    exact informs_ifChanged (alone_removal fun _ => Graph.removeConnection_of_none).map
  | canvasCleared => exact informs_applyCleared (htaking rfl)
  | viewportChanged update => exact informs_viewportChanged update
  | paradigmChanged paradigm => exact informs_paradigmChanged paradigm
  | execution event => exact informs_pure _
  | debugSessionStarted session state => exact .bind (informs_onDebug _) informs_sessionsChanged
  | debugStepExecuted session result =>
    exact .bind informs_now fun _ =>
      .bind (informs_applyDebugStep _ _ _) informs_sessionsChanged
  | debugSessionStopped session =>
    exact .bind (informs_removeDebugSession _ (htaking rfl)) informs_sessionsChanged
  | allSessionsCompleted results => exact .bind (informs_onDebug _) informs_sessionsChanged

theorem informs_applySection (p : PushEvent R) (htaking : p.takesAway = true → t ≠ .progress)
    (hgiving : p.takesAway = false → t.isRemainder = false) :
    (applySection p : Edit R (Except OverlayFault Unit)).Informs t := by
  cases p with
  | execution event => exact informs_applyExecution event (hgiving rfl)
  | _ => exact .bind (informs_applyChange _ htaking) fun _ => informs_pure _

end PartialEquivBEq

end Client

end NodeCanvas
