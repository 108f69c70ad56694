import NodeCanvas.Proofs.Announced
import NodeCanvas.Proofs.Echo
import NodeCanvas.Proofs.Gestures
/-!
# What becomes of a restored view

A restore puts the saved view on the canvas but does not ask the backend for it, so that the backend
keeps the view it had. The calls for later gestures are obeyed with respect to that one, and each is
announced by the whole view of the backend. So once the announcements are in, the restored view is
gone: the client shows what the calls make of the view of the backend (`World.exists_resumes`).

Two views become one under calls only in special cases, `View.Meet`: if only pans come, they were
the same, and otherwise they showed the same point of the canvas where the first zoom is centered.
So the announcements leave a client with the view it has made of the restored one exactly in these
cases (`restored_view_lasts_iff`).
-/

namespace NodeCanvas

variable {R σ ε α β : Type}

/-! ## Updates of the view -/

/-- What a push says about the view. -/
def PushEvent.update? : PushEvent R → Option (ViewUpdate R)
  | .viewportChanged update => some update
  | _ => none

/-- The updates of the view that are queued. -/
def Link.updates (link : Link R) : List (ViewUpdate R) := link.pushes.filterMap (·.update?)

section Updates

variable [Scalar R]

/-- A view once updates are in. -/
def View.settle (v : View R) (updates : List (ViewUpdate R)) : View R :=
  updates.foldl (fun v update => update.onto v) v

theorem View.settle_append (v : View R) (updates later : List (ViewUpdate R)) :
    v.settle (updates ++ later) = (v.settle updates).settle later :=
  List.foldl_append

/-- The views that a view becomes by calls, one after the other. -/
def View.trail (v : View R) : List (ViewCall R) → List (View R)
  | [] => []
  | call :: calls => v.obey call :: (v.obey call).trail calls

end Updates

/-! ## Pushes and the viewport -/

/-- The section leaves the viewport alone. -/
def Edit.Unmoving (edit : Edit R α) : Prop :=
  ∀ (m : Moment) (c : Canvas R), (edit m c).canvas.viewport = c.viewport

namespace Edit

theorem Unmoving.bind {edit : Edit R α} {next : α → Edit R β} (h : edit.Unmoving)
    (hnext : ∀ a, (next a).Unmoving) : (edit >>= next).Unmoving :=
  fun m c => (hnext _ m _).trans (h m c)

theorem unmoving_sessionsChanged (changed : Bool) :
    (sessionsChanged changed : Edit R Unit).Unmoving :=
  fun m c => by rw [canvas_sessionsChanged]

/-- What is about saving only leaves the viewport alone. -/
theorem Saves.unmoving {edit : Edit R α} (h : edit.Saves) : edit.Unmoving := by
  intro m c
  obtain ⟨saving, hcanvas⟩ := h m c
  rw [hcanvas]

theorem unmoving_ifChanged {change : Edit R Bool} (h : change.Unmoving) :
    (Client.ifChanged change).Unmoving := by
  intro m c
  obtain ⟨saving, hcanvas⟩ := canvas_ifChanged change m c
  rw [hcanvas]
  exact h m c

end Edit

namespace Client

open Edit

variable [Scalar R]

omit [Scalar R] in
theorem unmoving_applyCleared : (applyCleared : Edit R Unit).Unmoving := by
  refine .bind (fun _ _ => rfl) fun saving => ?_
  split
  · exact fun _ _ => rfl
  · split
    · exact fun _ _ => rfl
    · exact .bind (fun _ _ => rfl) fun _ => unmoving_ifChanged fun _ _ => rfl

omit [Scalar R] in
theorem unmoving_applyDebugStep (session : SessionId) (result : StepResult) (now : Instant) :
    (apply (·.applyDebugStep session result now) : Edit R Bool).Unmoving := by
  intro m c
  change (c.applyDebugStep session result now).1.viewport = _
  rw [Canvas.applyDebugStep]
  split <;> rfl

omit [Scalar R] in
theorem unmoving_removeDebugSession (session : SessionId) :
    (apply (·.removeDebugSession session) : Edit R Bool).Unmoving := by
  intro m c
  change (c.removeDebugSession session).1.viewport = _
  rw [Canvas.removeDebugSession]
  split <;> rfl

/-- **A push updates the view if it says something about it**; else the viewport stays. -/
theorem viewport_applyChange (p : PushEvent R) (m : Moment) (c : Canvas R) :
    (applyChange p m c).canvas.viewport =
      { c.viewport with view := c.viewport.view.settle p.update?.toList } := by
  cases p with
  | viewportChanged update =>
    obtain ⟨saving, hcanvas⟩ := canvas_viewportChanged update m c
    rw [hcanvas]
    rfl
  | nodeRemoved node =>
    exact Unmoving.bind (fun _ _ => rfl) (fun _ => unmoving_ifChanged fun _ _ => rfl) m c
  | nodeUpdated node changes =>
    refine Unmoving.bind (fun _ _ => rfl) (fun found => ?_) m c
    split
    · exact unmoving_ifChanged fun _ _ => rfl
    · exact fun _ _ => rfl
  | nodeAdded | nodeMoved | nodeParametersUpdated | nodeMetadataUpdated | nodePortsUpdated
  | connectionAdded | connectionRemoved => exact unmoving_ifChanged (fun _ _ => rfl) m c
  | canvasCleared => exact unmoving_applyCleared m c
  | paradigmChanged paradigm =>
    refine Unmoving.bind (fun _ _ => rfl) (fun current => ?_) m c
    split <;> exact fun _ _ => rfl
  | execution event => rfl
  | debugSessionStarted | allSessionsCompleted =>
    exact Unmoving.bind (fun _ _ => rfl) unmoving_sessionsChanged m c
  | debugStepExecuted session result =>
    exact Unmoving.bind (fun _ _ => rfl) (fun _ =>
      .bind (unmoving_applyDebugStep _ _ _) unmoving_sessionsChanged) m c
  | debugSessionStopped session =>
    exact Unmoving.bind (unmoving_removeDebugSession _) unmoving_sessionsChanged m c

end Client

namespace World

variable [Scalar R] {w : LocalWorld R}

/-- The updates among pushes come in, one after the other. -/
theorem applyAll_viewport (pushes : List (PushEvent R)) (hsafe : ∀ p ∈ pushes, p.Safe) :
    ∃ w', w.applyAll pushes = .ok w' ∧ w'.remote = w.remote ∧ w'.canvas.viewport =
      { w.canvas.viewport with
        view := w.canvas.viewport.view.settle (pushes.filterMap (·.update?)) } := by
  induction pushes generalizing w with
  | nil => exact ⟨w, rfl, rfl, rfl⟩
  | cons p pushes ih =>
    obtain ⟨w', hrun, hremote, hviewport⟩ :=
      ih (w := w.after (Client.applyChange p w.moment w.canvas))
        fun q hq => hsafe q (List.mem_cons_of_mem p hq)
    refine ⟨w', ?_, hremote, hviewport.trans ?_⟩
    · rw [applyAll, exec_applyPush (hsafe p List.mem_cons_self)]
      exact hrun
    · have hfirst : (w.after (Client.applyChange p w.moment w.canvas)).canvas.viewport =
          { w.canvas.viewport with view := w.canvas.viewport.view.settle p.update?.toList } :=
        Client.viewport_applyChange p w.moment w.canvas
      rw [hfirst, ← View.settle_append]
      cases hupdate : p.update? <;> simp [hupdate]

/-- **Once everything is delivered**, the queue is empty and all updates are in. -/
theorem pump_viewport (hsafe : ∀ p ∈ w.remote.pushes, p.Safe) :
    ∃ n w', w.pump none = .ok (n, w') ∧ w'.remote.pushes = [] ∧ w'.canvas.viewport =
      { w.canvas.viewport with view := w.canvas.viewport.view.settle w.remote.updates } := by
  obtain ⟨w', hrun, hremote, hviewport⟩ := applyAll_viewport
    (w := { w with remote := { w.remote with pushes := [] } }) w.remote.pushes hsafe
  exact ⟨_, w', pump_none hrun, by rw [hremote], hviewport⟩

end World

/-! ## Restores and the viewport -/

/-- What a program does to the viewport. -/
def World.Moves (f : Viewport R → Viewport R) (w w' : World R σ ε) : Prop :=
  w'.canvas.viewport = f w.canvas.viewport

instance World.lenient_moves :
    World.Lenient (World.Moves id : World R σ ε → World R σ ε → Prop) where
  same _ := rfl
  trans h h' := Eq.trans h' h
  drawing _ _ := rfl
  answered _ _ := rfl
  notified _ _ _ := rfl

namespace Program

variable {answer : Answering R ε} {f : Viewport R → Viewport R}

theorem Leads.then_moves {program : Program R σ α} {next : α → Program R σ β}
    (h : program.Leads answer (World.Moves id))
    (hnext : ∀ a, (next a).Leads answer (World.Moves f)) :
    (program >>= next).Leads answer (World.Moves f) := by
  intro w b w'' hrun
  obtain ⟨a, w', hfirst, hrest⟩ := exists_of_run_bind hrun
  have hstays : w'.canvas.viewport = w.canvas.viewport := h w a w' hfirst
  exact (hnext a w' b w'' hrest).trans (congrArg f hstays)

theorem Leads.moves_then {program : Program R σ α} {next : α → Program R σ β}
    (h : program.Leads answer (World.Moves f))
    (hnext : ∀ a, (next a).Leads answer (World.Moves id)) :
    (program >>= next).Leads answer (World.Moves f) := by
  intro w b w'' hrun
  obtain ⟨a, w', hfirst, hrest⟩ := exists_of_run_bind hrun
  exact (hnext a w' b w'' hrest).trans (h w a w' hfirst)

end Program

namespace Client

open Edit Program

variable [Scalar R] [DocumentStore σ] {answer : Answering R ε}

theorem leads_saveNow : (saveNow : Attempt R σ Unit).Leads answer (World.Moves id) := by
  have hbegin : (beginSave : Edit R _).Saves :=
    .bind (saves_onSaving _) fun _ => .bind (saves_setSaveStatus _) fun _ =>
      saves_of_canvas fun _ _ => rfl
  refine .bind (Attempt.leads_atomically fun w => hbegin.unmoving w.moment w.canvas) fun taken =>
    .bind (Attempt.leads_access fun w => rfl) fun result =>
      .bind (Attempt.leads_atomically fun w => ?_) fun _ => Attempt.leads_document _
  cases result <;> exact (saves_setSaveStatus _).unmoving w.moment w.canvas

/-- **A restore takes over the saved view**, and does nothing else to the viewport. -/
theorem viewport_restoreSnapshot (s : Snapshot R) :
    (restoreSnapshot s : Program R σ RestoreReport).Leads answer
      (World.Moves fun v => (v.apply s.view).1) := by
  have hend : (atomically (endRestore s.view) : Program R σ (Nat × View R)).Leads answer
      (World.Moves fun v => (v.apply s.view).1) := leads_atomically fun w => rfl
  have hclosed : Closed (σ := σ) _ (Program.Leads answer (World.Moves id)) := closed_leads
  refine .then_moves (leads_atomically fun _ => rfl) fun _ =>
    .then_moves (hclosed.clearRemote trivial (leads_atomically fun _ => rfl)) fun cleared =>
      .then_moves (leads_atomically fun _ => rfl) fun _ =>
        .then_moves (hclosed.replayNodes (fun _ => trivial)
          (fun _ _ => leads_atomically fun _ => rfl) _ _) fun replay =>
            .then_moves (hclosed.replayConnections (fun _ => trivial)
              (fun _ _ _ => leads_atomically fun _ => rfl) _ _ _) fun report =>
                .moves_then hend fun shown => ?_
  exact .bind (leads_tell fun w => rfl) fun _ => .bind (leads_tell fun w => rfl) fun _ =>
    hclosed.saveRestored leads_saveNow report

end Client

/-! ## Restores and the far side -/

namespace Answering

variable {answer : Answering R ε} (inv : ε → Prop) {st : ε × IdSource}

theorem remote_askNode (node : Node R) (st : ε × IdSource) :
    (answer.askNode node st).2.1 = (answer (.createNode (.ofNode node)) st.1).2 := by
  unfold askNode
  split
  · rename_i hanswer
    exact (congrArg Prod.snd hanswer).symm
  · rename_i hanswer
    exact (congrArg Prod.snd hanswer).symm

theorem keeps_askConnection (isLocal : NodeId → Bool) (c : Connection)
    (hcreate : ∀ spec remote, inv remote → inv (answer (.createConnection spec) remote).2)
    (h : inv st.1) : inv (answer.askConnection isLocal c st).2.1 := by
  have hasked := hcreate (.ofConnection c) st.1 h
  unfold askConnection
  split
  · exact h
  · split
    · rename_i hanswer
      rw [hanswer] at hasked
      exact hasked
    · rename_i hanswer
      rw [hanswer] at hasked
      exact hasked

theorem keeps_askNodes
    (hcreate : ∀ spec remote, inv remote → inv (answer (.createNode spec) remote).2)
    (nodes : List (Node R)) (h : inv st.1) :
    inv (answer.askNodes nodes st).2.1 := by
  induction nodes generalizing st with
  | nil => exact h
  | cons node nodes ih =>
    have hasked : inv (answer.askNode node st).2.1 := by
      rw [remote_askNode]
      exact hcreate _ _ h
    exact ih hasked

theorem keeps_askConnections (isLocal : NodeId → Bool)
    (hcreate : ∀ spec remote, inv remote → inv (answer (.createConnection spec) remote).2)
    (cs : List Connection) (h : inv st.1) :
    inv (answer.askConnections isLocal cs st).2.1 := by
  induction cs generalizing st with
  | nil => exact h
  | cons c cs ih =>
    exact ih (keeps_askConnection inv isLocal c hcreate h)

/-- What the answers to the requests of a restore keep, a restore keeps. -/
theorem keeps_restore [Scalar R] (s : Snapshot R) (g : Graph R)
    (hnode : ∀ spec remote, inv remote → inv (answer (.createNode spec) remote).2)
    (hconnection : ∀ spec remote, inv remote → inv (answer (.createConnection spec) remote).2)
    (h : inv st.1) : inv (answer.restore s g st).remote :=
  keeps_askConnections inv _ hconnection _ (keeps_askNodes inv hnode _ h)

end Answering

/-! ## The view of the backend -/

/-- Nothing that comes of the request is about the view. -/
def Request.SparesView [Scalar R] (r : Request R) : Prop :=
  ∀ (b : Backend R) (done : Accepted R r.Reply), b.perform r = .ok done →
    done.backend.failures = b.failures ∧ done.backend.view = b.view ∧
      done.pushes.filterMap (·.update?) = []

/-- The link refuses nothing, the backend has the view, and the updates of the view are queued. -/
structure Link.Displays (link : Link R) (view : View R) (updates : List (ViewUpdate R)) : Prop
    extends link.Willing where
  safe : ∀ p ∈ link.pushes, p.Safe
  shown : link.backend.view = view
  queued : link.updates = updates

section Displays

variable [Scalar R]

theorem Request.sparesView_clearCanvas : (Request.clearCanvas : Request R).SparesView := by
  rintro b done ⟨⟩
  exact ⟨rfl, rfl, rfl⟩

theorem Request.sparesView_createNode (spec : CreateNode R) :
    (Request.createNode spec).SparesView := by
  rintro b done ⟨⟩
  exact ⟨rfl, rfl, rfl⟩

theorem Request.sparesView_createConnection (spec : CreateConnection) :
    (Request.createConnection spec : Request R).SparesView := by
  intro b done hperform
  obtain ⟨-, -, -, rfl⟩ := Backend.createConnection_eq_ok hperform
  exact ⟨rfl, rfl, rfl⟩

namespace Link.Displays

variable {link : Link R} {view : View R} {updates : List (ViewUpdate R)}

omit [Scalar R] in
theorem announced (h : link.Displays view updates) {b' : Backend R} {pushes : List (PushEvent R)}
    (hfailures : b'.failures = []) (hsafe : ∀ p ∈ pushes, p.Safe) :
    Link.Displays { link with backend := b', pushes := link.pushes ++ pushes } b'.view
      (updates ++ pushes.filterMap (·.update?)) where
  subscribed := h.subscribed
  failures := hfailures
  safe p hp := (List.mem_append.1 hp).elim (h.safe p) (hsafe p)
  shown := rfl
  queued := by
    rw [← h.queued]
    exact List.filterMap_append

/-- What is not about the view leaves it as it is, be it refused or not. -/
theorem spared (h : link.Displays view updates) {r : Request R} (hr : r.SparesView) :
    (link.answer r).2.Displays view updates := by
  obtain ⟨cause, hanswer⟩ | ⟨done, hperform, hanswer⟩ := link.answer_outcome r
  · rw [hanswer]
    exact ⟨⟨h.subscribed, h.toWilling.recorded r⟩, h.safe, h.shown, h.queued⟩
  · obtain ⟨hfailures, hview, hnone⟩ := hr _ done hperform
    have hdone := h.announced (hfailures.trans (h.toWilling.recorded r))
      (Backend.perform_effect hperform).2
    rw [hanswer, if_pos h.subscribed]
    rw [hview, hnone, List.append_nil] at hdone
    exact ⟨hdone.toWilling, hdone.safe, hdone.shown.trans h.shown, hdone.queued⟩

/-- A call is obeyed, and the view that comes of it is announced. -/
theorem obey (h : link.Displays view updates) (call : ViewCall R) :
    (link.answer call.request).2.Displays (view.obey call)
      (updates ++ [(view.obey call).toUpdate]) := by
  have hview : (link.recorded call.request).view = view := h.shown
  have hsafe : ∀ p ∈ [PushEvent.viewportChanged (view.obey call).toUpdate], p.Safe := by
    simp [PushEvent.Safe]
  let b : Backend R := { link.recorded call.request with view := view.obey call }
  have hfailures : b.failures = [] := h.toWilling.recorded call.request
  have hdone := h.announced hfailures hsafe
  subst hview
  cases call with
  | zoom factor center =>
    rw [h.toWilling.answer rfl]
    exact hdone
  | pan dx dy =>
    rw [h.toWilling.answer rfl]
    exact hdone

/-- So are calls one after the other. -/
theorem after (h : link.Displays view updates) (calls : List (ViewCall R)) :
    (Link.answering.after link calls).Displays (calls.foldl View.obey view)
      (updates ++ (view.trail calls).map View.toUpdate) := by
  induction calls generalizing link view updates with
  | nil =>
    rw [View.trail, List.map_nil, List.append_nil]
    exact h
  | cons call calls ih =>
    have hrest := ih (h.obey call)
    rw [List.append_assoc] at hrest
    exact hrest

end Link.Displays

/-- **A restore is not about the view of the backend.** -/
theorem Link.Displays.restore {link : Link R} {view : View R} {updates : List (ViewUpdate R)}
    (h : link.Displays view updates) (s : Snapshot R) (g : Graph R) (ids : IdSource) :
    (Link.answering.restore s g ((Link.answering .clearCanvas link).2, ids)).remote.Displays view
      updates :=
  Answering.keeps_restore (Link.Displays · view updates) s g
    (fun spec _ hlink => hlink.spared (Request.sparesView_createNode spec))
    (fun spec _ hlink => hlink.spared (Request.sparesView_createConnection spec))
    (h.spared Request.sparesView_clearCanvas)

end Displays

/-! ## Exact arithmetic -/

theorem minZoom_pos : (0 : Rat) < minZoom := by
  unfold minZoom
  norm_num

theorem clampZoom_ne_zero (z : Rat) : clampZoom z ≠ 0 :=
  (lt_of_lt_of_le minZoom_pos (clampZoom_mem z).1).ne'

namespace View

/-- The zoom is an allowed one. -/
def InRange (v : View Rat) : Prop := minZoom ≤ v.zoom ∧ v.zoom ≤ maxZoom

/-- The point of the canvas that is shown at a point of the surface. -/
def under (v : View Rat) (point : Rat × Rat) : Position Rat :=
  Viewport.toCanvas ⟨v, 0, 0⟩ point.1 point.2

/-- Calls make one view of two: they are the same, up to the first zoom, or show the same point of
the canvas where that is centered. -/
def Meet : View Rat → View Rat → List (ViewCall Rat) → Prop
  | v, v', [] => v = v'
  | v, v', .pan dx dy :: calls => Meet (v.panBy dx dy) (v'.panBy dx dy) calls
  | v, v', .zoom _ center :: _ => v.under center = v'.under center

variable {v v' : View Rat}

theorem eq_iff : v = v' ↔ v.zoom = v'.zoom ∧ v.panX = v'.panX ∧ v.panY = v'.panY := by
  obtain ⟨zoom, panX, panY⟩ := v
  obtain ⟨zoom', panX', panY'⟩ := v'
  simp only [mk.injEq]

theorem InRange.zoom_pos (h : v.InRange) : 0 < v.zoom := lt_of_lt_of_le minZoom_pos h.1

theorem InRange.obey (h : v.InRange) (call : ViewCall Rat) : (v.obey call).InRange := by
  cases call with
  | zoom factor center => exact clampZoom_mem factor
  | pan dx dy => exact h

/-- An update with a whole view leaves nothing of the old one. -/
theorem InRange.onto (h : v.InRange) (old : View Rat) : v.toUpdate.onto old = v := by
  have husable : Scalar.isFinite v.zoom = true ∧ (0.0 : Rat) < v.zoom := by
    refine ⟨rfl, ?_⟩
    have hzero : (0.0 : Rat) = 0 := by norm_num
    rw [hzero]
    exact h.zoom_pos
  refine eq_iff.2 ⟨?_, rfl, rfl⟩
  change (if Scalar.isFinite v.zoom = true ∧ (0.0 : Rat) < v.zoom then clampZoom v.zoom else _) = _
  rw [if_pos husable, clampZoom_of_mem h]

/-- **The last announcement counts.** -/
theorem InRange.settle_trail (h : v.InRange) (old : View Rat) (calls : List (ViewCall Rat)) :
    old.settle ((v.trail calls).map toUpdate) =
      if calls.isEmpty then old else calls.foldl View.obey v := by
  induction calls generalizing v old with
  | nil => rfl
  | cons call calls ih =>
    -- Each announcement has a whole view, so nothing is left of what came before it.
    change ((v.obey call).toUpdate.onto old).settle (((v.obey call).trail calls).map toUpdate) = _
    rw [(h.obey call).onto, ih (h.obey call)]
    cases calls with
    | nil => rfl
    | cons next calls => rfl

/-- Zooming about a point makes one view of two exactly if they show the same there. -/
theorem zoomAbout_eq_iff {zoom : Rat} (hzoom : zoom ≠ 0) (center : Rat × Rat) :
    v.zoomAbout zoom center = v'.zoomAbout zoom center ↔ v.under center = v'.under center := by
  have hshift (c pan pan' z z' : Rat) :
      c - (c - pan) * (zoom / z) = c - (c - pan') * (zoom / z') ↔
        (c - pan) / z = (c - pan') / z' := by
    rw [sub_right_inj, mul_div_left_comm, mul_div_left_comm (c - pan'), mul_right_inj' hzoom]
  rw [eq_iff]
  change zoom = zoom ∧ _ ∧ _ ↔ Position.mk _ _ = Position.mk _ _
  rw [Position.mk.injEq, ← hshift, ← hshift]
  exact and_iff_right rfl

/-- Views of the same zoom stay apart. -/
theorem obey_eq_iff (hsame : v.zoom = v'.zoom) (hzoom : v.zoom ≠ 0) (call : ViewCall Rat) :
    v.obey call = v'.obey call ↔ v = v' := by
  cases call with
  | zoom factor center =>
    refine (zoomAbout_eq_iff (clampZoom_ne_zero factor) center).trans ?_
    change Position.mk _ _ = Position.mk _ _ ↔ _
    rw [Position.mk.injEq, ← hsame, div_left_inj' hzoom, div_left_inj' hzoom, sub_right_inj,
      sub_right_inj, eq_iff]
    exact (and_iff_right hsame).symm
  | pan dx dy =>
    change View.mk _ (_ + dx) (_ + dy) = View.mk _ (_ + dx) (_ + dy) ↔ _
    rw [mk.injEq, add_left_inj, add_left_inj, eq_iff]

theorem foldl_obey_eq_iff_of_zoom (hsame : v.zoom = v'.zoom) (hzoom : v.zoom ≠ 0)
    (calls : List (ViewCall Rat)) :
    calls.foldl View.obey v = calls.foldl View.obey v' ↔ v = v' := by
  induction calls generalizing v v' with
  | nil => rfl
  | cons call calls ih =>
    have hafter : (v.obey call).zoom = (v'.obey call).zoom ∧ (v.obey call).zoom ≠ 0 := by
      cases call with
      | zoom factor center => exact ⟨rfl, clampZoom_ne_zero factor⟩
      | pan dx dy => exact ⟨hsame, hzoom⟩
    exact (ih hafter.1 hafter.2).trans (obey_eq_iff hsame hzoom call)

/-- **When calls make one view of two.** -/
theorem foldl_obey_eq_iff (calls : List (ViewCall Rat)) :
    calls.foldl View.obey v = calls.foldl View.obey v' ↔ v.Meet v' calls := by
  induction calls generalizing v v' with
  | nil => rfl
  | cons call calls ih =>
    cases call with
    | zoom factor center =>
      -- From the first zoom on both have the same zoom, so that nothing brings them together later.
      have hsame : (v.obey (.zoom factor center)).zoom = (v'.obey (.zoom factor center)).zoom := rfl
      exact (foldl_obey_eq_iff_of_zoom hsame (clampZoom_ne_zero factor) calls).trans
        (zoomAbout_eq_iff (clampZoom_ne_zero factor) center)
    | pan dx dy => exact ih

end View

/-! ## Restores and gestures -/

/-- A snapshot is restored, gestures are performed, and all that is announced is delivered. -/
structure World.Resumes (w : LocalWorld Rat) (s : Snapshot Rat) (gestures : List (Gesture Rat))
    (restored delivered : LocalWorld Rat) : Prop where
  restores : ∃ report, w.run (Client.restoreSnapshot s) = .ok (report, restored)
  performs : ∃ w' n, restored.run (Gesture.perform gestures) = .ok ((), w') ∧
    w'.pump none = .ok (n, delivered)
  drained : delivered.remote.pushes = []

/-- **What a restored view becomes.** If the gestures ask for nothing, it only gets the updates that
were queued before. Otherwise the calls are obeyed by a backend that does not know of it, and that
decides. -/
theorem World.exists_resumes {w : LocalWorld Rat} (hlink : w.remote.Willing)
    (hsafe : ∀ p ∈ w.remote.pushes, p.Safe) (hbackend : w.remote.backend.view.InRange)
    {s : Snapshot Rat} (hs : s.view.InRange) (gestures : List (Gesture Rat)) :
    ∃ restored delivered, w.Resumes s gestures restored delivered ∧
      restored.canvas.viewport = { w.canvas.viewport with view := s.view } ∧
      delivered.canvas.viewport =
        let calls := Gesture.callsAll restored.canvas.graph.bounds restored.canvas.viewport gestures
        { Gesture.applyAll restored.canvas.graph.bounds restored.canvas.viewport gestures with
          view := if calls.isEmpty then s.view.settle w.remote.updates
            else calls.foldl View.obey w.remote.backend.view } := by
  have hends : (Client.restoreSnapshot s).Ends Link.answering.handler w _ :=
    Client.restoreSnapshot_ends s
  obtain ⟨report, w₁, hrestore, -, -, hremote₁, -⟩ := hends
  -- The client takes over the saved view, of which the backend is not told.
  have hviewport₁ : w₁.canvas.viewport = { w.canvas.viewport with view := s.view } := by
    refine (Client.viewport_restoreSnapshot s w report w₁ hrestore).trans ?_
    change (w.canvas.viewport.applyUpdate s.view.toUpdate).1 = _
    rw [Viewport.applyUpdate_eq, hs.onto]
  have hdisplays : w₁.remote.Displays w.remote.backend.view w.remote.updates := by
    rw [hremote₁]
    exact Link.Displays.restore ⟨hlink, hsafe, rfl, rfl⟩ s _ _
  -- The calls are obeyed one after the other, and each leaves the view it leads to in the queue.
  have hmirrors : (Gesture.perform gestures).Mirrors Link.answering w₁ _ _ :=
    Gesture.mirrors_perform gestures
  obtain ⟨_, w₂, hperform, hviewport₂, -, hremote₂⟩ := hmirrors.ends
  have hafter := hdisplays.after
    (Gesture.callsAll w₁.canvas.graph.bounds w₁.canvas.viewport gestures)
  rw [← hremote₂ (Link.grants_of_failures hdisplays.failures _)] at hafter
  obtain ⟨n, w₃, hpump, hdrained, hviewport₃⟩ := World.pump_viewport hafter.safe
  refine ⟨w₁, w₃, ⟨⟨report, hrestore⟩, ⟨w₂, n, hperform, hpump⟩, hdrained⟩, hviewport₁, ?_⟩
  -- What is queued last counts, unless nothing was asked for and only older updates are there.
  rw [hviewport₃, hviewport₂, hafter.queued, View.settle_append, hbackend.settle_trail,
    Gesture.view_applyAll]
  cases Gesture.callsAll w₁.canvas.graph.bounds w₁.canvas.viewport gestures with
  | nil =>
    rw [hviewport₁]
    rfl
  | cons call calls => rfl

/-- **When a restored view lasts.** In exact arithmetic, let a link refuse nothing, let its backend
have an allowed zoom, as every call leaves it with one, and let a client restore a snapshot with an
allowed zoom, perform any gestures and then get everything that is announced. All of this succeeds,
and the client has the saved view right after the restore.

If the gestures ask for anything, then in the end the client does not have what they make of the
restored view, but what the calls make of the view that the backend had before the restore. So it
has what the gestures by themselves make of the restored viewport exactly if nothing is asked for
and no update that was queued before the restore changes the view, or else the calls make one view
of the two. -/
theorem restored_view_lasts_iff {w : LocalWorld Rat} (hlink : w.remote.Willing)
    (hsafe : ∀ p ∈ w.remote.pushes, p.Safe) (hbackend : w.remote.backend.view.InRange)
    {s : Snapshot Rat} (hs : s.view.InRange) (gestures : List (Gesture Rat)) :
    ∃ restored delivered, w.Resumes s gestures restored delivered ∧
      restored.canvas.viewport = { w.canvas.viewport with view := s.view } ∧
      let alone := Gesture.applyAll restored.canvas.graph.bounds restored.canvas.viewport gestures
      let calls := Gesture.callsAll restored.canvas.graph.bounds restored.canvas.viewport gestures
      (calls ≠ [] → delivered.canvas.viewport =
        { alone with view := calls.foldl View.obey w.remote.backend.view }) ∧
      (delivered.canvas.viewport = alone ↔
        if calls.isEmpty then s.view.settle w.remote.updates = s.view
        else w.remote.backend.view.Meet s.view calls) := by
  obtain ⟨restored, delivered, hresumes, hrestored, hdelivered⟩ :=
    World.exists_resumes hlink hsafe hbackend hs gestures
  have hview : restored.canvas.viewport.view = s.view := by rw [hrestored]
  refine ⟨restored, delivered, hresumes, hrestored, ?_⟩
  intro alone calls
  have halone : alone.view = calls.foldl View.obey s.view := by
    rw [← hview]
    exact Gesture.view_applyAll _ _ _
  have hsame (view : View Rat) : { alone with view } = alone ↔ view = alone.view := by
    refine ⟨congrArg Viewport.view, fun heq => ?_⟩
    rw [heq]
  change delivered.canvas.viewport = { alone with
    view := if calls.isEmpty then s.view.settle w.remote.updates
      else calls.foldl View.obey w.remote.backend.view } at hdelivered
  rw [hdelivered, hsame, halone]
  clear_value calls
  cases calls with
  | nil => exact ⟨fun hasked => absurd rfl hasked, Iff.rfl⟩
  | cons call calls => exact ⟨fun _ => rfl, View.foldl_obey_eq_iff _⟩

/-- A saved canvas with a view of its own. -/
def Client.snapshotAt (view : View Rat) : Snapshot Rat := { Client.singleSnapshot with view }

theorem Client.willing_freshWorld : freshWorld.remote.Willing := ⟨rfl, rfl⟩

theorem Client.safe_freshWorld : ∀ p ∈ freshWorld.remote.pushes, p.Safe := List.forall_mem_nil _

theorem Client.inRange_freshWorld : freshWorld.remote.backend.view.InRange := by
  constructor <;> decide +kernel

/-- A saved view and that of the backend meet in a zoom about the only point at which they show the
same. -/
theorem restored_view_lasts_iff_centered :
    Client.freshWorld.remote.Willing ∧ Client.freshWorld.remote.backend.view.InRange ∧
      (Client.snapshotAt ⟨2, -10, -20⟩).view.InRange ∧
      ∃ restored delivered, Client.freshWorld.Resumes (Client.snapshotAt ⟨2, -10, -20⟩)
          [.setZoom 4 (some (10, 20)), .panBy 3 0] restored delivered ∧
        delivered.canvas.viewport = Gesture.applyAll restored.canvas.graph.bounds
          restored.canvas.viewport [.setZoom 4 (some (10, 20)), .panBy 3 0] := by
  have hs : (Client.snapshotAt ⟨2, -10, -20⟩).view.InRange := by
    constructor <;> decide +kernel
  have hmeet : Client.freshWorld.remote.backend.view.under (10, 20) =
      (Client.snapshotAt ⟨2, -10, -20⟩).view.under (10, 20) := by
    change Position.mk _ _ = Position.mk _ _
    rw [Position.mk.injEq]
    exact ⟨by decide +kernel, by decide +kernel⟩
  obtain ⟨restored, delivered, hresumes, hrestored, -, hlasts⟩ :=
    restored_view_lasts_iff Client.willing_freshWorld Client.safe_freshWorld
      Client.inRange_freshWorld hs [.setZoom 4 (some (10, 20)), .panBy 3 0]
  have hcalls : Gesture.callsAll restored.canvas.graph.bounds restored.canvas.viewport
      [.setZoom 4 (some (10, 20)), .panBy 3 0] = [.zoom 4 (10, 20), .pan 3 0] := by
    have hbounds (bounds : Option (Rect Rat)) (v : Viewport Rat) :
        Gesture.callsAll bounds v [.setZoom 4 (some (10, 20)), .panBy 3 0] =
          Gesture.callsAll none v [.setZoom 4 (some (10, 20)), .panBy 3 0] := rfl
    rw [hrestored, hbounds]
    decide +kernel
  rw [hcalls] at hlasts
  exact ⟨Client.willing_freshWorld, Client.inRange_freshWorld, hs, restored, delivered, hresumes,
    hlasts.2 hmeet⟩

/-- **A pan undoes a restore**: the saved view is lost once the announcement of the pan is in. -/
theorem pan_undoes_restored_view :
    ∃ restored delivered, Client.freshWorld.Resumes (Client.snapshotAt ⟨2, 10, 20⟩) [.panBy 5 0]
        restored delivered ∧
      (Gesture.applyAll restored.canvas.graph.bounds restored.canvas.viewport
        [.panBy 5 0]).view = ⟨2, 15, 20⟩ ∧
      delivered.canvas.viewport.view = ⟨1, 5, 0⟩ := by
  have hs : (Client.snapshotAt ⟨2, 10, 20⟩).view.InRange := by
    constructor <;> decide +kernel
  obtain ⟨restored, delivered, hresumes, hrestored, hdelivered⟩ :=
    World.exists_resumes Client.willing_freshWorld Client.safe_freshWorld
      Client.inRange_freshWorld hs [.panBy 5 0]
  have hcalls : Gesture.callsAll restored.canvas.graph.bounds restored.canvas.viewport
      [.panBy 5 0] = [.pan 5 0] := by
    have hbounds (bounds : Option (Rect Rat)) (v : Viewport Rat) :
        Gesture.callsAll bounds v [.panBy 5 0] = Gesture.callsAll none v [.panBy 5 0] := rfl
    rw [hrestored, hbounds]
    decide +kernel
  rw [hcalls] at hdelivered
  refine ⟨restored, delivered, hresumes, ?_, ?_⟩
  · rw [Gesture.view_applyAll, hcalls, hrestored]
    exact View.Alike.eq_of_lawful (.inr (by decide +kernel))
  · refine (congrArg Viewport.view hdelivered).trans ?_
    change Client.freshWorld.remote.backend.view.obey (.pan 5 0) = _
    exact View.Alike.eq_of_lawful (.inr (by decide +kernel))

end NodeCanvas
