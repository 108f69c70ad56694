import NodeCanvas.Proofs.Announced
/-!
# The latest events

Operations run one after the other, and in between time passes and the far side changes:
`World.Course`. Somebody who has subscribed at the start and remembers the latest event of each kind
then knows the revision of the graph, the view, the save status and the paradigm
(`latest_events_describe_canvas`).

Of what runs they know less. Removing a node, clearing the canvas, stopping a debug session and
restoring a canvas may end what runs, and do not tell. The latest event about it is right exactly as
long as this has not happened since, and what runs is always what is left of it
(`latest_progress_right_iff`).
-/

namespace NodeCanvas

variable {R σ ε α : Type}

/-! ## All operations -/

namespace Client

variable [Scalar R] [DocumentStore σ]

/-- Whether an operation may end what runs, by taking away what it belongs to. -/
def Operation.takesAway : Operation R → Bool
  | .call (.deleteNode _) | .call .clearCanvas | .call (.stopSession _) | .stopAllSessions
  | .restoreSnapshot _ | .restoreSaved | .importText _ => true
  | .applyPush push => push.takesAway
  | _ => false

variable [PartialEquivBEq R] {t : Topic} {answer : Answering R ε}

open World Edit

omit [DocumentStore σ] in
theorem informs_applyPush (push : PushEvent R) (htaking : push.takesAway = true → t ≠ .progress)
    (hgiving : push.takesAway = false → t.isRemainder = false) :
    (applyPush push : Program R σ Unit).Leads answer (Informs t) := by
  refine .bind (Program.leads_atomically
    (informs_after (informs_applySection push htaking hgiving))) fun applied => ?_
  split
  · exact Program.leads_pure _
  · exact Program.leads_abort _

/-- **An operation that may end what runs informs of everything else**, and of what is left. -/
theorem Operation.informs_of_takesAway {op : Operation R} (h : op.takesAway = true)
    (ht : t ≠ .progress) : (op.program : Program R σ op.Result).Leads answer (Informs t) := by
  cases op with
  | call c =>
    cases c with
    | deleteNode node => exact informs_deleteNode node ht
    | clearCanvas => exact informs_clearCanvas ht
    | stopSession session => exact informs_stopSession session ht
    | _ => cases h
  | stopAllSessions => exact informs_stopAllSessions ht
  | restoreSnapshot s => exact informs_restoreSnapshot s ht
  | restoreSaved => exact informs_restoreSaved ht
  | importText text => exact informs_importText text ht
  | applyPush push =>
    refine informs_applyPush push (fun _ => ht) fun hgiving => ?_
    rw [show push.takesAway = true from h] at hgiving
    cases hgiving
  | _ => cases h

/-- **Every other operation informs of everything.** -/
theorem Operation.informs {op : Operation R} (h : op.takesAway = false)
    (ht : t.isRemainder = false) :
    (op.program : Program R σ op.Result).Leads answer (Informs t) := by
  have hclosed : Program.Closed (σ := σ) _ (Program.Leads answer (Informs t)) :=
    Program.closed_leads
  have hordinary {op : Operation R} : op.isOrdinary = true →
      (op.program : Program R σ op.Result).Leads answer (Informs t) :=
    hclosed.ordinary (fun _ _ => trivial) informs_sessionsChanged
      (fun f => informs_section (informs_onDebug f))
      (fun _ _ => informs_section (.bind informs_now fun _ => informs_applyDebugStep _ _ _))
      fun _ => informs_section (informs_applyUiSettings _)
  cases op with
  | call c =>
    cases c with
    | deleteNode | clearCanvas | stopSession => cases h
    | loadFromBackend => exact informs_loadFromBackend
    | createNode | startExecution | stepExecution | searchPattern | refactorPattern | exportCode
    | createSession | startSession | stepSession | runAllSessions => exact hordinary rfl
    | moveNode | updateParameters | updateMetadata | updatePorts =>
      exact hclosed.patching (fun _ => trivial)
        (fun node patch => informs_section (informs_patchNode node patch)) rfl
    | connect source sourcePort target targetPort => exact informs_connect _ _ _ _
    | disconnect connection => exact informs_disconnect connection
    | setParadigm paradigm => exact informs_setParadigm paradigm
    | stopExecution => exact informs_stopExecution ht
  | stopAllSessions | restoreSnapshot | restoreSaved | importText => cases h
  | setSurface width height =>
    refine Program.leads_atomically (informs_after (informs_apply fun c s hs => ?_))
    cases t <;> exact hs
  | setZoom | zoomIn | zoomOut | panBy | fitToContent =>
    exact hclosed.gesture (fun _ _ => trivial) (fun _ _ _ => informs_viewChange) rfl
  | refreshSessions | loadUiSettings => exact hordinary rfl
  | saveNow => exact informs_saveNow
  | exportProject => exact informs_exportProject
  | exportText => exact .bind informs_exportProject fun _ => Program.leads_pure _
  | saveUiSettings ui =>
    exact Attempt.Leads.bind (Attempt.leads_atomically (informs_after informs_moment)) fun _ =>
      .bind (informs_access _) fun _ => .bind (Attempt.leads_document _) fun _ =>
        Attempt.leads_atomically (informs_after (informs_applyUiSettings ui))
  | applyPush push =>
    refine informs_applyPush push (fun htaking => ?_) fun _ => ht
    rw [show push.takesAway = false from h] at htaking
    cases htaking
  | pushesClosed reason =>
    exact .bind (Program.leads_atomically (informs_after (informs_onSaving fun _ => rfl))) fun _ =>
      Program.leads_tell (informs_telling (by cases t <;> rfl))
  | pollTimers now => exact informs_pollTimers now

end Client

/-! ## Courses -/

namespace World

section

variable [Scalar R] [DocumentStore σ]

/-- A world to which operations lead that run one after the other, and whether what runs has been
taken away since something was last told of it. In between, time passes, and the far side, the
documents and the identifiers are whatever they are. -/
def Course (answer : Answering R ε) (w : World R σ ε) (overtaken : Prop) : Prop :=
  RunKind.Reaches
    { answer
      starts w overtaken := (∃ settings, w.canvas = .initial settings) ∧ w.events = [] ∧ ¬ overtaken
      note overtaken op w _ w' :=
        if op.takesAway then
          overtaken ∨ w'.canvas.overlay.progress ≠ w.canvas.overlay.progress
        else overtaken ∧ ¬ w.Tells (·.isAbout .progress) w'
      between w w' := ∃ store ids moment remote, w' = { w with store, ids, moment, remote } }
    w overtaken

variable {answer : Answering R ε} {w w' : World R σ ε} {overtaken : Prop}

theorem Course.start (settings : Settings) (hcanvas : w.canvas = .initial settings)
    (hevents : w.events = []) : w.Course answer False :=
  RunKind.Reaches.start ⟨⟨settings, hcanvas⟩, hevents, id⟩

/-- Time passes, and an operation runs at its instant. -/
theorem Course.runAt {w : LocalWorld R} (h : w.Course Link.answering overtaken)
    (op : Client.Operation R) {t : Instant}
    (hok : ({ w with moment := ⟨t, ⟨0, 0⟩⟩ }.run op.program).isOk = true) :
    (w.runAt t op.program).Course Link.answering
      (if op.takesAway then
        overtaken ∨ (w.runAt t op.program).canvas.overlay.progress ≠ w.canvas.overlay.progress
      else overtaken ∧ ¬ w.Tells (·.isAbout .progress) (w.runAt t op.program)) := by
  obtain ⟨result, hrun⟩ := World.exists_runAt hok
  have hwaited : World.Course Link.answering { w with moment := ⟨t, ⟨0, 0⟩⟩ } overtaken :=
    h.meanwhile ⟨w.store, w.ids, ⟨t, ⟨0, 0⟩⟩, w.remote, rfl⟩
  exact hwaited.operate op trivial hrun

/-- What somebody knows who has heard everything. -/
def heard (w : World R σ ε) : Subscriber R := Subscriber.initial.hearAll w.events

omit [DocumentStore σ] in
theorem Informs.heard {t : Topic} (h : w.Informs t w') (hknows : w.heard.Knows w.canvas t) :
    w'.heard.Knows w'.canvas t := by
  obtain ⟨told, hevents, hinforms⟩ := h
  rw [World.heard, hevents, Subscriber.hearAll_append]
  exact hinforms _ hknows

/-- **Whoever has heard everything knows everything but what runs.** -/
theorem Course.knows [PartialEquivBEq R] (h : w.Course answer overtaken) {t : Topic}
    (hprogress : t ≠ .progress) (hremainder : t.isRemainder = false) :
    w.heard.Knows w.canvas t := by
  induction h with
  | start hstart =>
    obtain ⟨⟨settings, hcanvas⟩, hevents, -⟩ := hstart
    rw [heard, hcanvas, hevents]
    cases t with
    | view => exact .refl _
    | progress => exact absurd rfl hprogress
    | remainder => cases hremainder
    | _ => rfl
  | operate _ op _ hrun ih =>
    cases htakes : op.takesAway with
    | false => exact (Client.Operation.informs htakes hremainder _ _ _ hrun).heard ih
    | true => exact (Client.Operation.informs_of_takesAway htakes hprogress _ _ _ hrun).heard ih
  | meanwhile _ hbetween ih =>
    obtain ⟨store, ids, moment, remote, rfl⟩ := hbetween
    exact ih

end

end World

/-- **The latest events describe the canvas.** Let operations of any kind run one after the other,
over any backend and any store, while time passes in between. Somebody who remembers the latest
event of each kind, and holds to how a canvas begins where there was none, has the revision of the
graph, the save status and the paradigm as they are, and a view that compares as equal. It is the
very view unless that has a zero in it, of which it may have the other sign. -/
theorem latest_events_describe_canvas [DocumentStore σ] {answer : Answering Float ε}
    {w : World Float σ ε} {overtaken : Prop} (h : w.Course answer overtaken) :
    w.heard.revision = w.canvas.graph.revision ∧ w.heard.status = w.canvas.saving.status ∧
      w.heard.paradigm = w.canvas.paradigm ∧ w.heard.view.Alike w.canvas.viewport.view ∧
      (¬ w.canvas.viewport.view.HasZero → w.heard.view = w.canvas.viewport.view) := by
  have hview : w.heard.Knows w.canvas .view := h.knows (by simp) rfl
  exact ⟨h.knows (t := .revision) (by simp) rfl, h.knows (t := .status) (by simp) rfl,
    h.knows (t := .paradigm) (by simp) rfl, hview, View.Alike.eq hview⟩

/-- A client that has restored a canvas and then switched to a paradigm. -/
def switchedWorld : LocalWorld Float :=
  restoredWorld.runAt 1 (Client.setParadigm "dataflow" : Attempt Float MemoryStore Unit).run

theorem course_restoredWorld :
    ∃ overtaken, restoredWorld.Course Link.answering overtaken ∧ ¬ overtaken := by
  obtain ⟨report, hrun⟩ := run_restoredWorld
  have hstart : (Session.initial {} .counting ⟨0, 0⟩ : Session Float).world.Course Link.answering
      False := .start {} rfl rfl
  refine ⟨_, hstart.operate (.restoreSnapshot pannedSnapshot) trivial hrun, ?_⟩
  rintro (hnever | hchanged)
  · exact hnever
  · exact hchanged (by decide +kernel)

theorem latest_events_describe_canvas_switched :
    ∃ overtaken, switchedWorld.Course Link.answering overtaken ∧
      switchedWorld.heard.revision = 1 ∧ switchedWorld.heard.status = .saved ∧
      switchedWorld.heard.paradigm = some "dataflow" ∧
      switchedWorld.heard.view = pannedSnapshot.view := by
  obtain ⟨overtaken, hcourse, -⟩ := course_restoredWorld
  have hok : ({ restoredWorld with moment := ⟨1, ⟨0, 0⟩⟩ }.run
      (Client.setParadigm "dataflow" : Attempt Float MemoryStore Unit).run).isOk = true := by
    decide +kernel
  have hswitched := hcourse.runAt (.call (.setParadigm "dataflow")) hok
  obtain ⟨hrevision, hstatus, hparadigm, -, hview⟩ := latest_events_describe_canvas hswitched
  refine ⟨_, hswitched, hrevision.trans ?_, hstatus.trans ?_, hparadigm.trans ?_,
    (hview ?_).trans ?_⟩
  · decide +kernel
  · decide +kernel
  · decide +kernel
  · unfold View.HasZero
    decide +kernel
  · rfl

/-! ## What runs -/

namespace Subscriber

theorem progress_hear {s s' : Subscriber R} (h : s.progress = s'.progress) (event : Event R) :
    (s.hear event).progress = (s'.hear event).progress := by
  cases event <;> first | exact h | rfl

/-- What one hears of what runs does not depend on anything else. -/
theorem progress_hearAll {s s' : Subscriber R} (h : s.progress = s'.progress)
    (told : List (Event R)) : (s.hearAll told).progress = (s'.hearAll told).progress := by
  induction told generalizing s s' with
  | nil => exact h
  | cons event told ih => exact ih (progress_hear h event)

theorem progress_hearAll_of_silent {told : List (Event R)}
    (h : told.any (·.isAbout .progress) = false) (s : Subscriber R) :
    (s.hearAll told).progress = s.progress := by
  induction told generalizing s with
  | nil => rfl
  | cons event told ih =>
    rw [List.any_cons, Bool.or_eq_false_iff] at h
    refine (ih h.2 _).trans ?_
    cases event <;> first | rfl | cases h.1

/-- Once it is told, what one believed before does not matter. -/
theorem progress_hearAll_of_told {told : List (Event R)}
    (h : told.any (·.isAbout .progress) = true) (s s' : Subscriber R) :
    (s.hearAll told).progress = (s'.hearAll told).progress := by
  induction told generalizing s s' with
  | nil => cases h
  | cons event told ih =>
    cases event with
    | executionChanged executing node =>
      have hsame : (s.hear (.executionChanged executing node)).progress =
          (s'.hear (.executionChanged executing node)).progress := rfl
      exact progress_hearAll hsame told
    | _ => exact ih h _ _

end Subscriber

namespace World

variable [Scalar R] {w w' : World R σ ε}

/-- What an operation does that informs of what runs: it tells of it, and then everybody is right;
or it does not, and the same runs as before. -/
theorem Informs.progress (h : w.Informs .progress w') :
    (w.Tells (·.isAbout .progress) w' → w'.heard.progress = w'.canvas.overlay.progress) ∧
      (¬ w.Tells (·.isAbout .progress) w' → w'.heard.progress = w.heard.progress ∧
        w'.canvas.overlay.progress = w.canvas.overlay.progress) := by
  obtain ⟨told, hevents, hinforms⟩ := h
  have hheard : w'.heard = w.heard.hearAll told := by
    rw [World.heard, hevents, Subscriber.hearAll_append]
    rfl
  -- Somebody who was right before the operation is right after it.
  let right : Subscriber R := { w.heard with progress := w.canvas.overlay.progress }
  have hright : (right.hearAll told).progress = w'.canvas.overlay.progress := hinforms right rfl
  constructor
  · rintro ⟨told', hevents', htold⟩
    rw [hevents] at hevents'
    rw [← List.append_cancel_left hevents'] at htold
    rw [hheard, ← hright]
    exact Subscriber.progress_hearAll_of_told htold _ _
  · intro hsilent
    have hnone : told.any (·.isAbout .progress) = false :=
      Bool.eq_false_iff.2 fun htold => hsilent ⟨told, hevents, htold⟩
    rw [Subscriber.progress_hearAll_of_silent hnone] at hright
    rw [hheard]
    exact ⟨Subscriber.progress_hearAll_of_silent hnone _, hright.symm⟩

/-- What was heard of what runs is right unless something was taken away, and otherwise lacks
nothing. -/
structure Abreast (w : World R σ ε) (overtaken : Prop) : Prop where
  right_iff : w.heard.progress = w.canvas.overlay.progress ↔ ¬ overtaken
  leaves : w.heard.progress.Leaves w.canvas.overlay.progress

variable {overtaken : Prop}

theorem Abreast.give (h : w.Abreast overtaken) (hinforms : w.Informs .progress w') :
    w'.Abreast (overtaken ∧ ¬ w.Tells (·.isAbout .progress) w') := by
  obtain ⟨htold, hsilent⟩ := hinforms.progress
  by_cases htells : w.Tells (·.isAbout .progress) w'
  · have hright := htold htells
    refine ⟨⟨fun _ hstale => hstale.2 htells, fun _ => hright⟩, ?_⟩
    rw [hright]
    exact .all
  · obtain ⟨hheard, hruns⟩ := hsilent htells
    refine ⟨?_, ?_⟩
    · rw [hheard, hruns, h.right_iff]
      exact not_congr (and_iff_left htells).symm
    · rw [hheard, hruns]
      exact h.leaves

/-- What was taken away does not come back by taking away more. -/
theorem Abreast.take (h : w.Abreast overtaken)
    (hinforms : ∀ heard ran, w.Informs (.remainder heard ran) w') :
    w'.Abreast (overtaken ∨ w'.canvas.overlay.progress ≠ w.canvas.overlay.progress) := by
  have hknows : w.heard.Knows w.canvas
      (.remainder w.heard.progress w.canvas.overlay.progress) := ⟨rfl, .all⟩
  obtain ⟨hheard, hleft⟩ := (hinforms _ _).heard hknows
  refine ⟨⟨fun hsame => ?_, fun hnot => ?_⟩, ?_⟩
  · rw [hheard] at hsame
    rw [← hsame] at hleft
    have hbefore : w.heard.progress = w.canvas.overlay.progress := h.leaves.antisymm hleft
    rintro (hstale | hchanged)
    · exact h.right_iff.1 hbefore hstale
    · exact hchanged (hsame.symm.trans hbefore)
  · rw [not_or, not_not] at hnot
    rw [hheard, hnot.2]
    exact h.right_iff.2 hnot.1
  · rw [hheard]
    exact h.leaves.trans hleft

end World

/-- **The latest event about what runs may have been overtaken.** Let operations of any kind run one
after the other, as above. What somebody has heard last of what runs is right if and only if it was
not overtaken: if no removal of a node, clearing, stop of a debug session or restore has ended
something that ran since it was told. In any case what runs now is what was told, or the same
without the node that runs, or nothing. -/
theorem latest_progress_right_iff [DocumentStore σ] {answer : Answering Float ε}
    {w : World Float σ ε} {overtaken : Prop} (h : w.Course answer overtaken) :
    (w.heard.progress = w.canvas.overlay.progress ↔ ¬ overtaken) ∧
      w.heard.progress.Leaves w.canvas.overlay.progress := by
  have habreast : w.Abreast overtaken := by
    induction h with
    | start hstart =>
      obtain ⟨⟨settings, hcanvas⟩, hevents, hnot⟩ := hstart
      have hinitial : (Canvas.initial settings : Canvas Float).overlay.progress = {} :=
        Overlay.progress_setSpeed _ _
      have hheard : ∀ v : World Float σ ε, v.events = [] → v.heard.progress = {} := by
        intro v hnone
        rw [World.heard, hnone]
        rfl
      refine ⟨?_, ?_⟩
      · rw [hheard _ hevents, hcanvas, hinitial]
        simp [hnot]
      · rw [hheard _ hevents, hcanvas, hinitial]
        exact .all
    | operate _ op _ hrun ih =>
      cases htakes : op.takesAway with
      | false =>
        dsimp only
        rw [if_neg (by simp [htakes])]
        exact ih.give (Client.Operation.informs htakes rfl _ _ _ hrun)
      | true =>
        dsimp only
        rw [if_pos htakes]
        exact ih.take fun heard ran =>
          Client.Operation.informs_of_takesAway htakes (by simp) _ _ _ hrun
    | meanwhile _ hbetween ih =>
      obtain ⟨store, ids, moment, remote, rfl⟩ := hbetween
      exact ⟨ih.right_iff, ih.leaves⟩
  exact ⟨habreast.right_iff, habreast.leaves⟩

/-- The announcement that a node runs. -/
def nodeRuns (node : NodeId) : PushEvent Float :=
  .execution { kind := .nodeStart, node := some node }

/-- A client on whose canvas a node runs. -/
def runningWorld : LocalWorld Float := restoredWorld.runAt 1 (Client.applyPush (nodeRuns "node-1"))

theorem course_runningWorld :
    ∃ overtaken, runningWorld.Course Link.answering overtaken ∧ ¬ overtaken := by
  obtain ⟨overtaken, hcourse, hnot⟩ := course_restoredWorld
  have hok : ({ restoredWorld with moment := ⟨1, ⟨0, 0⟩⟩ }.run
      (Client.applyPush (nodeRuns "node-1"))).isOk = true := by
    decide +kernel
  exact ⟨_, hcourse.runAt (.applyPush (nodeRuns "node-1")) hok, fun hstale => hnot hstale.1⟩

theorem latest_progress_right_iff_running :
    ∃ overtaken, runningWorld.Course Link.answering overtaken ∧ ¬ overtaken ∧
      runningWorld.heard.progress = ⟨true, some "node-1"⟩ := by
  obtain ⟨overtaken, hcourse, hnot⟩ := course_runningWorld
  refine ⟨overtaken, hcourse, hnot, ((latest_progress_right_iff hcourse).1.2 hnot).trans ?_⟩
  decide +kernel

/-- The client once its canvas was cleared. -/
def clearedWorld : LocalWorld Float :=
  runningWorld.runAt 2 (Client.clearCanvas : Attempt Float MemoryStore Unit).run

/-- The canvas is empty and nothing runs, but the latest event says that a node does. -/
theorem cleared_canvas_seems_to_run :
    (∃ overtaken, clearedWorld.Course Link.answering overtaken) ∧
      clearedWorld.canvas.graph.nodes.isEmpty = true ∧
      clearedWorld.canvas.overlay.progress = {} ∧
      clearedWorld.heard.progress = ⟨true, some "node-1"⟩ := by
  obtain ⟨overtaken, hcourse, -⟩ := course_runningWorld
  have hok : ({ runningWorld with moment := ⟨2, ⟨0, 0⟩⟩ }.run
      (Client.clearCanvas : Attempt Float MemoryStore Unit).run).isOk = true := by
    decide +kernel
  refine ⟨⟨_, hcourse.runAt (.call .clearCanvas) hok⟩, ?_⟩
  decide +kernel

end NodeCanvas
