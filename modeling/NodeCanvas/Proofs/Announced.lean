import NodeCanvas.Proofs.SavedState
import NodeCanvas.Proofs.Subscribers
/-!
# Operations announce what they change

Whoever knows a topic when an operation starts, and hears what is told while it runs, knows the
topic when it ends (`World.Informs`). This holds of every operation and every topic but one: what
runs. `Client.Operation.takesAway` says which operations may end what runs without telling.

A section that is followed by an event outside of it is covered together with that event
(`Client.informs_owed`). A restore replaces the graph without telling on the way, and in the end
teaches everybody its revision (`World.Teaches`).
-/

namespace NodeCanvas

variable {R σ ε α β : Type}

namespace World

variable [BEq R] {t : Topic} {w w' w'' : World R σ ε}

/-- Of some, whoever hears what has been told since knows the topic. -/
def Conveys (t : Topic) (some : Subscriber R → Prop) (w w' : World R σ ε) : Prop :=
  ∃ told, w'.events = w.events ++ told ∧ ∀ s, some s → (s.hearAll told).Knows w'.canvas t

/-- Whoever knew the topic and hears what has been told since knows it still. -/
def Informs (t : Topic) (w w' : World R σ ε) : Prop := w.Conveys t (·.Knows w.canvas t) w'

/-- Whoever hears what has been told since knows the topic. -/
def Teaches (t : Topic) (w w' : World R σ ε) : Prop := w.Conveys t (fun _ => True) w'

theorem Teaches.informs (h : w.Teaches t w') : w.Informs t w' := by
  obtain ⟨told, hevents, hknows⟩ := h
  exact ⟨told, hevents, fun s _ => hknows s trivial⟩

theorem Conveys.trans {some : Subscriber R → Prop} (h : w.Conveys t some w')
    (h' : w'.Informs t w'') : w.Conveys t some w'' := by
  obtain ⟨told, hevents, hknows⟩ := h
  obtain ⟨told', hevents', hknows'⟩ := h'
  refine ⟨told ++ told', ?_, fun s hs => ?_⟩
  · rw [hevents', hevents, List.append_assoc]
  · rw [Subscriber.hearAll_append]
    exact hknows' _ (hknows s hs)

theorem Teaches.of_isPrefix (hevents : w.events <+: w'.events) (h : w'.Teaches t w'') :
    w.Teaches t w'' := by
  obtain ⟨earlier, hearlier⟩ := hevents
  obtain ⟨told, htold, hknows⟩ := h
  refine ⟨earlier ++ told, ?_, fun s _ => ?_⟩
  · rw [htold, ← hearlier, List.append_assoc]
  · rw [Subscriber.hearAll_append]
    exact hknows _ trivial

/-- Nothing was told, and the canvas is the same. -/
theorem informs_of_canvas (hcanvas : w'.canvas = w.canvas) (hevents : w'.events = w.events) :
    w.Informs t w' := by
  refine ⟨[], by rw [hevents, List.append_nil], fun s hs => ?_⟩
  rw [hcanvas]
  exact hs

theorem informs_telling {event : Event R} (h : event.isAbout t = false) (w : World R σ ε) :
    w.Informs t (w.telling event) :=
  ⟨[event], rfl, fun _ hs => hs.hear h⟩

instance lenient_informs : Lenient (Informs (R := R) (σ := σ) (ε := ε) t) where
  same _ := informs_of_canvas rfl rfl
  trans h h' := h.trans h'
  drawing _ _ := informs_of_canvas rfl rfl
  answered _ _ := informs_of_canvas rfl rfl
  notified w _ _ := informs_telling (by cases t <;> rfl) w

theorem informs_after {edit : Edit R α} (h : edit.Informs t) (w : World R σ ε) :
    w.Informs t (w.after (edit w.moment w.canvas)) :=
  ⟨_, rfl, h w.moment w.canvas⟩

theorem informs_section {answer : Answering R ε} {edit : Edit R α} (h : edit.Informs t) :
    (Program.atomically edit : Program R σ α).Leads answer (Informs t) :=
  Program.leads_atomically (informs_after h)

end World

/-- Tell several things and go on. -/
def Program.announceAll (told : List (Event R)) (rest : Program R σ α) : Program R σ α :=
  told.foldr .announce rest

theorem Program.runWith_announceAll (handle : Handler R σ ε) (told : List (Event R))
    (rest : Program R σ α) (w : World R σ ε) :
    (announceAll told rest).runWith handle w =
      rest.runWith handle { w with events := w.events ++ told } := by
  induction told generalizing w with
  | nil =>
    rw [List.append_nil]
    rfl
  | cons event told ih =>
    refine (ih (w.telling event)).trans ?_
    rw [World.telling, List.append_assoc]
    rfl

namespace Client

open World Edit

section

variable [BEq R] {t : Topic} {answer : Answering R ε}

section Owed

variable {body : Edit R α} (owed : α → List (Event R)) {next : α → Program R σ β}
  (hnext : ∀ a, ∃ rest, next a = .announceAll (owed a) rest ∧ rest.Leads answer (Informs t))

include hnext

/-- A section, followed by what it owes to some. -/
theorem conveys_owed (some : Canvas R → Subscriber R → Prop)
    (hbody : ∀ m c s, some c s → ((s.hearAll (body m c).events).hearAll
      (owed (body m c).value)).Knows (body m c).canvas t) :
    (.atomically body >>= next : Program R σ β).Leads answer
      fun w => w.Conveys t (some w.canvas) := by
  intro w b w' hrun
  obtain ⟨a, w₁, hfirst, hlater⟩ := Program.exists_of_run_bind hrun
  cases hfirst
  obtain ⟨rest, hsplit, hrest⟩ := hnext (body w.moment w.canvas).value
  rw [hsplit, Program.runWith_announceAll] at hlater
  refine Conveys.trans ⟨_, List.append_assoc .., fun s hs => ?_⟩ (hrest _ _ _ hlater)
  rw [Subscriber.hearAll_append]
  exact hbody w.moment w.canvas s hs

theorem informs_owed (hbody : body.Owes t owed) :
    (.atomically body >>= next : Program R σ β).Leads answer (Informs t) :=
  conveys_owed owed hnext (fun c s => s.Knows c t) hbody

theorem teaches_owed (hbody : body.Promises t owed) :
    (.atomically body >>= next : Program R σ β).Leads answer (Teaches t) :=
  conveys_owed owed hnext (fun _ _ => True) fun m c s _ => hbody m c s

end Owed

/-- What comes before does not matter to whoever is taught. -/
theorem teaches_bind {program : Program R σ α} {f : α → Program R σ β}
    (hf : ∀ a, (f a).Leads answer (Teaches t)) : (program >>= f).Leads answer (Teaches t) := by
  intro w b w' hrun
  obtain ⟨a, w₁, hfirst, hrest⟩ := Program.exists_of_run_bind hrun
  exact (hf a w₁ b w' hrest).of_isPrefix (Program.keeps_of_run hfirst).1

/-- A section, followed by what it owes, in an attempt. -/
theorem informs_owedAttempt {body : Edit R α} (owed : α → List (Event R))
    {next : α → Attempt R σ β} (hbody : body.Owes t owed)
    (hnext : ∀ a, ∃ rest, (next a).run = .announceAll (owed a) rest ∧
      rest.Leads answer (Informs t)) :
    (.atomically body >>= next : Attempt R σ β).Leads answer (Informs t) :=
  informs_owed owed hnext hbody

theorem informs_sessionsChanged :
    (Program.tell .debugSessionsChanged : Program R σ Unit).Leads answer (Informs t) :=
  Program.leads_tell (informs_telling (by cases t <;> rfl))

theorem informs_exportProject :
    (exportProject : Program R σ (ProjectFile R)).Leads answer (Informs t) :=
  Program.leads_atomically (informs_after (.bind (informs_read _) fun _ =>
    .bind informs_moment fun _ => informs_pure _))

/-- The paradigm is told of unless it was the same before. -/
theorem owes_paradigm (active : String) :
    Owes t (fun changed => if changed then [.paradigmChanged active] else []) (do
      let before ← Edit.read (·.paradigm)
      Edit.modify fun c => { c with paradigm := some active }
      return before != some active : Edit R Bool) := by
  intro m c s hs
  change ((s.hearAll []).hearAll (if (c.paradigm != some active) = true then _ else _)).Knows
    { c with paradigm := some active } t
  cases hchanged : c.paradigm != some active with
  | true =>
    cases t with
    | paradigm => rfl
    | _ => exact hs
  | false =>
    cases t with
    | paradigm =>
      rw [bne_eq_false_iff_eq] at hchanged
      exact Eq.trans hs hchanged
    | _ => exact hs

theorem informs_setParadigm (paradigm : String) :
    (setParadigm paradigm : Attempt R σ Unit).Leads answer (Informs t) := by
  refine .bind (Attempt.leads_ask _ _) fun answered =>
    informs_owedAttempt _ (owes_paradigm (answered.getD paradigm)) fun changed => ?_
  cases changed with
  | false => exact ⟨_, rfl, Program.leads_pure _⟩
  | true => exact ⟨_, rfl, Program.leads_pure _⟩

theorem informs_stopExecution (ht : t.isRemainder = false) :
    (stopExecution : Attempt R σ Json).Leads answer (Informs t) := by
  have hbody : Owes t (fun _ => [.executionChanged false none])
      (Edit.onOverlay (·.reset) : Edit R Unit) := by
    intro m c s hs
    cases t with
    | progress => rfl
    | remainder => cases ht
    | _ => exact hs
  exact .bind (Attempt.leads_ask _ _) fun _ =>
    informs_owedAttempt _ hbody fun _ => ⟨_, rfl, Program.leads_pure _⟩

end

section Scalar

variable [Scalar R] {t : Topic} {answer : Answering R ε}

theorem informs_applyUiSettings (ui : UiSettings) :
    (Edit.modify (·.applyUiSettings ui) : Edit R Unit).Informs t := by
  refine informs_modify fun c s hs => ?_
  have hoverlay : s.Knows { c with overlay := c.overlay.setSpeed ui.executionSpeed } t :=
    hs.overlay (c.overlay.progress_setSpeed _)
  cases t <;> exact hoverlay

/-! ## Edits of the graph -/

theorem informs_deleteNode (node : NodeId) (ht : t ≠ .progress) :
    (deleteNode node : Attempt R σ Unit).Leads answer (Informs t) := by
  have hremove : Edit.Informs (R := R) t (do
      let removed ← Edit.onGraph (·.removeNode node)
      if removed.isSome then
        Edit.onOverlay (·.clearNode node)
        Edit.graphChanged) := by
    refine (alone_removal fun _ => Graph.removeNode_of_none).informs (fun removed => ?_)
      fun removed hsome => ?_
    · split
      · exact .bind (informs_taking (fun o => o.leaves_clearNode node) ht) fun _ =>
          informs_graphChanged
      · exact informs_pure _
    · rw [hsome]
      exact promises_bind fun _ => teaches_graphChanged
  exact Program.closed_leads.unlessLocal (r := .deleteNode node) trivial (informs_section hremove)

/-- A connection that exists only here is always a change. -/
theorem informs_connectHere (connection : Connection) :
    (connectHere connection : Attempt R σ ConnectionId).Leads answer (Informs t) := by
  refine Program.leads_atomically (informs_after (.bind (informs_read _) fun graph => ?_))
  split
  · exact informs_pure _
  · rename_i graph' changed hadded
    have halone : (modify fun c => { c with graph := graph'.markLocalConnection connection.id } :
        Edit R Unit).Alone .revision fun _ => true := by
      refine fun m c => ⟨rfl, fun s => ⟨fun t ht hs => ?_, fun hnot => ?_⟩⟩
      · cases t with
        | revision => exact absurd rfl ht
        | _ => exact hs
      · cases hnot
    exact halone.informs (fun _ => .bind informs_graphChanged fun _ => informs_pure _) fun _ _ =>
      teaches_graphChanged.bind fun _ => informs_pure _

theorem informs_connect (source : NodeId) (sourcePort : String) (target : NodeId)
    (targetPort : String) :
    (connect source sourcePort target targetPort : Attempt R σ ConnectionId).Leads answer
      (Informs t) :=
  Program.closed_leads.connect (fun _ => trivial) informs_connectHere

theorem informs_disconnect (connection : ConnectionId) :
    (disconnect connection : Attempt R σ Unit).Leads answer (Informs t) :=
  Program.closed_leads.disconnect trivial (informs_section
    (informs_ifChanged (alone_removal fun _ => Graph.removeConnection_of_none).map))

theorem informs_clearCanvas (ht : t ≠ .progress) :
    (clearCanvas : Attempt R σ Unit).Leads answer (Informs t) :=
  .bind (Attempt.leads_ask _ _) fun _ => Attempt.leads_atomically
    (informs_after (.bind (informs_taking Overlay.leaves_reset ht) fun _ => informs_clear))

/-- The graph and the view are told of right after they are replaced. -/
theorem informs_loadFromBackend :
    (loadFromBackend : Attempt R σ Unit).Leads answer (Informs t) := by
  have hbody (load : Snapshot R) :
      Owes t (fun shown => [.graphChanged shown.1, .viewChanged shown.2]) (do
        Edit.onGraph fun g => (g.replaceAll load.nodes load.connections, ())
        let _ ← Edit.onViewport (·.apply load.view)
        Edit.onSaving fun s => { s with owedClears := 0 }
        Edit.read fun c => (c.graph.revision, c.viewport.view) : Edit R (Nat × View R)) := by
    intro m c s hs
    cases t with
    | revision => rfl
    | view => exact .refl _
    | _ => exact hs
  exact .bind (Attempt.leads_ask _ _) fun load =>
    informs_owedAttempt _ (hbody load) fun _ => ⟨_, rfl, Program.leads_pure _⟩

/-! ## The view -/

section

variable [PartialEquivBEq R]

theorem owes_of_moves {shown : β → View R} {body : Edit R (Option β)}
    (h : body.Moves shown) : body.Owes t (owedView shown) := by
  induction h with
  | still => exact fun _ _ _ hs => hs
  | move motion hshown =>
    exact owes_viewChange (alone_onViewport (reports_onViewport fun _ => Motion.alike_apply)) rfl
      rfl hshown
  | look f _ ih => exact (informs_read f).bind_owes ih

theorem informs_viewChange {shown : β → View R} {body : Edit R (Option β)}
    {next : Option β → Program R σ Bool} (hbody : body.Moves shown) (hnone : next none = pure false)
    (hsome : ∀ b, ∃ rest, next (some b) = (Program.tell (.viewChanged (shown b)) >>= rest) ∧
      (rest ()).Leads answer (Informs t)) :
    (.atomically body >>= next : Program R σ Bool).Leads answer (Informs t) := by
  refine informs_owed (owedView shown) (fun answered => ?_) (owes_of_moves hbody)
  cases answered with
  | none => exact ⟨_, hnone, Program.leads_pure _⟩
  | some b =>
    obtain ⟨rest, hnext, hrest⟩ := hsome b
    exact ⟨_, hnext, hrest⟩

end

/-! ## Debug sessions -/

theorem informs_stopSession (session : SessionId) (ht : t ≠ .progress) :
    (stopSession session : Attempt R σ Unit).Leads answer (Informs t) :=
  Program.closed_leads.stopSession informs_sessionsChanged (fun _ => trivial) fun _ =>
    informs_section (informs_removeDebugSession _ ht)

theorem informs_stopAllSessions (ht : t ≠ .progress) :
    (stopAllSessions : Program R σ StopAllReport).Leads answer (Informs t) :=
  Program.closed_leads.stopAllSessions informs_sessionsChanged (fun _ => trivial) fun _ =>
    informs_section (informs_removeDebugSession _ ht)

/-! ## Saves and restores -/

section

variable [DocumentStore σ]

omit [DocumentStore σ] in
theorem informs_access (body : σ → α × σ) :
    (.access body : Attempt R σ α).Leads answer (Informs t) :=
  Attempt.leads_access fun _ => informs_of_canvas rfl rfl

theorem informs_saveNow : (saveNow : Attempt R σ Unit).Leads answer (Informs t) := by
  have hbegin : (beginSave : Edit R (Snapshot R × ProjectMeta)).Informs t :=
    .bind (informs_onSaving fun _ => rfl) fun _ => .bind (informs_setSaveStatus _) fun _ =>
      .bind (informs_read _) fun _ => .bind informs_moment fun _ => informs_pure _
  have hend (result : Except DocumentError Unit) : (endSave result : Edit R Unit).Informs t := by
    cases result with
    | ok => exact informs_setSaveStatus _
    | error => exact informs_setSaveStatus _
  exact .bind (Attempt.leads_atomically (informs_after hbegin)) fun _ =>
    .bind (informs_access _) fun result =>
      .bind (Attempt.leads_atomically (informs_after (hend result))) fun _ =>
        Attempt.leads_document result

theorem informs_pollTimers (now : Instant) :
    (pollTimers now : Program R σ Unit).Leads answer (Informs t) := by
  have htake : (takeDue now : Edit R Bool).Informs t := by
    refine .bind (informs_onOverlay fun _ => rfl) fun _ =>
      .bind (informs_read _) fun restoring => ?_
    split
    · exact informs_pure _
    · refine informs_apply fun c s hs => ?_
      cases t <;> exact hs
  refine .bind (Program.leads_atomically (informs_after htake)) fun due => ?_
  split
  · exact .bind informs_saveNow fun _ => Program.leads_pure _
  · exact Program.leads_pure _

/-! ### Restores -/

omit [DocumentStore σ] in
/-- Whatever becomes of the graph, nothing else is touched. -/
theorem informs_onGraph (f : Graph R → Graph R × α) (ht : t ≠ .revision) :
    (onGraph f).Informs t := by
  refine informs_apply fun c s hs => ?_
  cases t with
  | revision => exact absurd rfl ht
  | _ => exact hs

/-- What is told at the end of a restore. -/
def owedByRestore (shown : Nat × View R) : List (Event R) :=
  [.graphChanged shown.1, .viewChanged shown.2]

omit [DocumentStore σ] in
theorem promises_endRestore (view : View R) :
    (endRestore view).Promises .revision owedByRestore :=
  fun _ _ _ => rfl

omit [DocumentStore σ] in
theorem owes_endRestore (view : View R) : (endRestore view).Owes t owedByRestore := by
  intro m c s hs
  cases t with
  | revision => rfl
  | view => exact .refl _
  | _ => exact hs

/-- A restore does not tell of the graph before its end, and then it tells everybody. -/
theorem informs_restoreSnapshot (snapshot : Snapshot R) (ht : t ≠ .progress) :
    (restoreSnapshot snapshot : Program R σ RestoreReport).Leads answer (Informs t) := by
  have hsave (report : RestoreReport) :
      (saveRestored report : Program R σ RestoreReport).Leads answer (Informs t) :=
    Program.closed_leads.saveRestored informs_saveNow report
  -- The revision changes on the way and nobody is told, so it cannot be followed step by step.
  by_cases hrevision : t = .revision
  · subst hrevision
    have hteaches : (restoreSnapshot snapshot : Program R σ RestoreReport).Leads answer
        (Teaches .revision) :=
      teaches_bind fun _ => teaches_bind fun _ => teaches_bind fun _ => teaches_bind fun _ =>
        teaches_bind fun report => teaches_owed owedByRestore
          (fun shown => ⟨_, rfl, hsave report⟩) (promises_endRestore _)
    exact fun w a w' hrun => (hteaches w a w' hrun).informs
  · have hsaving (f : Saving → Saving) (hf : ∀ s, (f s).status = s.status) :
        (Program.atomically (Edit.onSaving f) : Program R σ Unit).Leads answer (Informs t) :=
      informs_section (informs_onSaving hf)
    refine .bind (hsaving _ fun _ => rfl) fun _ =>
      .bind (Program.closed_leads.clearRemote trivial (hsaving _ fun _ => rfl)) fun cleared =>
        .bind (informs_section ?_) fun _ =>
          .bind (Program.closed_leads.replayNodes (fun _ => trivial) ?_ _ _) fun replay =>
            .bind (Program.closed_leads.replayConnections (fun _ => trivial) ?_ _ _ _) fun report =>
              informs_owed owedByRestore (fun shown => ⟨_, rfl, hsave report⟩) (owes_endRestore _)
    · exact .bind (informs_onGraph _ hrevision) fun _ => informs_taking Overlay.leaves_reset ht
    · exact fun _ _ => informs_section (informs_onGraph _ hrevision)
    · exact fun _ _ _ => informs_section (informs_onGraph _ hrevision)

theorem informs_restoreSaved (ht : t ≠ .progress) :
    (restoreSaved : Attempt R σ _).Leads answer (Informs t) :=
  Program.closed_leads.restoreSaved (fun _ => informs_restoreSnapshot _ ht) fun _ =>
    informs_section (informs_onSaving fun _ => rfl)

theorem informs_importText (text : String) (ht : t ≠ .progress) :
    (importText text : Attempt R σ RestoreReport).Leads answer (Informs t) :=
  Program.closed_leads.importText (fun _ => informs_restoreSnapshot _ ht) fun _ _ =>
    informs_section (informs_onSaving fun _ => rfl)

end

end Scalar

end Client

end NodeCanvas
