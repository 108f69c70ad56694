import NodeCanvas.Proofs.Noted
/-!
# Operations note their changes

`Client.Operation.notes`: every operation that does not load, save or restore the canvas as a whole
notes what it changes (`World.Noted`), and the only document that it may save is another one than
the canvas. Which operations these are says `Client.Upkeep`.
-/

namespace NodeCanvas

variable {R σ ε α β : Type}

/-- Documents other than the canvas have been saved, if any. -/
inductive Document.SavedAside [DocumentStore σ] : σ → σ → Prop where
  | refl (s : σ) : SavedAside s s
  | save {s s' s'' : σ} {key : String} {document : StoredDocument} (h : SavedAside s s')
      (hkey : key ≠ canvasKey) (hsave : DocumentStore.save s' key document = .ok s'') :
      SavedAside s s''

/-- Saves of other documents add up. -/
theorem Document.SavedAside.trans [DocumentStore σ] {s s' s'' : σ} (h : SavedAside s s')
    (h' : SavedAside s' s'') : SavedAside s s'' := by
  induction h' with
  | refl => exact h
  | save _ hkey hsave ih => exact .save ih hkey hsave

namespace World

variable [BEq R] [DocumentStore σ] {w w' : World R σ ε}

/-- What happened between two worlds has been noted. -/
structure Noted (w w' : World R σ ε) : Prop where
  moment : w'.moment = w.moment
  store : Document.SavedAside w.store w'.store
  canvas : ∃ told, w'.events = w.events ++ told ∧ w.canvas.Noted w.moment.now told w'.canvas

/-- It has, unless a restore was under way. -/
def Notes (w w' : World R σ ε) : Prop := w.canvas.saving.restoring = false → w.Noted w'

/-- Where the canvas stays there is nothing to note. -/
theorem noted_of_canvas (hcanvas : w'.canvas = w.canvas)
    (hmoment : w'.moment = w.moment) (hstore : Document.SavedAside w.store w'.store)
    {told : List (Event R)} (hevents : w'.events = w.events ++ told)
    (hunchanged : told.any (·.isChange) = false) (hunsaved : told.any (·.isSaved) = false) :
    w.Noted w' := by
  refine ⟨hmoment, hstore, told, hevents, ?_⟩
  rw [hcanvas]
  exact (Canvas.Kept.refl _).noted hunsaved hunchanged

/-- Events about other things may be told. -/
theorem notes_telling {event : Event R} (hunchanged : event.isChange = false)
    (hunsaved : event.isSaved = false) (w : World R σ ε) : w.Notes (w.telling event) := by
  intro _
  refine noted_of_canvas rfl rfl (.refl _) rfl ?_ ?_
  · simp [hunchanged]
  · simp [hunsaved]

/-- What is noted step by step is noted. -/
theorem Noted.trans [PartialEquivBEq R] {w'' : World R σ ε} (h : w.Noted w')
    (h' : w'.Noted w'') : w.Noted w'' := by
  obtain ⟨told, hevents, hcanvas⟩ := h.canvas
  obtain ⟨told', hevents', hcanvas'⟩ := h'.canvas
  refine ⟨h'.moment.trans h.moment, h.store.trans h'.store, told ++ told', ?_, ?_⟩
  · rw [hevents', hevents, List.append_assoc]
  · rw [h.moment] at hcanvas'
    exact hcanvas.trans hcanvas'

/-- Noting leaves the restore guard alone. -/
theorem Noted.restoring (h : w.Noted w') :
    w'.canvas.saving.restoring = w.canvas.saving.restoring := by
  obtain ⟨told, -, hcanvas⟩ := h.canvas
  exact hcanvas.restoring

instance lenient_notes [PartialEquivBEq R] : Lenient (Notes (R := R) (σ := σ) (ε := ε)) where
  same _ _ := noted_of_canvas rfl rfl (.refl _) (List.append_nil _).symm rfl rfl
  trans h h' hidle := (h hidle).trans (h' ((h hidle).restoring.trans hidle))
  drawing _ _ _ := noted_of_canvas rfl rfl (.refl _) (List.append_nil _).symm rfl rfl
  answered _ _ _ := noted_of_canvas rfl rfl (.refl _) (List.append_nil _).symm rfl rfl
  notified w _ _ := notes_telling rfl rfl w

/-- A section that notes, in a world. -/
theorem notes_after {edit : Edit R α} (h : edit.Notes) (w : World R σ ε) :
    w.Notes (w.after (edit w.moment w.canvas)) := by
  intro hidle
  exact ⟨rfl, .refl _, _, rfl, h w.moment w.canvas hidle⟩

theorem notes_section {answer : Answering R ε} {edit : Edit R α} (h : edit.Notes) :
    (Program.atomically edit : Program R σ α).Leads answer Notes :=
  Program.leads_atomically (notes_after h)

end World

namespace Client

open World Edit

variable [Scalar R] [PartialEquivBEq R] [DocumentStore σ] {answer : Answering R ε}

/-! ## Edits of the graph -/

/-- Deleting a node is noted. -/
theorem notes_deleteNode (node : NodeId) :
    (deleteNode node : Attempt R σ Unit).Leads answer Notes := by
  have hreports : (onGraph (·.removeNode node) : Edit R _).Reports (·.isSome) := by
    refine reports_onGraph fun g hnone => Graph.removeNode_of_none ?_
    exact Option.isNone_iff_eq_none.1 (Option.isSome_eq_false_iff.1 hnone)
  have hremove : Edit.Notes (R := R) (do
      let removed ← Edit.onGraph (·.removeNode node)
      if removed.isSome then
        Edit.onOverlay (·.clearNode node)
        Edit.graphChanged) := by
    refine hreports.notes (fun removed hnone => ?_) fun removed hsome => ?_
    · rw [hnone]
      exact notes_pure _
    · rw [hsome]
      exact (notes_onOverlay _).bind_marks fun _ => marks_graphChanged
  exact Program.closed_leads.unlessLocal (r := .deleteNode node) trivial (notes_section hremove)

/-- A connection that exists only here is always a change. -/
theorem notes_connectHere (connection : Connection) :
    (connectHere connection : Attempt R σ ConnectionId).Leads answer Notes := by
  refine Program.leads_atomically (notes_after (.bind (notes_read _) fun graph => ?_))
  split
  · exact notes_pure _
  · rename_i graph' changed hadded
    have hreports : (modify fun c => { c with graph := graph'.markLocalConnection connection.id } :
        Edit R Unit).Reports fun _ => true := by
      intro m c
      refine ⟨rfl, rfl, fun hnot => ?_⟩
      cases hnot
    refine hreports.notes (fun _ hnot => ?_) fun _ _ => ?_
    · cases hnot
    · exact marks_graphChanged.bind fun _ _ c => ⟨.refl c, rfl⟩

theorem notes_disconnect (connection : ConnectionId) :
    (disconnect connection : Attempt R σ Unit).Leads answer Notes :=
  Program.closed_leads.disconnect trivial
    (notes_section (notes_ifChanged (reports_removal fun _ => Graph.removeConnection_of_none)))

theorem notes_clearCanvas : (clearCanvas : Attempt R σ Unit).Leads answer Notes :=
  .bind (Attempt.leads_ask _ _) fun _ => Attempt.leads_atomically
    (notes_after (.bind (notes_onOverlay _) fun _ => notes_clear))

/-! ## The view -/

/-- The section schedules a save and answers something, or keeps everything and does not. Of a
change it does not tell yet. -/
def MarksView (body : Edit R (Option β)) : Prop :=
  ∀ (m : Moment) (c : Canvas R), c.saving.restoring = false →
    (body m c).events.any (·.isChange) = false ∧ (body m c).events.any (·.isSaved) = false ∧
      ((body m c).value = none ∧ c.Kept (body m c).canvas ∨
        ∃ b, (body m c).value = some b ∧ c.Scheduled m.now (body m c).canvas)

omit [PartialEquivBEq R] in
/-- A reported change marks the canvas. -/
theorem marksView_of_reports {change : Edit R Bool} {follow : Bool → Edit R (Option β)}
    {answered : View R → β} (h : change.Reports id) (hunchanged : follow false = pure none)
    (hchanged : follow true = do
      markDirty
      return some (answered (← Edit.read (·.viewport.view)))) :
    MarksView (change >>= follow) := by
  intro m c hidle
  obtain ⟨hnone, hsaving, hsame⟩ := h m c
  have hidle' : (change m c).canvas.saving.restoring = false := by rw [hsaving, hidle]
  have houtcome : (change >>= follow) m c =
      follow (change m c).value m (change m c).canvas := by
    change Outcome.mk _ _ ((change m c).events ++ _) = _
    rw [hnone]
    rfl
  rw [houtcome]
  cases hanswer : (change m c).value with
  | false =>
    rw [hunchanged]
    exact ⟨rfl, rfl, .inl ⟨rfl, hsame hanswer⟩⟩
  | true =>
    obtain ⟨hscheduled, hsilent, hunsaved⟩ := markDirty_of_idle m hidle'
    have hevents (p : Event R → Bool)
        (hp : (markDirty m (change m c).canvas).events.any p = false) :
        (follow true m (change m c).canvas).events.any p = false := by
      rw [hchanged]
      exact List.any_append.trans (by rw [hp]; rfl)
    refine ⟨hevents _ hsilent, hevents _ hunsaved,
      .inr ⟨answered (markDirty m (change m c).canvas).canvas.viewport.view, ?_, ?_⟩⟩
    · rw [hchanged]
      rfl
    · rw [hchanged]
      exact hscheduled.of_saving (by rw [hsaving]) (by rw [hsaving])

/-- Whatever moves the view marks the canvas. -/
theorem marksView_of_moves {shown : β → View R} {body : Edit R (Option β)}
    (h : body.Moves shown) : MarksView body := by
  induction h with
  | still => exact fun m c _ => ⟨rfl, rfl, .inl ⟨rfl, .refl c⟩⟩
  | move motion =>
    exact marksView_of_reports (reports_onViewport fun _ => Motion.alike_apply) rfl rfl
  | look f _ ih => exact fun m c hidle => ih (f c) m c hidle

/-- A change of the view is told right after the section that makes it. -/
theorem notes_viewChange {shown : β → View R} {body : Edit R (Option β)}
    {next : Option β → Program R σ Bool} (hbody : body.Moves shown) (hnone : next none = pure false)
    (hsome : ∀ b, ∃ rest, next (some b) = (Program.tell (.viewChanged (shown b)) >>= rest) ∧
      (rest ()).Leads answer Notes) :
    (.atomically body >>= next : Program R σ Bool).Leads answer Notes := by
  intro w a w' hrun hidle
  obtain ⟨answered, w₁, hfirst, hrest⟩ := Program.exists_of_run_bind hrun
  cases hfirst
  obtain ⟨hunchanged, hunsaved, ⟨hvalue, hkept⟩ | ⟨b, hvalue, hscheduled⟩⟩ :=
    marksView_of_moves hbody w.moment w.canvas hidle
  · rw [hvalue, hnone] at hrest
    have hnoted : w.Noted (w.after (body w.moment w.canvas)) :=
      ⟨rfl, .refl _, _, rfl, hkept.noted hunsaved hunchanged⟩
    cases hrest
    exact hnoted
  · -- the section marks the canvas but does not tell; only together with the event after it is the
    -- change noted
    rw [hvalue] at hrest
    obtain ⟨rest, hnext, hrest'⟩ := hsome b
    rw [hnext] at hrest
    obtain ⟨_, w₂, htell, hlast⟩ := Program.exists_of_run_bind hrest
    cases htell
    have hnoted :
        w.Noted ((w.after (body w.moment w.canvas)).telling (.viewChanged (shown b))) := by
      refine ⟨rfl, .refl _, (body w.moment w.canvas).events ++ [.viewChanged (shown b)], ?_, ?_⟩
      · exact List.append_assoc ..
      · refine hscheduled.noted ?_ ?_
        · rw [List.any_append, hunsaved]
          rfl
        · rw [List.any_append, hunchanged]
          rfl
    exact hnoted.trans (hrest' _ _ _ hlast (hscheduled.restoring.trans hidle))

/-! ## Other operations -/

theorem notes_setParadigm (paradigm : String) :
    (setParadigm paradigm : Attempt R σ Unit).Leads answer Notes := by
  refine .bind (Attempt.leads_ask _ _) fun answered =>
    .bind (Attempt.leads_atomically (notes_after ?_)) fun changed => ?_
  · exact .bind (notes_read _) fun _ =>
      .bind (notes_modify fun _ => ⟨rfl, .refl _, rfl, rfl, rfl⟩) fun _ => notes_pure _
  · split
    · exact Attempt.leads_tell (notes_telling rfl rfl)
    · exact Attempt.leads_pure _

theorem notes_exportProject : (exportProject : Program R σ (ProjectFile R)).Leads answer Notes :=
  Program.leads_atomically (notes_after (.bind (notes_read _) fun _ =>
    .bind notes_moment fun _ => notes_pure _))

omit [PartialEquivBEq R] in
theorem notes_applyUiSettings (ui : UiSettings) :
    (Edit.modify (·.applyUiSettings ui) : Edit R Unit).Notes :=
  notes_modify fun _ => ⟨rfl, .refl _, rfl, rfl, rfl⟩

omit [Scalar R] [PartialEquivBEq R] in
/-- Other documents are saved aside. -/
theorem savedAside_save (s : σ) {key : String} (hkey : key ≠ canvasKey)
    (document : StoredDocument) : Document.SavedAside s (Document.save s key document).2 := by
  unfold Document.save
  cases hsave : DocumentStore.save s key document with
  | ok s' => exact .save (.refl s) hkey hsave
  | error cause => exact .refl s

theorem notes_saveUiSettings (ui : UiSettings) :
    (saveUiSettings ui : Attempt R σ Unit).Leads answer Notes := by
  refine .bind (Attempt.leads_atomically (notes_after notes_moment)) fun moment =>
    .bind (Attempt.leads_access fun w _ => ?_) fun _ => .bind (Attempt.leads_document _) fun _ =>
      Attempt.leads_atomically (notes_after (notes_applyUiSettings ui))
  exact noted_of_canvas rfl rfl (savedAside_save w.store (by decide) _)
    (List.append_nil _).symm rfl rfl

/-! ## All operations -/

/-- What an operation means for saving: it notes what it changes, or it saves the canvas as it is or
as it is restored, or may do so, or it replaces the canvas by that of the backend. -/
inductive Upkeep where
  | noting
  | filing
  | loading
  deriving DecidableEq

def Operation.upkeep : Operation R → Upkeep
  | .call .loadFromBackend => .loading
  | .saveNow | .restoreSnapshot _ | .restoreSaved | .importText _ | .pollTimers _ => .filing
  | _ => .noting

omit [Scalar R] in
/-- Only loading from the backend is a load. -/
theorem Operation.eq_load_of_upkeep {op : Operation R} (h : op.upkeep = .loading) :
    op = .call .loadFromBackend := by
  cases op with
  | call c =>
    cases c with
    | loadFromBackend => rfl
    | _ => cases h
  | _ => cases h

/-- **An operation that neither loads nor saves notes what it changes.** -/
theorem Operation.notes {op : Operation R} (h : op.upkeep = .noting) :
    (op.program : Program R σ op.Result).Leads answer Notes := by
  have hclosed : Program.Closed (σ := σ) _ (Program.Leads answer Notes) := Program.closed_leads
  have htell : (Program.tell .debugSessionsChanged : Program R σ Unit).Leads answer Notes :=
    Program.leads_tell (notes_telling rfl rfl)
  have hordinary {op : Operation R} : op.isOrdinary = true →
      (op.program : Program R σ op.Result).Leads answer Notes :=
    hclosed.ordinary (fun _ _ => trivial) htell (fun f => notes_section (notes_onDebug f))
      (fun _ _ => notes_section (.bind (.bind notes_moment fun _ => notes_pure _) fun _ =>
        notes_applyDebugStep _ _ _))
      fun _ => notes_section (notes_applyUiSettings _)
  have hforget (session : SessionId) : (Program.atomically
      (Edit.apply (·.removeDebugSession session)) : Program R σ Bool).Leads answer Notes :=
    notes_section (notes_removeDebugSession session)
  cases op with
  | call c =>
    cases c with
    | loadFromBackend => cases h
    | createNode | startExecution | stepExecution | searchPattern | refactorPattern | exportCode
    | createSession | startSession | stepSession | runAllSessions => exact hordinary rfl
    | moveNode | updateParameters | updateMetadata | updatePorts =>
      exact hclosed.patching (fun _ => trivial)
        (fun node patch => notes_section (notes_patchNode node patch)) rfl
    | deleteNode node => exact notes_deleteNode node
    | connect source sourcePort target targetPort =>
      exact hclosed.connect (fun _ => trivial) notes_connectHere
    | disconnect connection => exact notes_disconnect connection
    | clearCanvas => exact notes_clearCanvas
    | setParadigm paradigm => exact notes_setParadigm paradigm
    | stopExecution =>
      exact Attempt.Leads.bind (Attempt.leads_ask _ _) fun _ =>
        .bind (Attempt.leads_atomically (notes_after (notes_onOverlay _))) fun _ =>
          .bind (Attempt.leads_tell (notes_telling rfl rfl)) fun _ => Attempt.leads_pure _
    | stopSession session => exact hclosed.stopSession htell (fun _ => trivial) hforget
  | saveNow | restoreSnapshot | restoreSaved | importText | pollTimers => cases h
  | setSurface width height =>
    refine Program.leads_atomically (notes_after ?_)
    exact notes_apply fun _ => ⟨rfl, .refl _, rfl, rfl, rfl⟩
  | setZoom | zoomIn | zoomOut | panBy | fitToContent =>
    exact hclosed.gesture (fun _ _ => trivial) (fun _ _ _ => notes_viewChange) rfl
  | stopAllSessions => exact hclosed.stopAllSessions htell (fun _ => trivial) hforget
  | refreshSessions | loadUiSettings => exact hordinary rfl
  | exportProject => exact notes_exportProject
  | exportText => exact .bind notes_exportProject fun _ => Program.leads_pure _
  | saveUiSettings ui => exact notes_saveUiSettings ui
  | applyPush push =>
    refine .bind (Program.leads_atomically (notes_after (notes_applySection push)))
      fun applied => ?_
    split
    · exact Program.leads_pure _
    · exact Program.leads_abort _
  | pushesClosed reason =>
    exact .bind (Program.leads_atomically (notes_after (notes_owed fun _ => 0))) fun _ =>
      Program.leads_tell (notes_telling rfl rfl)

end Client

end NodeCanvas
