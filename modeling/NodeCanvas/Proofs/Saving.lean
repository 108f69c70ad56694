import NodeCanvas.Proofs.Bookkeeping
/-!
# Saves, polls, restores and loads

What the operations do that `Client.Operation.notes` leaves out. A save stores the canvas as it is and
takes back what is scheduled (`World.Saved`); a poll is a save if one is due, and otherwise only
ends what has expired (`Client.pollTimers_ends`). A restore ends with a save (`World.Filed`), and
the operations that may restore something do that or note what they change
(`Client.Operation.accounts`). Only a load does neither: it replaces the canvas and schedules nothing
(`World.Loaded`).
-/

namespace NodeCanvas

variable {R σ ε α β : Type}

/-! ## Stores -/

/-- A store that gives back what was saved in it, and keeps what is saved under different keys
apart. -/
class DocumentStore.Lawful (σ : Type) [DocumentStore σ] : Prop where
  load_save {s s' : σ} {key : String} {document : StoredDocument} :
    save s key document = .ok s' → load s' key = .ok (some document)
  load_save_of_ne {s s' : σ} {key other : String} {document : StoredDocument} :
    other ≠ key → save s key document = .ok s' → load s' other = load s other

theorem MemoryStore.save_eq_ok {s s' : MemoryStore} {key : String} {document : StoredDocument}
    (h : s.save key document = .ok s') : s'.documents = s.documents.insert key document := by
  unfold MemoryStore.save at h
  split at h
  · cases h
  · cases h
    rfl

instance MemoryStore.lawful : DocumentStore.Lawful MemoryStore where
  load_save {s s' key document} h := by
    change Except.ok (s'.documents.get? key) = _
    rw [save_eq_ok h, Table.get?_insert_self]
  load_save_of_ne {s s' key other document} hne h := by
    change Except.ok (s'.documents.get? other) = .ok (s.documents.get? other)
    rw [save_eq_ok h, Table.get?_insert, if_neg hne]

namespace Document

open DocumentStore (Lawful)

variable [DocumentStore σ] {s s' : σ}

theorem SavedAside.load_canvas [Lawful σ] (h : SavedAside s s') :
    DocumentStore.load s' canvasKey = DocumentStore.load s canvasKey := by
  induction h with
  | refl => rfl
  | save _ hkey hsave ih => exact (Lawful.load_save_of_ne hkey.symm hsave).trans ih

theorem save_eq_ok {key : String} {document : StoredDocument}
    (h : Document.save s key document = (.ok (), s')) :
    DocumentStore.save s key document = .ok s' := by
  unfold Document.save at h
  cases hsave : DocumentStore.save s key document with
  | ok s₁ =>
    rw [hsave] at h
    cases h
    rfl
  | error cause =>
    rw [hsave] at h
    cases h

/-- Once a snapshot is stored, the canvas is what was saved last. -/
theorem load_storeSnapshot [Scalar R] [Lawful σ] {snapshot : Snapshot R} {project : ProjectMeta}
    (h : storeSnapshot s snapshot project = (.ok (), s')) :
    DocumentStore.load s' canvasKey = .ok (some (ofSnapshot snapshot project.savedAt)) := by
  unfold storeSnapshot at h
  split at h
  · rename_i s₁ hcanvas
    rw [Lawful.load_save_of_ne (by decide) (save_eq_ok h)]
    exact Lawful.load_save (save_eq_ok hcanvas)
  · cases h

end Document

/-! ## Canvases -/

/-- How it is reported that a save came out in some way. -/
def SaveStatus.ofResult : Except DocumentError Unit → SaveStatus
  | .ok () => .saved
  | .error _ => .failed

theorem Event.isSaved_ofResult (result : Except DocumentError Unit) :
    (Event.saveStatusChanged (.ofResult result) : Event R).isSaved = result.isOk := by
  cases result <;> rfl

/-- The canvas once its snapshot is taken. -/
def Canvas.saveBegun (c : Canvas R) : Canvas R :=
  { c with saving := { c.saving with autosave := c.saving.autosave.cancel, status := .saving } }

/-- The canvas once it is reported how a save came out. -/
def Canvas.saveEnded (c : Canvas R) (result : Except DocumentError Unit) : Canvas R :=
  { c with saving := { c.saving with status := .ofResult result } }

namespace Autosave

/-- Nothing has happened for the whole span. -/
def IsDue (a : Autosave) (now : Instant) : Prop := ∃ dueAt, a.dueAt = some dueAt ∧ dueAt ≤ now

theorem takeDue_of_isDue {a : Autosave} {now : Instant} (h : a.IsDue now) :
    a.takeDue now = (a.cancel, true) := by
  obtain ⟨dueAt, hdue, hle⟩ := h
  rw [takeDue, hdue]
  exact if_pos hle

theorem takeDue_of_not_isDue {a : Autosave} {now : Instant} (h : ¬ a.IsDue now) :
    a.takeDue now = (a, false) := by
  unfold takeDue
  cases hdue : a.dueAt with
  | none => rfl
  | some dueAt => exact if_neg fun hle => h ⟨dueAt, hdue, hle⟩

end Autosave

/-! ## Worlds -/

namespace World

/-- The world at a later moment. Meanwhile identifiers may have been drawn elsewhere, and the far
side is whatever it is by then. -/
def later (w : World R σ ε) (moment : Moment) (ids : IdSource) (remote : ε) : World R σ ε :=
  { w with moment, ids, remote }

/-- Subscribers have been told something of a kind in between. -/
def Tells (w : World R σ ε) (kind : Event R → Bool) (w' : World R σ ε) : Prop :=
  ∃ told, w'.events = w.events ++ told ∧ told.any kind = true

theorem Tells.of_isPrefix {w w₁ w' : World R σ ε} {kind : Event R → Bool}
    (hevents : w.events <+: w₁.events) (h : w₁.Tells kind w') : w.Tells kind w' := by
  obtain ⟨earlier, hearlier⟩ := hevents
  obtain ⟨told, htold, hkind⟩ := h
  refine ⟨earlier ++ told, ?_, ?_⟩
  · rw [htold, ← hearlier, List.append_assoc]
  · rw [List.any_append, hkind, Bool.or_true]

theorem Tells.telling {w w' : World R σ ε} {kind : Event R → Bool} (h : w.Tells kind w')
    (event : Event R) : w.Tells kind (w'.telling event) := by
  obtain ⟨told, htold, hkind⟩ := h
  refine ⟨told ++ [event], ?_, ?_⟩
  · rw [World.telling, htold, List.append_assoc]
  · rw [List.any_append, hkind, Bool.true_or]

/-- Highlights and markers have ended where it was time. -/
def expired [Scalar R] (w : World R σ ε) (now : Instant) : World R σ ε :=
  { w with canvas := { w.canvas with overlay := (w.canvas.overlay.expire now).1 } }

variable [DocumentStore σ]

/-- The canvas of the first world was stored, with the given result, and nothing else happened. -/
structure Saved [Scalar R] (w : World R σ ε) (result : Except DocumentError Unit)
    (w' : World R σ ε) : Prop where
  store : Document.storeSnapshot w.store w.canvas.snapshot
    ⟨w.canvas.saving.projectName, w.moment.clock⟩ = (result, w'.store)
  canvas : w'.canvas = w.canvas.saveBegun.saveEnded result
  moment : w'.moment = w.moment
  events : ∃ told, w'.events = w.events ++ told ∧ told.any (·.isSaved) = result.isOk ∧
    told.any (·.isChange) = false

/-- What happened ended with a save: it failed, or the store has the canvas as it is. -/
structure Filed [Scalar R] (w w' : World R σ ε) : Prop where
  restoring : w'.canvas.saving.restoring = false
  pending : w'.canvas.saving.autosave.isPending = false
  status : w'.canvas.saving.status = .failed ∨
    w'.canvas.saving.status = .saved ∧ w.Tells (·.isSaved) w' ∧
      ∃ savedAt, DocumentStore.load w'.store canvasKey =
        .ok (some (Document.ofSnapshot w'.canvas.snapshot savedAt))

/-- The canvas may have been replaced, and nothing was done about saving. -/
structure Loaded (w w' : World R σ ε) : Prop where
  moment : w'.moment = w.moment
  store : w'.store = w.store
  autosave : w'.canvas.saving.autosave = w.canvas.saving.autosave
  status : w'.canvas.saving.status = w.canvas.saving.status
  restoring : w'.canvas.saving.restoring = w.canvas.saving.restoring

section Scalar

variable [Scalar R] {w w₁ w' : World R σ ε}

theorem Saved.filed [DocumentStore.Lawful σ] {result : Except DocumentError Unit}
    (h : w.Saved result w') (hidle : w.canvas.saving.restoring = false) : w.Filed w' := by
  obtain ⟨hstore, hcanvas, -, told, hevents, hsaved, -⟩ := h
  refine ⟨by rw [hcanvas]; exact hidle, by rw [hcanvas]; rfl, ?_⟩
  cases result with
  | error cause =>
    rw [hcanvas]
    exact .inl rfl
  | ok done =>
    rw [hcanvas]
    exact .inr ⟨rfl, ⟨told, hevents, hsaved⟩, _, Document.load_storeSnapshot hstore⟩

theorem Filed.of_isPrefix (hevents : w.events <+: w₁.events) (h : w₁.Filed w') : w.Filed w' where
  restoring := h.restoring
  pending := h.pending
  status := h.status.imp_right fun ⟨hsaved, htells, hstored⟩ =>
    ⟨hsaved, htells.of_isPrefix hevents, hstored⟩

theorem Filed.telling (h : w.Filed w') (event : Event R) : w.Filed (w'.telling event) where
  restoring := h.restoring
  pending := h.pending
  status := h.status.imp_right fun ⟨hsaved, htells, hstored⟩ =>
    ⟨hsaved, htells.telling event, hstored⟩

/-- What happened was noted or ended with a save, unless a restore was under way. -/
def Accounts (w w' : World R σ ε) : Prop :=
  w.canvas.saving.restoring = false → w.Noted w' ∨ w.Filed w'

theorem Noted.isPrefix (h : w.Noted w') : w.events <+: w'.events := by
  obtain ⟨told, hevents, -⟩ := h.canvas
  exact ⟨told, hevents.symm⟩

/-- What is noted is a change if one is told. -/
theorem Noted.scheduled (h : w.Noted w') (htells : w.Tells (·.isChange) w') :
    w.canvas.Scheduled w.moment.now w'.canvas := by
  obtain ⟨told, hevents, hnoted⟩ := h.canvas
  obtain ⟨told', hevents', hchange⟩ := htells
  rw [hevents] at hevents'
  rw [← List.append_cancel_left hevents'] at hchange
  exact hnoted.changed hchange

theorem Noted.kept (h : w.Noted w') (htells : ¬ w.Tells (·.isChange) w') :
    w.canvas.Kept w'.canvas := by
  obtain ⟨told, hevents, hnoted⟩ := h.canvas
  exact hnoted.unchanged (Bool.eq_false_iff.2 fun hchange => htells ⟨told, hevents, hchange⟩)

end Scalar

end World

/-! ## Programs -/

/-- **What a run does not touch**: what was told stays told, and no time passes. -/
theorem Program.keeps_of_run {answer : Answering R ε} {program : Program R σ α}
    {w w' : World R σ ε} {a : α} (hrun : program.runWith answer.handler w = .ok (a, w')) :
    w.events <+: w'.events ∧ w'.moment = w.moment := by
  induction program generalizing w with
  | done value =>
    cases hrun
    exact ⟨List.prefix_rfl, rfl⟩
  | edit body next ih =>
    obtain ⟨hevents, hmoment⟩ :=
      ih (body w.moment w.canvas).value (w := w.after (body w.moment w.canvas)) hrun
    exact ⟨(List.prefix_append ..).trans hevents, hmoment⟩
  | announce event next ih =>
    obtain ⟨hevents, hmoment⟩ := ih (w := w.telling event) hrun
    exact ⟨(List.prefix_append ..).trans hevents, hmoment⟩
  | draw body next ih =>
    exact ih (body.run w.ids).1 (w := { w with ids := (body.run w.ids).2 }) hrun
  | request call next ih =>
    exact ih (answer call w.remote).1 (w := { w with remote := (answer call w.remote).2 }) hrun
  | store body next ih =>
    exact ih (body w.store).1 (w := { w with store := (body w.store).2 }) hrun
  | abort fault => cases hrun

/-- What a run has told is what was told since it began. -/
theorem Program.tells_of_run {answer : Answering R ε} {program : Program R σ α}
    {w w' : World R σ ε} {a : α} {kind : Event R → Bool}
    (hrun : program.runWith answer.handler w = .ok (a, w'))
    (hkind : (w'.events.drop w.events.length).any kind = true) : w.Tells kind w' :=
  ⟨_, (List.prefix_iff_eq_append.1 (keeps_of_run hrun).1).symm, hkind⟩

namespace Client

open World

variable [Scalar R] [DocumentStore σ] {handle : Handler R σ ε} {answer : Answering R ε}
  {w : World R σ ε} {program : Program R σ α}

omit [Scalar R] in
/-- Taking the snapshot takes back what is scheduled, and of that only the status is told. -/
theorem beginSave_eq (m : Moment) (c : Canvas R) :
    ∃ told, beginSave m c = ⟨(c.snapshot, ⟨c.saving.projectName, m.clock⟩), c.saveBegun, told⟩ ∧
      told.any (·.isSaved) = false ∧ told.any (·.isChange) = false := by
  obtain ⟨graph, viewport, ⟨autosave, status, restoring, owed, name, tabs, ui⟩, overlay, debug,
    paradigm⟩ := c
  cases status <;> exact ⟨_, rfl, rfl, rfl⟩

omit [Scalar R] in
/-- While a save goes on the status is not yet how it came out, so that is told. -/
theorem endSave_eq (result : Except DocumentError Unit) (m : Moment) {c : Canvas R}
    (h : c.saving.status = .saving) :
    endSave result m c = ⟨(), c.saveEnded result, [.saveStatusChanged (.ofResult result)]⟩ := by
  obtain ⟨graph, viewport, ⟨autosave, status, restoring, owed, name, tabs, ui⟩, overlay, debug,
    paradigm⟩ := c
  cases h
  cases result <;> rfl

/-- **What a save comes to.** -/
theorem saveNow_ends_saved :
    (saveNow : Attempt R σ Unit).Ends handle w fun value w' =>
      ∃ result, value = result.mapError .document ∧ w.Saved result w' := by
  obtain ⟨told, hbegin, hunsaved, hunchanged⟩ := beginSave_eq w.moment w.canvas
  refine Attempt.ends_bind.2 (Attempt.ends_atomically.2 ?_)
  rw [hbegin]
  refine Attempt.ends_bind.2 (Attempt.ends_access.2 ?_)
  refine Attempt.ends_bind.2 (Attempt.ends_atomically.2 ?_)
  dsimp only [World.after]
  rw [endSave_eq _ _ rfl]
  refine Attempt.ends_document.2 ⟨_, rfl, rfl, rfl, rfl, _, List.append_assoc .., ?_, ?_⟩
  · rw [List.any_append, hunsaved, List.any_cons, Event.isSaved_ofResult]
    simp
  · rw [List.any_append, hunchanged]
    rfl

omit [Scalar R] [DocumentStore σ] in
/-- What is due is taken as long as no restore is under way. -/
theorem takeDue_eq (now : Instant) (m : Moment) {c : Canvas R}
    (h : c.saving.restoring = false) :
    takeDue now m c = ⟨(c.saving.autosave.takeDue now).2, { c with
      overlay := (c.overlay.expire now).1
      saving := { c.saving with autosave := (c.saving.autosave.takeDue now).1 } }, []⟩ := by
  obtain ⟨graph, viewport, ⟨autosave, status, restoring, owed, name, tabs, ui⟩, overlay, debug,
    paradigm⟩ := c
  cases h
  rfl

/-- **What a poll comes to**: a save if one is due, and otherwise nothing but what has expired. -/
theorem pollTimers_ends (now : Instant) (hidle : w.canvas.saving.restoring = false) :
    (pollTimers now : Program R σ Unit).Ends handle w fun _ w' =>
      (w.canvas.saving.autosave.IsDue now → ∃ result, (w.expired now).Saved result w') ∧
        (¬ w.canvas.saving.autosave.IsDue now → w' = w.expired now) := by
  refine Program.ends_bind.2 (Program.ends_atomically.2 ?_)
  rw [takeDue_eq now w.moment hidle]
  by_cases hdue : w.canvas.saving.autosave.IsDue now
  · rw [Autosave.takeDue_of_isDue hdue]
    refine Program.ends_bind.2 (saveNow_ends_saved.mono fun _ w' hsaved => Program.ends_pure.2 ?_)
    obtain ⟨result, -, hstore, hcanvas, hmoment, told, hevents, htold⟩ := hsaved
    refine ⟨fun _ => ⟨result, hstore, hcanvas, hmoment, told, ?_, htold⟩,
      fun hnot => absurd hdue hnot⟩
    rw [hevents, World.after, List.append_nil]
    rfl
  · rw [Autosave.takeDue_of_not_isDue hdue]
    refine Program.ends_pure.2 ⟨fun hnow => absurd hnow hdue, fun _ => ?_⟩
    rw [World.after, List.append_nil]
    rfl

/-- A poll when nothing is scheduled. -/
theorem pollTimers_ends_expired {d : Span} (now : Instant)
    (hidle : w.canvas.saving.restoring = false) (hnone : w.canvas.saving.autosave = ⟨d, none⟩) :
    (pollTimers now : Program R σ Unit).Ends handle w fun _ w' => w' = w.expired now := by
  refine (pollTimers_ends now hidle).mono fun _ w' hpoll => hpoll.2 ?_
  rintro ⟨dueAt, hdueAt, -⟩
  rw [hnone] at hdueAt
  cases hdueAt

omit [DocumentStore σ] in
/-- **What a load comes to**: if it fails, nothing; and nothing is ever done about saving. -/
theorem loadFromBackend_ends_loaded :
    (loadFromBackend : Attempt R σ Unit).Ends answer.handler w fun result w' =>
      w.Loaded w' ∧ (result.isOk = false → w'.canvas = w.canvas) := by
  refine Attempt.ends_bind.2 (Attempt.ends_ask.2 ?_)
  obtain ⟨reply, remote⟩ := answer .fetchCanvas w.remote
  cases reply with
  | error cause => exact ⟨⟨rfl, rfl, rfl, rfl, rfl⟩, fun _ => rfl⟩
  | ok load =>
    refine Attempt.ends_bind.2 (Attempt.ends_atomically.2 ?_)
    refine Attempt.ends_bind.2 (Attempt.ends_tell.2 (Attempt.ends_tell.2 ?_))
    refine ⟨⟨rfl, rfl, rfl, rfl, rfl⟩, fun hfailed => ?_⟩
    cases hfailed

/-! ## Restores -/

/-- What comes before the save does not matter. -/
theorem files_bind {f : α → Program R σ β}
    (hf : ∀ a, (f a).Leads answer Filed) : (program >>= f).Leads answer Filed := by
  intro w b w' hrun
  obtain ⟨a, w₁, hfirst, hrest⟩ := Program.exists_of_run_bind hrun
  exact (hf a w₁ b w' hrest).of_isPrefix (Program.keeps_of_run hfirst).1

variable [DocumentStore.Lawful σ]

/-- **A restore ends with a save**, whatever was under way before. -/
theorem files_restoreSnapshot (s : Snapshot R) :
    (restoreSnapshot s : Program R σ RestoreReport).Leads answer Filed := by
  -- the replay may do what it likes: only the last section and the save after it count
  refine files_bind fun _ => files_bind fun cleared => files_bind fun _ => files_bind fun replay =>
    files_bind fun report => Program.leads_of_ends fun w => ?_
  refine Program.ends_bind.2 (Program.ends_atomically.2 ?_)
  refine Program.ends_bind.2 (Program.ends_tell.2 ?_)
  refine Program.ends_bind.2 (Program.ends_tell.2 ?_)
  refine Program.ends_bind.2 (saveNow_ends_saved.mono fun value w' hsaved => ?_)
  obtain ⟨result, -, hsaved⟩ := hsaved
  have hfiled : w.Filed w' := by
    refine (hsaved.filed rfl).of_isPrefix ?_
    exact ((List.prefix_append ..).trans (List.prefix_append ..)).trans (List.prefix_append ..)
  dsimp only
  split
  · exact Program.ends_bind.2 (Program.ends_tell.2 (Program.ends_pure.2 (hfiled.telling _)))
  · exact Program.ends_pure.2 hfiled

variable [PartialEquivBEq R]

omit [DocumentStore.Lawful σ] in
/-- What is noted may come before. -/
theorem accounts_bind {attempt : Attempt R σ α} {f : α → Attempt R σ β}
    (h : attempt.Leads answer Notes) (hf : ∀ a, (f a).Leads answer Accounts) :
    (attempt >>= f).Leads answer Accounts := by
  intro w result w' hrun hidle
  obtain ⟨first, w₁, hfirst, hrest⟩ := Program.exists_of_run_bind hrun
  have hnoted : w.Noted w₁ := h w first w₁ hfirst hidle
  cases first with
  | error cause =>
    cases hrest
    exact .inl hnoted
  | ok a =>
    obtain hnoted' | hfiled := hf a w₁ result w' hrest (hnoted.restoring.trans hidle)
    · exact .inl (hnoted.trans hnoted')
    · exact .inr (hfiled.of_isPrefix hnoted.isPrefix)

omit [DocumentStore.Lawful σ] [PartialEquivBEq R] in
theorem accounts_of_notes (h : program.Leads answer Notes) : program.Leads answer Accounts :=
  fun w a w' hrun hidle => .inl (h w a w' hrun hidle)

omit [DocumentStore.Lawful σ] [PartialEquivBEq R] in
theorem accounts_of_files (h : program.Leads answer Filed) : program.Leads answer Accounts :=
  fun w a w' hrun _ => .inr (h w a w' hrun)

/-- What a restore of the saved canvas does once the project is known. -/
theorem accounts_restoreDocument :
    (restoreDocument : Attempt R σ (Option RestoreReport)).Leads answer Accounts := by
  refine accounts_bind (Attempt.leads_consult _) fun _ =>
    accounts_bind (Attempt.leads_document _) fun _ =>
      accounts_bind (Attempt.leads_fresh _) fun _ =>
        accounts_bind (Attempt.leads_document _) fun snapshot => ?_
  cases snapshot with
  | none => exact accounts_of_notes (Attempt.leads_pure none)
  | some snapshot =>
    dsimp only
    split
    · exact accounts_of_notes (Attempt.leads_pure none)
    · exact (Attempt.leads_always (accounts_of_files (files_restoreSnapshot _))).map some

theorem accounts_restoreSaved : (restoreSaved : Attempt R σ _).Leads answer Accounts := by
  refine accounts_bind (Attempt.leads_consult _) fun _ =>
    accounts_bind (Attempt.leads_document _) fun project => ?_
  dsimp only
  split
  · refine accounts_bind (Attempt.leads_atomically (notes_after ?_)) fun _ =>
      accounts_restoreDocument
    exact Edit.notes_modify fun _ => ⟨rfl, .refl _, rfl, rfl, rfl⟩
  · exact accounts_restoreDocument

theorem accounts_importText (text : String) :
    (importText text : Attempt R σ RestoreReport).Leads answer Accounts := by
  unfold importText
  split
  · exact accounts_of_notes (Attempt.leads_throw _)
  · refine accounts_bind (Attempt.leads_fresh _) fun imported => ?_
    split
    · exact accounts_of_notes (Attempt.leads_throw _)
    · refine accounts_bind (Attempt.leads_atomically (notes_after ?_)) fun _ => ?_
      · exact Edit.notes_modify fun _ => ⟨rfl, .refl _, rfl, rfl, rfl⟩
      · exact Attempt.leads_always (accounts_of_files (files_restoreSnapshot _))

omit [PartialEquivBEq R] in
theorem accounts_pollTimers (now : Instant) :
    (pollTimers now : Program R σ Unit).Leads answer Accounts := by
  intro w a w' hrun hidle
  obtain ⟨hdue, hkept⟩ := (Program.ends_iff_of_run hrun).1 (pollTimers_ends now hidle)
  by_cases hnow : w.canvas.saving.autosave.IsDue now
  · obtain ⟨result, hsaved⟩ := hdue hnow
    have hsame : w.events <+: (w.expired now).events := List.prefix_rfl
    exact .inr ((hsaved.filed hidle).of_isPrefix hsame)
  · rw [hkept hnow]
    exact .inl ⟨rfl, .refl _, [], (List.append_nil _).symm,
      Canvas.Kept.noted ⟨rfl, .refl _, rfl, rfl, rfl⟩ rfl rfl⟩

/-! ## All operations -/

/-- **An operation that may save does so in the end**, or notes what it changes. -/
theorem Operation.accounts {op : Operation R} (h : op.upkeep = .filing) :
    (op.program : Program R σ op.Result).Leads answer Accounts := by
  cases op with
  | saveNow =>
    intro w result w' hrun hidle
    obtain ⟨result, -, hsaved⟩ := (Program.ends_iff_of_run hrun).1 saveNow_ends_saved
    exact .inr (hsaved.filed hidle)
  | restoreSnapshot s => exact accounts_of_files (files_restoreSnapshot s)
  | restoreSaved => exact accounts_restoreSaved
  | importText text => exact accounts_importText text
  | pollTimers now => exact accounts_pollTimers now
  | call c => cases c <;> cases h
  | _ => cases h

end Client

end NodeCanvas
