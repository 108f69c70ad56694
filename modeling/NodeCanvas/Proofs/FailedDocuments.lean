import NodeCanvas.Client.Restore
import NodeCanvas.Proofs.Leads
import NodeCanvas.Proofs.Replay
import NodeCanvas.Session
/-!
# Document operations that fail

Reading a project file, restoring the saved canvas, and reading or writing the user's settings can
fail: the store refuses, or a document is none. They fail before anything is asked of the backend
(`Program.Alone`), and all but one before anything is changed. Restoring reads two documents one
after the other and takes over the name in the first before it knows what is in the second.
-/

namespace NodeCanvas

variable {R σ ε α β : Type}

/-! ## Runs without requests -/

/-- The program ends with a value and in a world, and asks nothing of the backend on the way. -/
inductive Program.Alone : {α : Type} → Program R σ α → World R σ ε → α → World R σ ε → Prop where
  | done {α : Type} (value : α) (w : World R σ ε) : Alone (.done value) w value w
  | edit {α β : Type} {body : Edit R β} {next : β → Program R σ α} {w w' : World R σ ε} {a : α}
      (h : Alone (next (body w.moment w.canvas).value) (w.after (body w.moment w.canvas)) a w') :
      Alone (.edit body next) w a w'
  | announce {α : Type} {event : Event R} {next : Program R σ α} {w w' : World R σ ε} {a : α}
      (h : Alone next (w.telling event) a w') : Alone (.announce event next) w a w'
  | draw {α β : Type} {body : Drawing β} {next : β → Program R σ α} {w w' : World R σ ε} {a : α}
      (h : Alone (next (body.run w.ids).1) { w with ids := (body.run w.ids).2 } a w') :
      Alone (.draw body next) w a w'
  | store {α β : Type} {body : σ → β × σ} {next : β → Program R σ α} {w w' : World R σ ε} {a : α}
      (h : Alone (next (body w.store).1) { w with store := (body w.store).2 } a w') :
      Alone (.store body next) w a w'

namespace Program.Alone

variable {program : Program R σ α} {w w' w'' : World R σ ε} {a : α} {b : β}

/-- How requests are answered does not matter. -/
theorem runWith (h : program.Alone w a w') (handle : Handler R σ ε) :
    program.runWith handle w = .ok (a, w') := by
  induction h with
  | done value w => rfl
  | edit h ih => exact ih
  | announce h ih => exact ih
  | draw h ih => exact ih
  | store h ih => exact ih

theorem bind (h : program.Alone w a w') {f : α → Program R σ β} (hf : (f a).Alone w' b w'') :
    (program.bind f).Alone w b w'' := by
  induction h with
  | done value w => exact hf
  | edit h ih => exact .edit (ih hf)
  | announce h ih => exact .announce (ih hf)
  | draw h ih => exact .draw (ih hf)
  | store h ih => exact .store (ih hf)

end Program.Alone

namespace Attempt

/-- The attempt ends with a value or a failure, and asks nothing of the backend on the way. -/
def Alone (attempt : Attempt R σ α) (w : World R σ ε) (result : Except ClientError α)
    (w' : World R σ ε) : Prop :=
  Program.Alone attempt.run w result w'

/-- If the attempt fails, it asks nothing of the backend, and leaves this world. -/
def FailsTo (attempt : Attempt R σ α) (w w' : World R σ ε) : Prop :=
  ∀ (handle : Handler R σ ε) (error : ClientError) (after : World R σ ε),
    attempt.run.runWith handle w = .ok (.error error, after) →
      attempt.Alone w (.error error) after ∧ after = w'

variable {attempt : Attempt R σ α} {f : α → Attempt R σ β} {w w' w'' : World R σ ε} {a : α}

theorem alone_consult {body : σ → α} :
    (consult body : Attempt R σ α).Alone w (.ok (body w.store)) w :=
  .store (.done _ _)

theorem alone_atomically {body : Edit R α} :
    (atomically body : Attempt R σ α).Alone w (.ok (body w.moment w.canvas).value)
      (w.after (body w.moment w.canvas)) :=
  .edit (.done _ _)

/-- What can fail is what follows. -/
theorem Alone.failsTo_bind (h : attempt.Alone w (.ok a) w') (hf : (f a).FailsTo w' w'') :
    (attempt >>= f).FailsTo w w'' := by
  intro handle error after hrun
  obtain ⟨result, middle, hfirst, hrest⟩ := Program.exists_of_run_bind hrun
  cases (h.runWith handle).symm.trans hfirst
  obtain ⟨halone, hafter⟩ := hf handle error after hrest
  exact ⟨Program.Alone.bind h halone, hafter⟩

theorem failsTo_throw (error : ClientError) (w : World R σ ε) :
    (throw error : Attempt R σ α).FailsTo w w := by
  intro handle error' after hrun
  cases hrun
  exact ⟨.done _ _, rfl⟩

theorem always_ne_error {program : Program R σ α} {handle : Handler R σ ε} {error : ClientError} :
    (always program).run.runWith handle w ≠ .ok (.error error, w') := by
  intro hrun
  obtain ⟨a, middle, -, hrest⟩ := Program.exists_of_run_bind hrun
  cases hrest

theorem failsTo_always (program : Program R σ α) (w w' : World R σ ε) :
    (always program).FailsTo w w' := by
  intro handle error after hrun
  exact (always_ne_error hrun).elim

theorem failsTo_always_map (program : Program R σ α) (g : α → β) (w w' : World R σ ε) :
    (always program >>= fun a => pure (g a)).FailsTo w w' := by
  intro handle error after hrun
  obtain ⟨result, middle, hfirst, hrest⟩ := Program.exists_of_run_bind hrun
  cases result with
  | error error => exact (always_ne_error hfirst).elim
  | ok a => cases hrest

theorem failsTo_pure (a : α) (w w' : World R σ ε) : (pure a : Attempt R σ α).FailsTo w w' := by
  intro handle error after hrun
  cases hrun

/-- A result about documents that is a failure is one at once. -/
theorem failsTo_document_bind {result : Except DocumentError α}
    (h : ∀ value, result = .ok value → (f value).FailsTo w w')
    (hsame : ∀ cause, result = .error cause → w = w') :
    (document result >>= f).FailsTo w w' := by
  cases result with
  | ok value => exact Alone.failsTo_bind (.done _ _) (h value rfl)
  | error cause =>
    intro handle error after hrun
    cases hrun
    exact ⟨.done _ _, hsame cause rfl⟩

end Attempt

/-! ## Failures that leave nothing behind -/

section

variable [Scalar R]

theorem Import.ids_of_project_error {value : Json} {ids : IdSource} {cause : DocumentShapeError}
    (h : ((project value : Drawing (Except _ (ImportedProject R))).run ids).1 = .error cause) :
    ((project value : Drawing (Except _ (ImportedProject R))).run ids).2 = ids := by
  unfold project at h ⊢
  cases value with
  | object root =>
    dsimp only at h ⊢
    cases hstate : stateFields root with
    | error cause => rfl
    | ok state =>
      rw [hstate] at h
      cases h
  | null | bool _ | number _ | string _ | array _ => rfl

theorem Document.ids_of_decodeSnapshot?_error {document : Option StoredDocument} {ids : IdSource}
    {cause : DocumentError}
    (h : ((decodeSnapshot? document : Drawing (Except _ (Option (Snapshot R)))).run ids).1 =
      .error cause) :
    ((decodeSnapshot? document : Drawing (Except _ (Option (Snapshot R)))).run ids).2 = ids := by
  cases document with
  | none => rfl
  | some document =>
    have hbody : ((decodeSnapshot document.body : Drawing (Except _ (Snapshot R))).run ids).1 =
        .error cause := by
      change (((decodeSnapshot document.body : Drawing (Except _ (Snapshot R))).run ids).1.map
        some) = _ at h
      cases hread :
          ((decodeSnapshot document.body : Drawing (Except _ (Snapshot R))).run ids).1 with
      | error cause' =>
        rw [hread] at h
        cases h
        rfl
      | ok snapshot =>
        rw [hread] at h
        cases h
    change ((decodeSnapshot document.body : Drawing (Except _ (Snapshot R))).run ids).2 = ids
    unfold decodeSnapshot at hbody ⊢
    cases hexact : (ofJson? document.body : Option (Snapshot R)) with
    | some snapshot => rfl
    | none =>
      rw [hexact] at hbody
      dsimp only at hbody ⊢
      cases hfields : document.body with
      | object fields =>
        rw [hfields] at hbody
        cases hbody
      | null | bool _ | number _ | string _ | array _ => rfl

omit [Scalar R] in
theorem Document.store_of_save_error [DocumentStore σ] {store : σ} {key : String}
    {document : StoredDocument} {cause : DocumentError}
    (h : (save store key document).1 = .error cause) : (save store key document).2 = store := by
  unfold save at h ⊢
  cases hsave : DocumentStore.save store key document with
  | error cause => rfl
  | ok saved =>
    rw [hsave] at h
    cases h

end

namespace Client

variable [DocumentStore σ] (w : World R σ ε)

theorem failsTo_importText [Scalar R] (text : String) :
    (importText text : Attempt R σ RestoreReport).FailsTo w w := by
  rw [importText]
  split
  · exact Attempt.failsTo_throw _ w
  · rename_i value _
    refine Attempt.Alone.failsTo_bind (.draw (.done _ _)) ?_
    cases himport :
        ((Import.project value : Drawing (Except _ (ImportedProject R))).run w.ids).1 with
    | error cause =>
      rw [Import.ids_of_project_error himport]
      exact Attempt.failsTo_throw _ w
    | ok imported =>
      exact Attempt.Alone.failsTo_bind Attempt.alone_atomically (Attempt.failsTo_always _ _ _)

theorem failsTo_loadUiSettings (settings : Settings) :
    (loadUiSettings settings : Attempt R σ UiSettings).FailsTo w w := by
  refine Attempt.Alone.failsTo_bind Attempt.alone_consult ?_
  refine Attempt.failsTo_document_bind (fun document _ => ?_) fun _ _ => rfl
  refine Attempt.failsTo_document_bind (fun loaded _ => ?_) fun _ _ => rfl
  exact Attempt.Alone.failsTo_bind Attempt.alone_atomically (Attempt.failsTo_pure _ _ _)

theorem failsTo_saveUiSettings (ui : UiSettings) :
    (saveUiSettings ui : Attempt R σ Unit).FailsTo w w := by
  have hmoment : w.after (Edit.moment w.moment w.canvas) = w := by
    simp [World.after, Edit.moment]
  refine Attempt.Alone.failsTo_bind Attempt.alone_atomically ?_
  rw [hmoment]
  refine Attempt.Alone.failsTo_bind (.store (.done _ _)) ?_
  refine Attempt.failsTo_document_bind (fun _ _ => ?_) fun cause hcause => ?_
  · exact Attempt.failsTo_always _ _ _
  · rw [Document.store_of_save_error hcause]

end Client

/-! ## The name of the project -/

/-- The canvas with the name that the stored project has, if there is one. -/
def World.withStoredName [DocumentStore σ] (w : World R σ ε) : World R σ ε :=
  match Document.loadProject w.store with
  | .ok (some project) =>
    { w with canvas :=
        { w.canvas with saving := { w.canvas.saving with projectName := project.name } } }
  | _ => w

/-- A stored project leaves no trace only if it has the name that the canvas has anyway. -/
theorem World.withStoredName_eq_iff [DocumentStore σ] (w : World R σ ε) :
    w.withStoredName = w ↔ ∀ project, Document.loadProject w.store = .ok (some project) →
      project.name = w.canvas.saving.projectName := by
  unfold withStoredName
  split
  · rename_i project hproject
    constructor
    · intro hsame project' hproject'
      cases hproject.symm.trans hproject'
      exact congrArg (fun w => w.canvas.saving.projectName) hsame
    · intro hname
      rw [hname project hproject]
  · rename_i hnone
    refine iff_of_true rfl fun project hproject => (hnone project hproject).elim

namespace Client

variable [Scalar R] [DocumentStore σ] (w : World R σ ε)

/-- After the name, the rest of a restore changes nothing before it is sure to succeed. -/
theorem failsTo_restoreDocument : (restoreDocument : Attempt R σ _).FailsTo w w := by
  refine Attempt.Alone.failsTo_bind Attempt.alone_consult ?_
  refine Attempt.failsTo_document_bind (fun document _ => ?_) fun _ _ => rfl
  refine Attempt.Alone.failsTo_bind (.draw (.done _ _)) ?_
  refine Attempt.failsTo_document_bind (fun snapshot _ => ?_) fun cause hcause => ?_
  · cases snapshot with
    | none => exact Attempt.failsTo_pure _ _ _
    | some snapshot =>
      dsimp only
      split
      · exact Attempt.failsTo_pure _ _ _
      · exact Attempt.failsTo_always_map _ _ _ _
  · rw [Document.ids_of_decodeSnapshot?_error hcause]

theorem failsTo_restoreSaved : (restoreSaved : Attempt R σ _).FailsTo w w.withStoredName := by
  refine Attempt.Alone.failsTo_bind Attempt.alone_consult ?_
  refine Attempt.failsTo_document_bind (fun project hproject => ?_) fun cause hcause => ?_
  · cases project with
    | none =>
      have hsame : w.withStoredName = w := by
        rw [World.withStoredName, hproject]
      rw [hsame]
      exact failsTo_restoreDocument w
    | some project =>
      -- The name is taken over here, and what can still fail comes after it.
      have hnamed : w.after (Edit.onSaving (R := R)
          (fun s => { s with projectName := project.name }) w.moment w.canvas) =
            w.withStoredName := by
        rw [World.withStoredName, hproject]
        simp [World.after, Edit.onSaving, Edit.modify]
      refine Attempt.Alone.failsTo_bind Attempt.alone_atomically ?_
      rw [hnamed]
      exact failsTo_restoreDocument w.withStoredName
  · rw [World.withStoredName, hcause]

end Client

/-- **Document operations that fail** ask nothing of the backend. Reading a project file and reading
or writing the user's settings leave the world as it was, the canvas, the store and what was told
included. Restoring the saved canvas leaves it as it was too, but for the name of the stored
project, if that could be read; so it is as before exactly if no stored project has another name
than the canvas. -/
theorem failed_documents_iff [Scalar R] [DocumentStore σ] (w : World R σ ε) :
    (∀ text, (Client.importText text : Attempt R σ RestoreReport).FailsTo w w) ∧
      (∀ settings, (Client.loadUiSettings settings : Attempt R σ UiSettings).FailsTo w w) ∧
      (∀ ui, (Client.saveUiSettings ui : Attempt R σ Unit).FailsTo w w) ∧
      (Client.restoreSaved : Attempt R σ _).FailsTo w w.withStoredName ∧
      (w.withStoredName = w ↔ ∀ project, Document.loadProject w.store = .ok (some project) →
        project.name = w.canvas.saving.projectName) :=
  ⟨Client.failsTo_importText w, Client.failsTo_loadUiSettings w, Client.failsTo_saveUiSettings w,
    Client.failsTo_restoreSaved w, w.withStoredName_eq_iff⟩

/-! ## A canvas document that is none -/

/-- A store that takes nothing more, with a canvas and settings that cannot be read beside a project
of another name. -/
def spoiltStore : MemoryStore where
  documents := .ofList [(canvasKey, ⟨canvasVersion, ⟨0, 0⟩, .null⟩),
    (projectKey, ⟨projectVersion, ⟨0, 0⟩,
      .object [("name", .string "Other"), ("saved_at", .string "1970-01-01T00:00:00Z")]⟩),
    (uiSettingsKey, ⟨uiSettingsVersion, ⟨0, 0⟩, .null⟩)]
  readOnly := true

/-- A client before anything happened, over that store. -/
def spoiltWorld : LocalWorld Rat :=
  { (Session.initial {} .counting ⟨0, 0⟩ : Session Rat).world with store := spoiltStore }

theorem Attempt.FailsTo.exists_alone {attempt : Attempt Rat MemoryStore α} {w w' : LocalWorld Rat}
    (h : attempt.FailsTo w w')
    (hfails : (w.run attempt.run).toOption.map (·.1.isOk) = some false) :
    ∃ error, attempt.Alone w (.error error) w' := by
  cases hrun : w.run attempt.run with
  | error fault =>
    rw [hrun] at hfails
    cases hfails
  | ok ended =>
    obtain ⟨result, after⟩ := ended
    rw [hrun] at hfails
    cases result with
    | ok a => cases hfails
    | error error =>
      obtain ⟨halone, rfl⟩ := h Link.handle error after hrun
      exact ⟨error, halone⟩

theorem failed_documents_iff_spoilt :
    (∃ error, (Client.importText "[]" : Attempt Rat MemoryStore _).Alone spoiltWorld (.error error)
        spoiltWorld) ∧
      (∃ error, (Client.loadUiSettings {} : Attempt Rat MemoryStore _).Alone spoiltWorld
        (.error error) spoiltWorld) ∧
      (∃ error, (Client.saveUiSettings {} : Attempt Rat MemoryStore _).Alone spoiltWorld
        (.error error) spoiltWorld) ∧
      (∃ error, (Client.restoreSaved : Attempt Rat MemoryStore _).Alone spoiltWorld
        (.error error) spoiltWorld.withStoredName) ∧
      spoiltWorld.withStoredName ≠ spoiltWorld := by
  obtain ⟨himport, hload, hsave, hrestore, hiff⟩ := failed_documents_iff spoiltWorld
  refine ⟨(himport "[]").exists_alone ?_, (hload {}).exists_alone ?_, (hsave {}).exists_alone ?_,
    hrestore.exists_alone ?_, fun hsame => ?_⟩
  · decide +kernel
  · decide +kernel
  · decide +kernel
  · decide +kernel
  · have hother : (Document.loadProject spoiltStore).toOption.map (·.map (·.name)) =
        some (some "Other") := by decide +kernel
    cases hproject : Document.loadProject spoiltStore with
    | error cause =>
      rw [hproject] at hother
      cases hother
    | ok project =>
      rw [hproject] at hother
      obtain ⟨found, rfl, hname⟩ := Option.map_eq_some_iff.1 (Option.some.inj hother)
      have huntitled : found.name = "Untitled Project" := hiff.1 hsame found hproject
      exact absurd (hname.symm.trans huntitled) (by decide)

/-- **A restore that fails renames the canvas**: the project could be read, the canvas could not. -/
theorem failed_restore_renames_canvas :
    (spoiltWorld.run (Client.restoreSaved).run).toOption.map (fun ended =>
        (ended.1.isOk, ended.2.canvas.saving.projectName)) = some (false, "Other") ∧
      spoiltWorld.canvas.saving.projectName = "Untitled Project" := by
  decide +kernel

end NodeCanvas
