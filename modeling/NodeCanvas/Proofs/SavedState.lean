import NodeCanvas.Proofs.Comparison
import NodeCanvas.Proofs.Saving
import NodeCanvas.Proofs.Worlds
/-!
# What it means that the canvas is saved

Operations run one after the other, and in between time passes and the far side changes:
`World.History`. Throughout, a save is pending exactly while the status says so, and as long as the
status is that the canvas is saved, the store has it as it is, unless it was loaded meanwhile
(`World.History.accurate`).

A view that compares as equal takes the place of the other without a notice, so of a zero in the
view the store may have the other sign. Everything else is the same, and the documents compare as
equal (`saved_document_is_current`).
-/

namespace NodeCanvas

variable {R σ ε α : Type}

/-! ## Documents that compare as equal -/

namespace Json

theorem beqFields_insertEntry {name : String} {a b : Json} (hvalue : beq a b = true)
    {as bs : List (String × Json)} (h : beqFields as bs = true) :
    beqFields (Table.insertEntry name a as) (Table.insertEntry name b bs) = true := by
  induction as generalizing bs with
  | nil =>
    cases bs with
    | nil => simp [Table.insertEntry, beqFields, hvalue]
    | cons => cases h
  | cons head as ih =>
    cases bs with
    | nil => cases h
    | cons head' bs =>
      rw [beqFields, Bool.and_eq_true, Bool.and_eq_true] at h
      obtain ⟨⟨hkey, hhead⟩, htail⟩ := h
      rw [Table.insertEntry, Table.insertEntry, eq_of_beq hkey]
      split
      · simp [beqFields, hvalue, hhead, htail]
      · split
        · simp [beqFields, hvalue, htail]
        · simp [beqFields, hhead, ih htail]

theorem beqFields_ofList {as bs : List (String × Json)} (h : beqFields as bs = true) :
    beqFields (Table.ofList as).entries (Table.ofList bs).entries = true := by
  -- by induction on the fields, with any two tables to start from that compare as equal
  have hfold : ∀ (as bs : List (String × Json)) (s t : Table Json), beqFields as bs = true →
      beqFields s.entries t.entries = true →
      beqFields (as.foldl (fun t e => t.insert e.1 e.2) s).entries
        (bs.foldl (fun t e => t.insert e.1 e.2) t).entries = true := by
    intro as
    induction as with
    | nil =>
      intro bs s t h hst
      cases bs with
      | nil => exact hst
      | cons => cases h
    | cons head as ih =>
      intro bs s t h hst
      cases bs with
      | nil => cases h
      | cons head' bs =>
        rw [beqFields, Bool.and_eq_true, Bool.and_eq_true] at h
        obtain ⟨⟨hkey, hhead⟩, htail⟩ := h
        refine ih bs _ _ htail ?_
        dsimp only
        rw [eq_of_beq hkey]
        exact beqFields_insertEntry hhead hst
  exact hfold as bs .empty .empty h rfl

mutual

/-- Ordering the fields respects comparison. -/
theorem canonical_beq : ∀ {a b : Json}, beq a b = true → beq a.canonical b.canonical = true
  | .null, .null, _ => rfl
  | .bool _, .bool _, h => h
  | .number _, .number _, h => h
  | .string _, .string _, h => h
  | .array as, .array _, h => canonicalItems_beq as h
  | .object as, .object _, h => beqFields_ofList (canonicalFields_beq as h)

theorem canonicalItems_beq : ∀ (as : List Json) {bs : List Json},
    beqItems as bs = true → beqItems (canonicalItems as) (canonicalItems bs) = true
  | [], [], _ => rfl
  | a :: as, b :: bs, h => by
    rw [beqItems, Bool.and_eq_true] at h
    rw [canonicalItems, canonicalItems, beqItems, canonical_beq h.1, canonicalItems_beq as h.2]
    rfl

theorem canonicalFields_beq : ∀ (as : List (String × Json)) {bs : List (String × Json)},
    beqFields as bs = true → beqFields (canonicalFields as) (canonicalFields bs) = true
  | [], [], _ => rfl
  | (k, a) :: as, (l, b) :: bs, h => by
    rw [beqFields, Bool.and_eq_true, Bool.and_eq_true] at h
    rw [canonicalFields, canonicalFields, beqFields, h.1.1, canonical_beq h.1.2,
      canonicalFields_beq as h.2]
    rfl

end

theorem ofFloat_beq {x y : Float} (h : (x == y) = true) : (ofFloat x == ofFloat y) = true := by
  obtain ⟨-, -, rfl | ⟨rfl, rfl⟩ | ⟨rfl, rfl⟩⟩ := Float.beq_iff_ne_nan_and_eq.1 h
  · exact BEq.rfl
  · decide +kernel
  · decide +kernel

end Json

theorem View.toJson_beq {v v' : View Float} (h : v.Alike v') : (toJson v == toJson v') = true := by
  obtain rfl | h := h
  · exact BEq.rfl
  · obtain ⟨hzoom, hpanX, hpanY⟩ := View.beq_iff.1 h
    have hnumber {x y : Float} (hxy : (x == y) = true) :
        Json.beq (Scalar.toJson x) (Scalar.toJson y) = true := Json.ofFloat_beq hxy
    change Json.beqFields [("zoom", Scalar.toJson v.zoom), ("pan_x", Scalar.toJson v.panX),
      ("pan_y", Scalar.toJson v.panY)] [("zoom", Scalar.toJson v'.zoom),
      ("pan_x", Scalar.toJson v'.panX), ("pan_y", Scalar.toJson v'.panY)] = true
    simp [Json.beqFields, hnumber hzoom, hnumber hpanX, hnumber hpanY]

/-- Snapshots that are alike are written as values that compare as equal. -/
theorem Snapshot.toValue_beq {s s' : Snapshot Float} (h : s.Alike s') :
    (JsonForm.toValue s == JsonForm.toValue s') = true := by
  refine Json.canonical_beq ?_
  have hview : Json.beq (toJson s.view) (toJson s'.view) = true := View.toJson_beq h.view
  change Json.beqFields [("nodes", toJson s.nodes), ("connections", toJson s.connections),
    ("viewport", toJson s.view)] [("nodes", toJson s'.nodes),
    ("connections", toJson s'.connections), ("viewport", toJson s'.view)] = true
  rw [h.nodes, h.connections]
  simp [Json.beqFields, Json.beq_refl, hview]

/-- A coordinate of the view is a zero, of either sign. -/
def View.HasZero (v : View Float) : Prop :=
  (v.zoom == 0) = true ∨ (v.panX == 0) = true ∨ (v.panY == 0) = true

theorem float_eq_of_beq {x y : Float} (h : (x == y) = true) (hzero : ¬ (y == 0) = true) :
    x = y := by
  obtain ⟨-, -, rfl | ⟨rfl, rfl⟩ | ⟨rfl, rfl⟩⟩ := Float.beq_iff_ne_nan_and_eq.1 h
  · rfl
  · exact absurd (by decide +kernel) hzero
  · exact absurd (by decide +kernel) hzero

/-- Apart from zeros, what compares as equal is the same. -/
theorem View.Alike.eq {v v' : View Float} (h : v.Alike v') (hzero : ¬ v'.HasZero) : v = v' := by
  obtain rfl | heq := h
  · rfl
  · obtain ⟨hzoom, hpanX, hpanY⟩ := View.beq_iff.1 heq
    obtain ⟨zoom, panX, panY⟩ := v
    obtain rfl := float_eq_of_beq hzoom fun h => hzero (.inl h)
    obtain rfl := float_eq_of_beq hpanX fun h => hzero (.inr (.inl h))
    obtain rfl := float_eq_of_beq hpanY fun h => hzero (.inr (.inr h))
    rfl

theorem Snapshot.Alike.eq {s s' : Snapshot Float} (h : s.Alike s') (hzero : ¬ s'.view.HasZero) :
    s = s' := by
  obtain ⟨nodes, connections, view⟩ := s
  obtain ⟨rfl, rfl, hview⟩ := h
  obtain rfl := View.Alike.eq hview hzero
  rfl

/-! ## Histories -/

namespace World

section

variable [Scalar R] [DocumentStore σ]

/-- Whether the canvas has been loaded since it was last saved, after one more operation. -/
def noteLoad (loaded : Prop) :
    (op : Client.Operation R) → World R σ ε → op.Result → World R σ ε → Prop
  | .call .loadFromBackend, _, result, _ => loaded ∨ result.isOk = true
  | _, w, _, w' => loaded ∧ ¬ w.Tells (·.isSaved) w'

omit [Scalar R] [DocumentStore σ] in
theorem noteLoad_of_upkeep {op : Client.Operation R} (h : op.upkeep ≠ .loading) (loaded : Prop)
    (w : World R σ ε) (a : op.Result) (w' : World R σ ε) :
    noteLoad loaded op w a w' = (loaded ∧ ¬ w.Tells (·.isSaved) w') := by
  cases op with
  | call c =>
    cases c with
    | loadFromBackend => exact absurd rfl h
    | _ => rfl
  | _ => rfl

/-- A world to which operations lead that run one after the other, and whether the canvas has been
loaded since it was last saved. In between, time passes, the far side does what it likes and other
documents may be written. -/
def History (answer : Answering R ε) (w : World R σ ε) (loaded : Prop) : Prop :=
  RunKind.Reaches
    { answer
      starts w loaded := (∃ settings, w.canvas = .initial settings) ∧ ¬ loaded
      note := noteLoad
      between w w' := ∃ store ids moment remote, w' = { w with store, ids, moment, remote } ∧
        DocumentStore.load store canvasKey = DocumentStore.load w.store canvasKey } w loaded

theorem History.start {answer : Answering R ε} {w : World R σ ε} (settings : Settings)
    (hcanvas : w.canvas = .initial settings) : w.History answer False :=
  RunKind.Reaches.start ⟨⟨settings, hcanvas⟩, id⟩

/-- The status tells the truth about the store, unless the canvas was loaded. -/
structure Accurate (w : World R σ ε) (loaded : Prop) : Prop where
  idle : w.canvas.saving.restoring = false
  pending_iff : w.canvas.saving.autosave.isPending = true ↔ w.canvas.saving.status = .saving
  saved : w.canvas.saving.status = .saved → ¬ loaded → ∃ saved savedAt,
    DocumentStore.load w.store canvasKey = .ok (some (Document.ofSnapshot saved savedAt)) ∧
      saved.Alike w.canvas.snapshot

end

section

variable [Scalar R] [DocumentStore σ] {w w' : World R σ ε} {loaded : Prop}

theorem Noted.not_tells (h : w.Noted w') : ¬ w.Tells (·.isSaved) w' := by
  rintro ⟨told', hevents', hsaved⟩
  obtain ⟨told, hevents, hnoted⟩ := h.canvas
  rw [hevents] at hevents'
  rw [← List.append_cancel_left hevents', hnoted.unsaved] at hsaved
  cases hsaved

/-- What an operation notes leaves the status true: it tells of a change, or there was none. -/
theorem Accurate.noted [PartialEquivBEq R] [DocumentStore.Lawful σ] (h : w.Accurate loaded)
    (hnoted : w.Noted w') : w'.Accurate (loaded ∧ ¬ w.Tells (·.isSaved) w') := by
  have hidle : w'.canvas.saving.restoring = false := hnoted.restoring.trans h.idle
  obtain ⟨told, -, hcanvas⟩ := hnoted.canvas
  -- a change takes the status away from being saved, and without one the store need not change
  cases htold : told.any (·.isChange) with
  | true =>
    have hscheduled := hcanvas.changed htold
    refine ⟨hidle, ?_, fun hsaved => ?_⟩
    · rw [hscheduled.autosave, hscheduled.status]
      exact ⟨fun _ => rfl, fun _ => rfl⟩
    · rw [hscheduled.status] at hsaved
      cases hsaved
  | false =>
    have hkept := hcanvas.unchanged htold
    refine ⟨hidle, ?_, fun hsaved hnot => ?_⟩
    · rw [hkept.autosave, hkept.status]
      exact h.pending_iff
    · have hnotLoaded : ¬ loaded := fun hloaded => hnot ⟨hloaded, hnoted.not_tells⟩
      obtain ⟨saved, savedAt, hload, halike⟩ :=
        h.saved (hkept.status.symm.trans hsaved) hnotLoaded
      exact ⟨saved, savedAt, hnoted.store.load_canvas.trans hload, halike.trans hkept.alike⟩

theorem Filed.accurate (h : w.Filed w') : w'.Accurate (loaded ∧ ¬ w.Tells (·.isSaved) w') := by
  refine ⟨h.restoring, ?_, fun hsaved hnot => ?_⟩
  · rw [h.pending]
    obtain hfailed | ⟨hsaved, -⟩ := h.status
    · rw [hfailed]
      decide
    · rw [hsaved]
      decide
  · obtain hfailed | ⟨-, htells, savedAt, hload⟩ := h.status
    · rw [hfailed] at hsaved
      cases hsaved
    · exact ⟨_, savedAt, hload, .refl _⟩

/-- A load that fails changes nothing, and one that succeeds is remembered. -/
theorem Accurate.load {result : Except ClientError Unit} (h : w.Accurate loaded)
    (hloaded : w.Loaded w') (hfailed : result.isOk = false → w'.canvas = w.canvas) :
    w'.Accurate (loaded ∨ result.isOk = true) := by
  refine ⟨hloaded.restoring.trans h.idle, ?_, fun hsaved hnot => ?_⟩
  · rw [hloaded.autosave, hloaded.status]
    exact h.pending_iff
  · have hresult : result.isOk = false := Bool.eq_false_iff.2 fun hok => hnot (.inr hok)
    rw [hfailed hresult] at hsaved ⊢
    rw [hloaded.store]
    exact h.saved hsaved fun hbefore => hnot (.inl hbefore)

/-- **The status is accurate throughout.** -/
theorem History.accurate [PartialEquivBEq R] [DocumentStore.Lawful σ] {answer : Answering R ε}
    (h : w.History answer loaded) : w.Accurate loaded := by
  induction h with
  | start hstart =>
    obtain ⟨⟨settings, hcanvas⟩, -⟩ := hstart
    refine ⟨by rw [hcanvas]; rfl, ?_, fun hsaved => ?_⟩
    · rw [hcanvas]
      change false = true ↔ SaveStatus.idle = .saving
      decide
    · rw [hcanvas] at hsaved
      cases hsaved
  | @operate v v' loaded _ op a _ hrun ih =>
    cases hupkeep : op.upkeep with
    | noting =>
      have haccurate := ih.noted (Client.Operation.notes hupkeep _ _ _ hrun ih.idle)
      rwa [← noteLoad_of_upkeep (by rw [hupkeep]; decide) loaded v a v'] at haccurate
    | filing =>
      have haccurate : v'.Accurate (loaded ∧ ¬ v.Tells (·.isSaved) v') := by
        obtain hnoted | hfiled := Client.Operation.accounts hupkeep _ _ _ hrun ih.idle
        · exact ih.noted hnoted
        · exact hfiled.accurate
      rwa [← noteLoad_of_upkeep (by rw [hupkeep]; decide) loaded v a v'] at haccurate
    | loading =>
      obtain rfl := Client.Operation.eq_load_of_upkeep hupkeep
      obtain ⟨hloaded, hfailed⟩ :=
        (Program.ends_iff_of_run hrun).1 Client.loadFromBackend_ends_loaded
      exact ih.load hloaded hfailed
  | meanwhile _ hbetween ih =>
    obtain ⟨store, ids, moment, remote, rfl, hstore⟩ := hbetween
    refine ⟨ih.idle, ih.pending_iff, fun hsaved hnot => ?_⟩
    obtain ⟨saved, savedAt, hload, halike⟩ := ih.saved hsaved hnot
    exact ⟨saved, savedAt, hstore.trans hload, halike⟩

end

end World

/-! ## The main result -/

/-- **Nothing changes behind a canvas that is saved.** Let operations run one after the other. In
between, a save is pending if and only if the status says so. If the status is that the canvas is
saved and it was not loaded since, then the stored document is that of a snapshot with the same
nodes, the same connections and a view that compares as equal; it is the very document of the
current canvas, unless a coordinate of its view is a zero, of which the store may have the other
sign. -/
theorem saved_document_is_current [DocumentStore σ] [DocumentStore.Lawful σ]
    {answer : Answering Float ε} {w : World Float σ ε} {loaded : Prop}
    (h : w.History answer loaded) :
    (w.canvas.saving.autosave.isPending = true ↔ w.canvas.saving.status = .saving) ∧
      (w.canvas.saving.status = .saved → ¬ loaded → ∃ saved savedAt,
        DocumentStore.load w.store canvasKey = .ok (some (Document.ofSnapshot saved savedAt)) ∧
          saved.Alike w.canvas.snapshot ∧
          (JsonForm.toValue saved == JsonForm.toValue w.canvas.snapshot) = true ∧
          (¬ w.canvas.viewport.view.HasZero → saved = w.canvas.snapshot)) := by
  refine ⟨h.accurate.pending_iff, fun hsaved hnot => ?_⟩
  obtain ⟨saved, savedAt, hload, halike⟩ := h.accurate.saved hsaved hnot
  exact ⟨saved, savedAt, hload, halike, Snapshot.toValue_beq halike, halike.eq⟩

/-- A canvas with a node and a view without zeros. -/
def pannedSnapshot : Snapshot Float :=
  { nodes := [{ id := "a", type := "input", position := .origin }], view := ⟨2.0, 5.0, -3.0⟩ }

/-- A client that has restored it, and thereby saved it. -/
def restoredWorld : LocalWorld Float :=
  let w := (Session.initial {} .counting ⟨0, 0⟩ : Session Float).world
  match w.run (Client.restoreSnapshot pannedSnapshot) with
  | .ok (_, w) => w
  | .error _ => w

theorem run_restoredWorld : ∃ report, (Client.restoreSnapshot pannedSnapshot).runWith
    Link.answering.handler (Session.initial {} .counting ⟨0, 0⟩ : Session Float).world =
      .ok (report, restoredWorld) := ⟨_, rfl⟩

theorem history_restoredWorld :
    ∃ loaded, restoredWorld.History Link.answering loaded ∧ ¬ loaded := by
  obtain ⟨report, hrun⟩ := run_restoredWorld
  exact ⟨_, .operate (World.History.start {} rfl) (.restoreSnapshot pannedSnapshot) trivial hrun,
    fun h => h.1⟩

theorem saved_document_is_current_restored :
    ∃ loaded, restoredWorld.History Link.answering loaded ∧ ¬ loaded ∧
      restoredWorld.canvas.saving.status = .saved ∧ ¬ restoredWorld.canvas.viewport.view.HasZero ∧
      ∃ saved savedAt, DocumentStore.load restoredWorld.store canvasKey =
        .ok (some (Document.ofSnapshot saved savedAt)) ∧ saved = restoredWorld.canvas.snapshot := by
  obtain ⟨loaded, hhistory, hnot⟩ := history_restoredWorld
  have hstatus : restoredWorld.canvas.saving.status = .saved := by decide +kernel
  have hzero : ¬ restoredWorld.canvas.viewport.view.HasZero := by
    unfold View.HasZero
    decide +kernel
  obtain ⟨saved, savedAt, hload, -, -, hexact⟩ :=
    (saved_document_is_current hhistory).2 hstatus hnot
  exact ⟨loaded, hhistory, hnot, hstatus, hzero, saved, savedAt, hload, hexact hzero⟩

/-- A client that has saved its empty canvas. -/
def savedWorld : LocalWorld Float :=
  let w := (Session.initial {} .counting ⟨0, 0⟩ : Session Float).world
  match w.run (Client.saveNow : Attempt Float MemoryStore Unit).run with
  | .ok (_, w) => w
  | .error _ => w

/-- The client once the backend has announced a view with a negative zero. -/
def zeroedWorld : LocalWorld Float :=
  match savedWorld.run (Client.applyPush (.viewportChanged { panX := some (-0.0) })) with
  | .ok (_, w) => w
  | .error _ => savedWorld

/-- The horizontal pan of a saved canvas, as text. -/
def panText (body : Json) : Option String := do
  let pan ← (← body.get? "viewport").get? "pan_x"
  return pan.compact

/-- The view changed, and nobody was told: the canvas counts as saved, and the store has another
one. -/
theorem zero_changes_sign_unnoticed :
    (∃ loaded, zeroedWorld.History Link.answering loaded ∧ ¬ loaded) ∧
      zeroedWorld.canvas.saving.status = .saved ∧
      (zeroedWorld.store.documents.get? canvasKey).bind (fun document => panText document.body) =
        some "0.0" ∧
      panText (JsonForm.toValue zeroedWorld.canvas.snapshot) = some "-0.0" := by
  have hsaved : (Client.saveNow : Attempt Float MemoryStore Unit).run.runWith Link.answering.handler
      (Session.initial {} .counting ⟨0, 0⟩ : Session Float).world = .ok (.ok (), savedWorld) := rfl
  have hpush : (Client.applyPush (.viewportChanged { panX := some (-0.0) }) :
      Program Float MemoryStore Unit).runWith Link.answering.handler savedWorld =
        .ok ((), zeroedWorld) := rfl
  have hhistory := (World.History.start {} rfl).operate .saveNow trivial hsaved
  refine ⟨⟨_, hhistory.operate (.applyPush _) trivial hpush, fun h => h.1.1⟩, ?_⟩
  decide +kernel

end NodeCanvas
