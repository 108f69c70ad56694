import NodeCanvas.Proofs.Debounce
import NodeCanvas.Proofs.Interleaving
import NodeCanvas.Proofs.SavedState
import Mathlib.Order.Basic
/-!
# Saves that overlap

A save takes a snapshot in one section, writes it, and reports in another. Here any number of saves
are in flight at once, and each of them proceeds by one step at a time, with operations in between
that may change the canvas: `World.Overlaps`. All writes succeed. A ledger counts the changes and
the loads, and notes how many there were when a save last began and when the save that wrote last
had taken its snapshot: `SaveLedger`.

A report does not ask whether anything has changed since the snapshot was taken, and a write does
not ask whether a newer one has been written. So once no save is in flight, the status may be that
the canvas is saved although a change is still to be saved, or although the store has an older
canvas (`saved_before_change`). What is true is that a save is pending exactly if something changed
after a save last began, and that the store has the snapshot of the save that wrote last
(`saved_after_overlaps`).
-/

namespace NodeCanvas

variable {R σ ε α : Type}

/-! ## Programs step by step -/

/-- Whether the next step of a program is to use the store. -/
def Program.isStoring : Program R σ α → Bool
  | .store _ _ => true
  | _ => false

/-! ## The stages of a save -/

namespace Client

variable [Scalar R] [DocumentStore σ]

/-- What is left of a save that has written. -/
def reporting (result : Except DocumentError Unit) : Program R σ (Except ClientError Unit) :=
  .edit (endSave result) fun _ => (Attempt.document result).run

/-- What is left of a save that has taken its snapshot. -/
def writing (snapshot : Snapshot R) (project : ProjectMeta) :
    Program R σ (Except ClientError Unit) :=
  .store (fun store => Document.storeSnapshot store snapshot project) reporting

theorem saveNow_stepWith (answer : Answering R ε) (w : World R σ ε) :
    (saveNow : Attempt R σ Unit).run.stepWith answer w =
      .ok (writing (beginSave w.moment w.canvas).value.1 (beginSave w.moment w.canvas).value.2,
        w.after (beginSave w.moment w.canvas)) :=
  rfl

/-- How far a save with a snapshot has come. -/
inductive SaveStage (snapshot : Snapshot R) : Program R σ (Except ClientError Unit) → Prop where
  | writing (project : ProjectMeta) : SaveStage snapshot (writing snapshot project)
  | reporting : SaveStage snapshot (reporting (.ok ()))
  | done : SaveStage snapshot (.done (.ok ()))

omit [Scalar R] in
/-- A report sets the status, whatever it was. -/
theorem endSave_canvas (result : Except DocumentError Unit) (m : Moment) (c : Canvas R) :
    (endSave result m c).canvas = c.saveEnded result := by
  obtain ⟨graph, viewport, ⟨autosave, status, restoring, owed, name, tabs, ui⟩, overlay, debug,
    paradigm⟩ := c
  cases result <;> cases status <;> rfl

end Client

/-! ## Saves in flight -/

/-- How many changes and how many loads there were. -/
@[ext]
structure SaveStamp where
  changes : Nat := 0
  loads : Nat := 0
  deriving DecidableEq

namespace SaveStamp

instance : PartialOrder SaveStamp where
  le s t := s.changes ≤ t.changes ∧ s.loads ≤ t.loads
  le_refl _ := ⟨Nat.le_refl _, Nat.le_refl _⟩
  le_trans _ _ _ h h' := ⟨Nat.le_trans h.1 h'.1, Nat.le_trans h.2 h'.2⟩
  le_antisymm _ _ h h' := SaveStamp.ext (Nat.le_antisymm h.1 h'.1) (Nat.le_antisymm h.2 h'.2)

/-- With one more change. -/
def changed (s : SaveStamp) : SaveStamp := { s with changes := s.changes + 1 }

/-- With one more load. -/
def loaded (s : SaveStamp) : SaveStamp := { s with loads := s.loads + 1 }

theorem lt_changed (s : SaveStamp) : s < s.changed :=
  ⟨⟨Nat.le_succ _, Nat.le_refl _⟩, fun h => Nat.not_succ_le_self _ h.1⟩

theorem lt_loaded (s : SaveStamp) : s < s.loaded :=
  ⟨⟨Nat.le_refl _, Nat.le_succ _⟩, fun h => Nat.not_succ_le_self _ h.2⟩

end SaveStamp

/-- A save in flight: what there was when it took its snapshot, the snapshot, and what is left of
it. -/
structure SaveInFlight (R σ : Type) where
  stamp : SaveStamp
  snapshot : Snapshot R
  rest : Program R σ (Except ClientError Unit)

/-- What is known of the saves so far. -/
structure SaveLedger (R : Type) where
  /-- How many changes and loads there were. -/
  now : SaveStamp := {}
  /-- How many there were when a save last began. -/
  begun : SaveStamp := {}
  /-- How many there were when the save that wrote last had taken its snapshot, and the snapshot. -/
  written : Option (SaveStamp × Snapshot R) := none
  /-- Whether a save began while another one was in flight. -/
  overlapped : Bool := false

namespace SaveLedger

/-- A save begins, maybe amid others. -/
def begin (l : SaveLedger R) (flights : List (SaveInFlight R σ)) : SaveLedger R :=
  { l with begun := l.now, overlapped := l.overlapped || !flights.isEmpty }

/-- A save proceeds by one step, which may be to write. -/
def proceed (l : SaveLedger R) (f : SaveInFlight R σ) : SaveLedger R :=
  if f.rest.isStoring then { l with written := some (f.stamp, f.snapshot) } else l

/-- A change is told. -/
def changed (l : SaveLedger R) : SaveLedger R := { l with now := l.now.changed }

/-- The canvas is loaded, if that is successful. -/
def loaded (l : SaveLedger R) (result : Except ClientError Unit) : SaveLedger R :=
  if result.isOk then { l with now := l.now.loaded } else l

end SaveLedger

section

variable [Scalar R] [DocumentStore σ]

/-- Saves overlap with each other and with operations, all from a fresh client on. In between, time
passes, the far side does what it likes and other documents may be written. -/
inductive World.Overlaps (answer : Answering R ε) :
    World R σ ε → SaveLedger R → List (SaveInFlight R σ) → Prop where
  | start (settings : Settings) {w : World R σ ε} (hcanvas : w.canvas = .initial settings) :
      Overlaps answer w {} []
  | begin {w w' : World R σ ε} {l : SaveLedger R} {flights : List (SaveInFlight R σ)}
      {rest : Program R σ (Except ClientError Unit)} (h : Overlaps answer w l flights)
      (hstep : Client.saveNow.run.stepWith answer w = .ok (rest, w')) :
      Overlaps answer w' (l.begin flights) (⟨l.now, w.canvas.snapshot, rest⟩ :: flights)
  | proceed {w w' : World R σ ε} {l : SaveLedger R} {before after : List (SaveInFlight R σ)}
      {f : SaveInFlight R σ} {rest : Program R σ (Except ClientError Unit)}
      (h : Overlaps answer w l (before ++ f :: after))
      (hwrites : ∀ project, f.rest = Client.writing f.snapshot project →
        (Document.storeSnapshot w.store f.snapshot project).1 = .ok ())
      (hstep : f.rest.stepWith answer w = .ok (rest, w')) :
      Overlaps answer w' (l.proceed f) (before ++ { f with rest } :: after)
  | finish {w : World R σ ε} {l : SaveLedger R} {before after : List (SaveInFlight R σ)}
      {f : SaveInFlight R σ} {value : Except ClientError Unit}
      (h : Overlaps answer w l (before ++ f :: after)) (hdone : f.rest = .done value) :
      Overlaps answer w l (before ++ after)
  | change {w w' : World R σ ε} {l : SaveLedger R} {flights : List (SaveInFlight R σ)}
      (h : Overlaps answer w l flights) (op : Client.Operation R) {a : op.Result}
      (hop : op.upkeep = .noting) (hrun : op.program.runWith answer.handler w = .ok (a, w'))
      (htells : w.Tells (·.isChange) w') : Overlaps answer w' l.changed flights
  | other {w w' : World R σ ε} {l : SaveLedger R} {flights : List (SaveInFlight R σ)}
      (h : Overlaps answer w l flights) (op : Client.Operation R) {a : op.Result}
      (hop : op.upkeep = .noting) (hrun : op.program.runWith answer.handler w = .ok (a, w'))
      (htells : ¬ w.Tells (·.isChange) w') : Overlaps answer w' l flights
  | load {w w' : World R σ ε} {l : SaveLedger R} {flights : List (SaveInFlight R σ)}
      {result : Except ClientError Unit} (h : Overlaps answer w l flights)
      (hrun : Client.loadFromBackend.run.runWith answer.handler w = .ok (result, w')) :
      Overlaps answer w' (l.loaded result) flights
  | meanwhile {w : World R σ ε} {l : SaveLedger R} {flights : List (SaveInFlight R σ)}
      (h : Overlaps answer w l flights) {store : σ} (ids : IdSource) (moment : Moment) (remote : ε)
      (hstore : DocumentStore.load store canvasKey = DocumentStore.load w.store canvasKey) :
      Overlaps answer { w with store, ids, moment, remote } l flights

end

/-- An entry of a list is replaced, and the others stay. -/
theorem forall_mem_replace {β : Type 1} {p q : β → Prop} {before after : List β} {a b : β}
    (h : ∀ x ∈ before ++ a :: after, p x) (himp : ∀ x, p x → q x) (hb : q b) :
    ∀ x ∈ before ++ b :: after, q x := by
  obtain ⟨hbefore, hrest⟩ := List.forall_mem_append.1 h
  obtain ⟨-, hafter⟩ := List.forall_mem_cons.1 hrest
  exact List.forall_mem_append.2 ⟨fun x hx => himp x (hbefore x hx),
    List.forall_mem_cons.2 ⟨hb, fun x hx => himp x (hafter x hx)⟩⟩

/-! ## What the ledger tells -/

section

variable [Scalar R]

/-- A snapshot was taken when a save last began or before, and is how the canvas is now if nothing
has changed since. -/
structure SaveLedger.Dates (l : SaveLedger R) (current : Snapshot R) (stamp : SaveStamp)
    (snapshot : Snapshot R) : Prop where
  le : stamp ≤ l.begun
  alike : stamp = l.now → snapshot.Alike current

namespace SaveLedger.Dates

variable {l l' : SaveLedger R} {current current' snapshot : Snapshot R} {stamp : SaveStamp}

theorem begin {flights : List (SaveInFlight R σ)} (h : l.Dates current stamp snapshot)
    (hbegun : l.begun ≤ l.now) : (l.begin flights).Dates current stamp snapshot :=
  ⟨h.le.trans hbegun, h.alike⟩

/-- Once there is another change or load, nothing is said of what was taken before. -/
theorem outdated (h : l.Dates current stamp snapshot) (hbegun : l'.begun = l.begun)
    (hnew : l.begun < l'.now) : l'.Dates current' stamp snapshot where
  le := by
    rw [hbegun]
    exact h.le
  alike hstamp := absurd hstamp (h.le.trans_lt hnew).ne

theorem still [PartialEquivBEq R] (h : l.Dates current stamp snapshot)
    (halike : current.Alike current') : l.Dates current' stamp snapshot :=
  ⟨h.le, fun hstamp => (h.alike hstamp).trans halike⟩

end SaveLedger.Dates

variable [DocumentStore σ]

/-- The ledger is true of the world and of the saves in flight. -/
structure SaveLedger.Tracks (l : SaveLedger R) (w : World R σ ε)
    (flights : List (SaveInFlight R σ)) : Prop where
  idle : w.canvas.saving.restoring = false
  begun_le : l.begun ≤ l.now
  pending_iff : w.canvas.saving.autosave.isPending = true ↔ l.begun.changes < l.now.changes
  stage : ∀ f ∈ flights, Client.SaveStage f.snapshot f.rest ∧
    (f.rest.isStoring = false → l.written.isSome = true)
  flying : ∀ f ∈ flights, l.Dates w.canvas.snapshot f.stamp f.snapshot
  written : ∀ stamp saved, l.written = some (stamp, saved) →
    l.Dates w.canvas.snapshot stamp saved ∧
      ∃ savedAt, DocumentStore.load w.store canvasKey =
        .ok (some (Document.ofSnapshot saved savedAt))
  saved : w.canvas.saving.status = .saved → l.written.isSome = true
  alone : l.overlapped = false →
    (flights = [] ∧ ∀ stamp saved, l.written = some (stamp, saved) → stamp = l.begun) ∨
    ∃ f, flights = [f] ∧ f.stamp = l.begun ∧
      (f.rest.isStoring = false → l.written = some (f.stamp, f.snapshot))

namespace SaveLedger.Tracks

variable {answer : Answering R ε} {l : SaveLedger R} {w w' : World R σ ε}
  {flights before after : List (SaveInFlight R σ)} {f : SaveInFlight R σ}

theorem start {settings : Settings} (hcanvas : w.canvas = .initial settings) :
    Tracks {} w ([] : List (SaveInFlight R σ)) where
  idle := by rw [hcanvas]; rfl
  begun_le := le_refl _
  pending_iff := by
    rw [hcanvas]
    change false = true ↔ 0 < 0
    decide
  stage := List.forall_mem_nil _
  flying := List.forall_mem_nil _
  written _ _ h := by cases h
  saved h := by
    rw [hcanvas] at h
    cases h
  alone _ := .inl ⟨rfl, fun _ _ h => by cases h⟩

/-- **A save begins**: nothing is pending any more. -/
theorem begin {rest : Program R σ (Except ClientError Unit)} (h : l.Tracks w flights)
    (hstep : Client.saveNow.run.stepWith answer w = .ok (rest, w')) :
    (l.begin flights).Tracks w' (⟨l.now, w.canvas.snapshot, rest⟩ :: flights) := by
  obtain ⟨told, hbegin, -, -⟩ := Client.beginSave_eq w.moment w.canvas
  rw [Client.saveNow_stepWith, hbegin] at hstep
  cases hstep
  refine ⟨h.idle, le_refl _, ?_, ?_, ?_, ?_, fun hsaved => ?_, fun halone => ?_⟩
  · change false = true ↔ l.now.changes < l.now.changes
    simp
  · refine List.forall_mem_cons.2 ⟨⟨.writing _, fun hnot => ?_⟩, h.stage⟩
    cases hnot
  · refine List.forall_mem_cons.2 ⟨⟨le_refl _, fun _ => .refl _⟩, fun f hf => ?_⟩
    exact (h.flying f hf).begin h.begun_le
  · intro stamp saved hwritten
    obtain ⟨hdates, hload⟩ := h.written stamp saved hwritten
    exact ⟨hdates.begin h.begun_le, hload⟩
  · cases hsaved
  · obtain ⟨-, hempty⟩ := Bool.or_eq_false_iff.1 halone
    rw [Bool.not_eq_false', List.isEmpty_iff] at hempty
    refine .inr ⟨_, by rw [hempty], rfl, fun hnot => ?_⟩
    cases hnot

/-- A save in flight is the only one as long as none has overlapped. -/
theorem only (h : l.Tracks w (before ++ f :: after)) (halone : l.overlapped = false) :
    before = [] ∧ after = [] ∧ f.stamp = l.begun ∧
      (f.rest.isStoring = false → l.written = some (f.stamp, f.snapshot)) := by
  obtain ⟨hnone, -⟩ | ⟨g, hg, hstamp, hwrote⟩ := h.alone halone
  · exact absurd hnone (List.append_ne_nil_of_right_ne_nil _ (List.cons_ne_nil _ _))
  · obtain ⟨rfl, hrest⟩ | ⟨-, hrest⟩ := List.append_eq_singleton_iff.1 hg
    · obtain ⟨rfl, rfl⟩ := List.cons.inj hrest
      exact ⟨rfl, rfl, hstamp, hwrote⟩
    · cases hrest

/-- **A save writes** what it has taken. -/
theorem write [DocumentStore.Lawful σ] (h : l.Tracks w (before ++ f :: after))
    (project : ProjectMeta)
    (hstore : Document.storeSnapshot w.store f.snapshot project = (.ok (), w'.store))
    (hcanvas : w'.canvas = w.canvas) :
    Tracks { l with written := some (f.stamp, f.snapshot) } w'
      (before ++ { f with rest := Client.reporting (.ok ()) } :: after) := by
  have hf := h.flying f (List.mem_append_right _ List.mem_cons_self)
  refine ⟨by rw [hcanvas]; exact h.idle, h.begun_le, by rw [hcanvas]; exact h.pending_iff,
    ?_, ?_, ?_, fun _ => rfl, fun halone => ?_⟩
  · exact forall_mem_replace h.stage (fun _ hstage => ⟨hstage.1, fun _ => rfl⟩)
      ⟨.reporting, fun _ => rfl⟩
  · rw [hcanvas]
    exact forall_mem_replace h.flying (fun _ hg => ⟨hg.le, hg.alike⟩) ⟨hf.le, hf.alike⟩
  · rintro stamp saved ⟨⟩
    rw [hcanvas]
    exact ⟨⟨hf.le, hf.alike⟩, _, Document.load_storeSnapshot hstore⟩
  · obtain ⟨rfl, rfl, hstamp, -⟩ := h.only halone
    exact .inr ⟨_, rfl, hstamp, fun _ => rfl⟩

/-- **A save reports**, and does not ask what has changed. -/
theorem report (h : l.Tracks w (before ++ f :: after)) (hstoring : f.rest.isStoring = false)
    (hcanvas : w'.canvas = w.canvas.saveEnded (.ok ())) (hstore : w'.store = w.store) :
    l.Tracks w' (before ++ { f with rest := .done (.ok ()) } :: after) := by
  obtain ⟨-, hwritten⟩ := h.stage f (List.mem_append_right _ List.mem_cons_self)
  refine ⟨by rw [hcanvas]; exact h.idle, h.begun_le, by rw [hcanvas]; exact h.pending_iff,
    ?_, ?_, ?_, fun _ => hwritten hstoring, fun halone => ?_⟩
  · exact forall_mem_replace h.stage (fun _ hstage => hstage) ⟨.done, fun _ => hwritten hstoring⟩
  · rw [hcanvas]
    exact forall_mem_replace h.flying (fun _ hg => hg)
      (h.flying f (List.mem_append_right _ List.mem_cons_self))
  · rw [hcanvas, hstore]
    exact h.written
  · obtain ⟨rfl, rfl, hstamp, hwrote⟩ := h.only halone
    exact .inr ⟨_, rfl, hstamp, fun _ => hwrote hstoring⟩

/-- **A save proceeds**, however far it has come. -/
theorem proceed [DocumentStore.Lawful σ] {rest : Program R σ (Except ClientError Unit)}
    (h : l.Tracks w (before ++ f :: after))
    (hwrites : ∀ project, f.rest = Client.writing f.snapshot project →
      (Document.storeSnapshot w.store f.snapshot project).1 = .ok ())
    (hstep : f.rest.stepWith answer w = .ok (rest, w')) :
    (l.proceed f).Tracks w' (before ++ { f with rest } :: after) := by
  obtain ⟨hstage, -⟩ := h.stage f (List.mem_append_right _ List.mem_cons_self)
  obtain ⟨stamp, snapshot, left⟩ := f
  change Client.SaveStage snapshot left at hstage
  -- which step it is depends on the stage, and only the first of the three uses the store
  cases hstage with
  | writing project =>
    have hresult : (Document.storeSnapshot w.store snapshot project).1 = .ok () :=
      hwrites project rfl
    cases hstep
    dsimp only
    rw [hresult]
    exact h.write project (Prod.ext hresult rfl) rfl
  | reporting =>
    cases hstep
    exact h.report rfl (Client.endSave_canvas ..) rfl
  | done =>
    cases hstep
    exact h

/-- **A save that is done** leaves the others. -/
theorem finish {value : Except ClientError Unit} (h : l.Tracks w (before ++ f :: after))
    (hdone : f.rest = .done value) : l.Tracks w (before ++ after) := by
  have hsub : ∀ g ∈ before ++ after, g ∈ before ++ f :: after := by
    intro g hg
    exact (List.sublist_cons_self f after).append_left before |>.subset hg
  refine ⟨h.idle, h.begun_le, h.pending_iff, fun g hg => h.stage g (hsub g hg),
    fun g hg => h.flying g (hsub g hg), h.written, h.saved, fun halone => .inl ?_⟩
  obtain ⟨rfl, rfl, hstamp, hwrote⟩ := h.only halone
  refine ⟨rfl, fun stamp saved hwritten => ?_⟩
  have hstoring : f.rest.isStoring = false := by
    rw [hdone]
    rfl
  rw [hwrote hstoring] at hwritten
  cases hwritten
  exact hstamp

/-- **A load**: what was taken before it is no longer how the canvas is, and nothing is done about
it. -/
theorem load {result : Except ClientError Unit} (h : l.Tracks w flights)
    (hloaded : w.Loaded w') (hfailed : result.isOk = false → w'.canvas = w.canvas) :
    (l.loaded result).Tracks w' flights := by
  have hidle : w'.canvas.saving.restoring = false := hloaded.restoring.trans h.idle
  have hpending : w'.canvas.saving.autosave.isPending = true ↔ l.begun.changes < l.now.changes := by
    rw [hloaded.autosave]
    exact h.pending_iff
  have hsaved : w'.canvas.saving.status = .saved → l.written.isSome = true := by
    rw [hloaded.status]
    exact h.saved
  unfold SaveLedger.loaded
  cases hresult : result.isOk with
  | true =>
    have hnew : l.begun < l.now.loaded := h.begun_le.trans_lt (SaveStamp.lt_loaded _)
    refine ⟨hidle, hnew.le, hpending, h.stage, fun f hf => (h.flying f hf).outdated rfl hnew, ?_,
      hsaved, h.alone⟩
    intro stamp saved hwritten
    obtain ⟨hdates, hload⟩ := h.written stamp saved hwritten
    rw [hloaded.store]
    exact ⟨hdates.outdated rfl hnew, hload⟩
  | false =>
    have hcanvas := hfailed hresult
    refine ⟨hidle, h.begun_le, hpending, h.stage, ?_, ?_, hsaved, h.alone⟩
    · rw [hcanvas]
      exact h.flying
    · rw [hcanvas, hloaded.store]
      exact h.written

variable [PartialEquivBEq R] [DocumentStore.Lawful σ]

/-- **A change**: what was taken before it is no longer how the canvas is, and a save is pending. -/
theorem change {op : Client.Operation R} {a : op.Result} (h : l.Tracks w flights)
    (hop : op.upkeep = .noting) (hrun : op.program.runWith answer.handler w = .ok (a, w'))
    (htells : w.Tells (·.isChange) w') : l.changed.Tracks w' flights := by
  have hnoted : w.Noted w' := Client.Operation.notes hop _ _ _ hrun h.idle
  have hscheduled := hnoted.scheduled htells
  have hnew : l.begun < l.now.changed := h.begun_le.trans_lt (SaveStamp.lt_changed _)
  refine ⟨hnoted.restoring.trans h.idle, hnew.le, ?_, h.stage,
    fun f hf => (h.flying f hf).outdated rfl hnew, ?_, fun hsaved => ?_, h.alone⟩
  · rw [hscheduled.autosave]
    exact ⟨fun _ => Nat.lt_succ_of_le h.begun_le.1, fun _ => rfl⟩
  · intro stamp saved hwritten
    obtain ⟨hdates, savedAt, hload⟩ := h.written stamp saved hwritten
    exact ⟨hdates.outdated rfl hnew, savedAt, hnoted.store.load_canvas.trans hload⟩
  · rw [hscheduled.status] at hsaved
    cases hsaved

/-- An operation that changes nothing leaves everything as it is. -/
theorem other {op : Client.Operation R} {a : op.Result} (h : l.Tracks w flights)
    (hop : op.upkeep = .noting) (hrun : op.program.runWith answer.handler w = .ok (a, w'))
    (htells : ¬ w.Tells (·.isChange) w') : l.Tracks w' flights := by
  have hnoted : w.Noted w' := Client.Operation.notes hop _ _ _ hrun h.idle
  have hkept := hnoted.kept htells
  refine ⟨hnoted.restoring.trans h.idle, h.begun_le, ?_, h.stage,
    fun f hf => (h.flying f hf).still hkept.alike, ?_,
    fun hsaved => h.saved (hkept.status.symm.trans hsaved), h.alone⟩
  · rw [hkept.autosave]
    exact h.pending_iff
  · intro stamp saved hwritten
    obtain ⟨hdates, savedAt, hload⟩ := h.written stamp saved hwritten
    exact ⟨hdates.still hkept.alike, savedAt, hnoted.store.load_canvas.trans hload⟩

end SaveLedger.Tracks

variable [PartialEquivBEq R] [DocumentStore.Lawful σ] {answer : Answering R ε}
  {w : World R σ ε} {l : SaveLedger R}

/-- **The ledger is kept**, however saves and operations overlap. -/
theorem World.Overlaps.tracks {flights : List (SaveInFlight R σ)}
    (h : w.Overlaps answer l flights) : l.Tracks w flights := by
  induction h with
  | start settings hcanvas => exact .start hcanvas
  | begin _ hstep ih => exact ih.begin hstep
  | proceed _ hwrites hstep ih => exact ih.proceed hwrites hstep
  | finish _ hdone ih => exact ih.finish hdone
  | change _ op hop hrun htells ih => exact ih.change hop hrun htells
  | other _ op hop hrun htells ih => exact ih.other hop hrun htells
  | load _ hrun ih =>
    obtain ⟨hloaded, hfailed⟩ :=
      (Program.ends_iff_of_run hrun).1 Client.loadFromBackend_ends_loaded
    exact ih.load hloaded hfailed
  | meanwhile _ ids moment remote hstore ih =>
    refine ⟨ih.idle, ih.begun_le, ih.pending_iff, ih.stage, ih.flying, ?_, ih.saved, ih.alone⟩
    dsimp only
    rw [hstore]
    exact ih.written

/-! ## The main result -/

/-- **What it means that the canvas is saved after saves have overlapped.** Let saves and operations
overlap in any way, with all writes successful, until no save is in flight. Then a save is pending
if and only if a change was told since a save last began, whatever the status is. If the status is
that the canvas is saved, the store has the snapshot that was taken by the save that wrote last. If
nothing has changed since it was taken and the canvas was not loaded, it is the canvas as it is, up
to a view that compares as equal, and nothing is pending. If no two saves overlapped and the canvas
was not loaded since the last of them began, it is so unless a save is pending. -/
theorem saved_after_overlaps (h : w.Overlaps answer l []) :
    (w.canvas.saving.autosave.isPending = true ↔ l.begun.changes < l.now.changes) ∧
      (w.canvas.saving.status = .saved → ∃ stamp saved savedAt,
        l.written = some (stamp, saved) ∧
          DocumentStore.load w.store canvasKey =
            .ok (some (Document.ofSnapshot saved savedAt)) ∧
          (stamp = l.now → w.canvas.saving.autosave.isPending = false ∧
            saved.Alike w.canvas.snapshot) ∧
          (l.overlapped = false → w.canvas.saving.autosave.isPending = false →
            l.begun.loads = l.now.loads → saved.Alike w.canvas.snapshot)) := by
  have htracks := h.tracks
  refine ⟨htracks.pending_iff, fun hsaved => ?_⟩
  obtain ⟨⟨stamp, saved⟩, hwritten⟩ := Option.isSome_iff_exists.1 (htracks.saved hsaved)
  obtain ⟨⟨hle, halike⟩, savedAt, hload⟩ := htracks.written stamp saved hwritten
  refine ⟨stamp, saved, savedAt, hwritten, hload, fun hstamp => ⟨?_, halike hstamp⟩,
    fun halone hpending hloads => halike ?_⟩
  · rw [Bool.eq_false_iff, ne_eq, htracks.pending_iff, ← hstamp]
    exact Nat.not_lt_of_le hle.1
  · rw [Bool.eq_false_iff, ne_eq, htracks.pending_iff] at hpending
    have hbegun : l.begun = l.now :=
      SaveStamp.ext (Nat.le_antisymm htracks.begun_le.1 (Nat.le_of_not_lt hpending)) hloads
    -- the save that wrote last is the one that began last
    obtain ⟨-, hlast⟩ | ⟨f, hf, -⟩ := htracks.alone halone
    · exact (hlast stamp saved hwritten).trans hbegun
    · cases hf

end

/-! ## Saves step by step -/

theorem Document.storeSnapshot_of_writable [Scalar R] {s : MemoryStore} (h : s.readOnly = false)
    (snapshot : Snapshot R) (project : ProjectMeta) :
    (storeSnapshot s snapshot project).1 = .ok () := by
  obtain ⟨documents, saves, readOnly⟩ := s
  cases h
  rfl

namespace World

variable [Scalar R]

/-- The world once a save has taken its snapshot. -/
def saveBegun (w : LocalWorld R) : LocalWorld R := w.after (Client.beginSave w.moment w.canvas)

/-- What a save has taken in a world. -/
def taken (w : LocalWorld R) : Snapshot R × ProjectMeta :=
  (w.canvas.snapshot, ⟨w.canvas.saving.projectName, w.moment.clock⟩)

/-- The world once a save has written what it has taken. -/
def saveWritten (w : LocalWorld R) (taken : Snapshot R × ProjectMeta) : LocalWorld R :=
  { w with store := (Document.storeSnapshot w.store taken.1 taken.2).2 }

/-- The world once a save has reported. -/
def saveReported (w : LocalWorld R) : LocalWorld R :=
  w.after (Client.endSave (.ok ()) w.moment w.canvas)

namespace Overlaps

variable {w : LocalWorld R} {l : SaveLedger R} {flights after : List (SaveInFlight R MemoryStore)}
  {stamp : SaveStamp} {snapshot : Snapshot R} {project : ProjectMeta}

theorem saveBegun (h : w.Overlaps Link.answering l flights) :
    w.saveBegun.Overlaps Link.answering (l.begin flights)
      (⟨l.now, w.canvas.snapshot, Client.writing w.taken.1 w.taken.2⟩ :: flights) := by
  have hstep := Client.saveNow_stepWith Link.answering w
  obtain ⟨told, hbegin, -, -⟩ := Client.beginSave_eq w.moment w.canvas
  rw [hbegin] at hstep
  rw [World.saveBegun, hbegin]
  exact h.begin hstep

theorem saveWritten (before : List (SaveInFlight R MemoryStore))
    (h : w.Overlaps Link.answering l
      (before ++ ⟨stamp, snapshot, Client.writing snapshot project⟩ :: after))
    (hwritable : w.store.readOnly = false) :
    (w.saveWritten (snapshot, project)).Overlaps Link.answering
      { l with written := some (stamp, snapshot) }
      (before ++ ⟨stamp, snapshot, Client.reporting (.ok ())⟩ :: after) := by
  have hstep : (Client.writing snapshot project).stepWith Link.answering w =
      .ok (Client.reporting (.ok ()), w.saveWritten (snapshot, project)) := by
    rw [← Document.storeSnapshot_of_writable hwritable snapshot project]
    rfl
  exact h.proceed (fun _ _ => Document.storeSnapshot_of_writable hwritable _ _) hstep

theorem saveReported (before : List (SaveInFlight R MemoryStore))
    (h : w.Overlaps Link.answering l
      (before ++ ⟨stamp, snapshot, Client.reporting (.ok ())⟩ :: after))
    (hwritable : w.store.readOnly = false) :
    w.saveReported.Overlaps Link.answering l (before ++ after) :=
  .finish (h.proceed (fun _ _ => Document.storeSnapshot_of_writable hwritable _ _) rfl) rfl

/-- A pan is a change. -/
theorem pan {w : LocalWorld Rat} {l : SaveLedger Rat}
    {flights : List (SaveInFlight Rat MemoryStore)} (h : w.Overlaps Link.answering l flights)
    (t : Instant) (hok : ({ w with moment := ⟨t, ⟨0, 0⟩⟩ }.run (Client.panBy 1 0)).isOk = true)
    (htold : ((w.runAt t (Client.panBy 1 0)).events.drop w.events.length).any (·.isChange) = true) :
    (w.runAt t (Client.panBy 1 0)).Overlaps Link.answering l.changed flights := by
  obtain ⟨a, hrun⟩ := World.exists_runAt hok
  exact .change (.meanwhile h w.ids ⟨t, ⟨0, 0⟩⟩ w.remote rfl) (.panBy 1 0) rfl hrun
    (Program.tells_of_run hrun htold)

end Overlaps

end World

/-- A client that has panned and then saved. -/
def pannedAndSaved : LocalWorld Rat :=
  let w := Client.freshWorld.runAt 5 (Client.panBy 1 0)
  (w.saveBegun.saveWritten w.taken).saveReported

theorem saved_after_overlaps_panned :
    ∃ l, pannedAndSaved.Overlaps Link.answering l [] ∧ l.now.changes = 1 ∧
      pannedAndSaved.canvas.saving.status = .saved ∧
      pannedAndSaved.canvas.saving.autosave.isPending = false ∧
      ∃ saved savedAt, DocumentStore.load pannedAndSaved.store canvasKey =
        .ok (some (Document.ofSnapshot saved savedAt)) ∧
        saved.Alike pannedAndSaved.canvas.snapshot := by
  have hstart : Client.freshWorld.Overlaps Link.answering {} [] := .start {} rfl
  have hpanned := hstart.pan 5 (by decide +kernel) (by decide +kernel)
  have hsaved := (hpanned.saveBegun.saveWritten [] (by decide +kernel)).saveReported []
    (by decide +kernel)
  have hstatus : pannedAndSaved.canvas.saving.status = .saved := by decide +kernel
  obtain ⟨stamp, saved, savedAt, hwritten, hload, hcurrent, -⟩ :=
    (saved_after_overlaps hsaved).2 hstatus
  obtain ⟨hpending, halike⟩ := hcurrent (by cases hwritten; rfl)
  exact ⟨_, hsaved, rfl, hstatus, hpending, saved, savedAt, hload, halike⟩

/-- A client that has panned while a save was in flight. -/
def pannedAmidSave : LocalWorld Rat :=
  let w := Client.freshWorld
  ((w.saveBegun.runAt 5 (Client.panBy 1 0)).saveWritten w.taken).saveReported

/-- A client that has panned while a save was in flight and then saved again, where the first save
wrote last. -/
def savedOutOfOrder : LocalWorld Rat :=
  let w := Client.freshWorld
  let w' := w.saveBegun.runAt 5 (Client.panBy 1 0)
  let w'' := (w'.saveBegun.saveWritten w'.taken).saveReported
  (w''.saveWritten w.taken).saveReported

/-- A client that has saved its empty canvas and then loaded a node. -/
def savedAndLoaded : LocalWorld Rat :=
  let w := unloadedWorld
  ((w.saveBegun.saveWritten w.taken).saveReported).runAt 5
    (Client.loadFromBackend : Attempt Rat MemoryStore Unit).run

/-- How many nodes a saved canvas has. -/
def nodeCount (body : Json) : Option Nat := do
  let nodes ← (← body.get? "nodes").items?
  return nodes.length

/-- The status is that the canvas is saved and no save is in flight, but a change is still to be
saved; or nothing is pending, but the store has the canvas as it was before a change, or before it
was loaded. -/
theorem saved_before_change :
    (∃ l, pannedAmidSave.Overlaps Link.answering l [] ∧
        pannedAmidSave.canvas.saving.status = .saved ∧
        pannedAmidSave.canvas.saving.autosave.isPending = true) ∧
      (∃ l, savedOutOfOrder.Overlaps Link.answering l [] ∧
        savedOutOfOrder.canvas.saving.status = .saved ∧
        savedOutOfOrder.canvas.saving.autosave.isPending = false ∧
        (savedOutOfOrder.store.documents.get? canvasKey).bind
          (fun document => panText document.body) = some "0.0" ∧
        panText (JsonForm.toValue savedOutOfOrder.canvas.snapshot) = some "1.0") ∧
      ∃ l, savedAndLoaded.Overlaps Link.answering l [] ∧
        savedAndLoaded.canvas.saving.status = .saved ∧
        savedAndLoaded.canvas.saving.autosave.isPending = false ∧
        (savedAndLoaded.store.documents.get? canvasKey).bind
          (fun document => nodeCount document.body) = some 0 ∧
        nodeCount (JsonForm.toValue savedAndLoaded.canvas.snapshot) = some 1 := by
  have hstart : Client.freshWorld.Overlaps Link.answering {} [] := .start {} rfl
  have hpanned := hstart.saveBegun.pan 5 (by decide +kernel) (by decide +kernel)
  refine ⟨⟨_, (hpanned.saveWritten [] (by decide +kernel)).saveReported [] (by decide +kernel),
    by decide +kernel⟩, ?_, ?_⟩
  · have hagain := (hpanned.saveBegun.saveWritten [] (by decide +kernel)).saveReported []
      (by decide +kernel)
    exact ⟨_, (hagain.saveWritten [] (by decide +kernel)).saveReported [] (by decide +kernel),
      by decide +kernel⟩
  · have hunloaded : unloadedWorld.Overlaps Link.answering {} [] := .start {} rfl
    have hsaved := (hunloaded.saveBegun.saveWritten [] (by decide +kernel)).saveReported []
      (by decide +kernel)
    have hok : ({ (unloadedWorld.saveBegun.saveWritten unloadedWorld.taken).saveReported with
        moment := ⟨5, ⟨0, 0⟩⟩ }.run
          (Client.loadFromBackend : Attempt Rat MemoryStore Unit).run).isOk = true := by
      decide +kernel
    obtain ⟨result, hrun⟩ := World.exists_runAt hok
    exact ⟨_, .load (.meanwhile hsaved _ ⟨5, ⟨0, 0⟩⟩ _ rfl) hrun, by decide +kernel⟩

end NodeCanvas
