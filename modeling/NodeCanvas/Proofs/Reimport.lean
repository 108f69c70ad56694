import Mathlib
import NodeCanvas.Proofs.Calendar
import NodeCanvas.Proofs.Imported
import NodeCanvas.Proofs.Interchange
import NodeCanvas.Proofs.Reopening
/-!
# Importing what was exported

Importing is a projection. A canvas that was imported is a fixed point of the rules for foreign
documents, and so the command line can import a document, export the canvas and import what it has
exported: each run finds the archive that the run before has left, and the canvas and the name of
the project in it stay the same (`import_is_projection`).
-/

namespace NodeCanvas

theorem ProjectMeta.ofJson?_toValue {p : ProjectMeta} (h : p.savedAt.IsCommon) :
    ofJson? (JsonForm.toValue p) = some p := by
  have hname : (Json.written [("name", .string p.name), ("saved_at", toJson p.savedAt)]).lookup
      "name" = some (.string p.name) := Json.lookup_written _ _
  have hsavedAt : (Json.written [("name", .string p.name), ("saved_at", toJson p.savedAt)]).lookup
      "saved_at" = some (.string p.savedAt.text) := Json.lookup_written _ _
  have hread : ofJson? (Json.string p.savedAt.text) = some p.savedAt := by
    change ((Json.string p.savedAt.text).text? >>= Timestamp.parse?) = _
    simp only [Json.text?, Option.bind_eq_bind, Option.bind_some, Timestamp.parse?_text h]
  change (do return {
    name := ← Json.required (Json.written _) "name" Json.text?
    savedAt := ← Json.required (Json.written _) "saved_at" ofJson? }) = some p
  simp only [Json.required, hname, hsavedAt, Option.bind_eq_bind, Option.bind_some, hread, Json.text?]
  rfl

/-! ## Rows of a project -/

/-- The rows are those of a canvas and its project, and perhaps others. -/
structure ProjectRows (rows : Table Row) (s : Snapshot Float) (project : ProjectMeta) : Prop where
  canvas : rows.get? canvasKey = some (Document.ofSnapshot s project.savedAt).row
  project : rows.get? projectKey = some (Document.ofProject project).row

/-- Both documents can be read from their rows, the time of the project included. -/
structure Readable (s : Snapshot Float) (project : ProjectMeta) : Prop where
  savedAt : project.savedAt.IsCommon
  canvas : Json.parse? (JsonForm.toValue s).compact = some (JsonForm.toValue s)
  project : Json.parse? (JsonForm.toValue project).compact = some (JsonForm.toValue project)

/-- A document is loaded from the row that stands for it. -/
theorem Archive.load_of_row {a : Archive} (hopen : a.closed = false) {key : String}
    {d : StoredDocument} (hrow : a.rows.get? key = some d.row) (h : d.Storable) :
    DocumentStore.load a key = .ok (some d) := by
  have hload : a.loadRow key = .ok (some d.row) := by
    rw [← hrow]
    exact if_neg (by simp [hopen])
  change (a.loadRow key >>= _) = _
  rw [hload]
  change (d.row.document key >>= _) = _
  rw [h.document_row]
  rfl

namespace ProjectRows

variable {rows : Table Row} {s : Snapshot Float} {project : ProjectMeta}

theorem loadSnapshot (h : ProjectRows rows s project) (hs : s.Canonical)
    (hread : Readable s project) (ids : IdSource) :
    (Document.loadSnapshot ({ rows } : Archive)).run ids = (.ok (some s), ids) := by
  have hload : DocumentStore.load ({ rows } : Archive) canvasKey =
      .ok (some (Document.ofSnapshot s project.savedAt)) :=
    Archive.load_of_row rfl h.canvas ⟨(by decide : 1 < 4294967296), hread.canvas⟩
  rw [Document.loadSnapshot_eq hload rfl]
  exact Drawing.run_bind (Snapshot.decodeSnapshot_toValue hs ids)

theorem loadProject (h : ProjectRows rows s project) (hread : Readable s project) :
    Document.loadProject ({ rows } : Archive) = .ok (some project) := by
  have hload : DocumentStore.load ({ rows } : Archive) projectKey =
      .ok (some (Document.ofProject project)) :=
    Archive.load_of_row rfl h.project ⟨(by decide : 1 < 4294967296), hread.project⟩
  have hversioned : Document.loadVersioned ({ rows } : Archive) projectKey projectVersion =
      .ok (some (Document.ofProject project)) := by
    rw [Document.loadVersioned, hload]
    rfl
  rw [Document.loadProject, hversioned]
  change Document.decode? (some (Document.ofProject project)) = _
  have hdecode : ofJson? (Document.ofProject project).body = some project :=
    ProjectMeta.ofJson?_toValue hread.savedAt
  rw [Document.decode?, hdecode]

/-- **The project file of the rows is made of what they hold.** -/
theorem projectFile (h : ProjectRows rows s project) (hs : s.Canonical)
    (hread : Readable s project) (now : Timestamp) (ids : IdSource) :
    (Tools.projectFile Float { rows } now).run ids = (.ok ⟨project, s, []⟩, ids) := by
  rw [Tools.projectFile, Drawing.run_bind (h.loadSnapshot hs hread ids), h.loadProject hread]
  rfl

end ProjectRows

/-- The rows with a canvas and its project stored. -/
def storedRows (rows : Table Row) (s : Snapshot Float) (project : ProjectMeta) : Table Row :=
  (rows.insert canvasKey (Document.ofSnapshot s project.savedAt).row).insert projectKey
    (Document.ofProject project).row

theorem projectRows_storedRows (rows : Table Row) (s : Snapshot Float) (project : ProjectMeta) :
    ProjectRows (storedRows rows s project) s project where
  canvas := by
    rw [storedRows, Table.get?_insert, if_neg (by decide), Table.get?_insert_self]
  project := Table.get?_insert_self ..

theorem Archive.storeSnapshot_eq {a : Archive} (hopen : a.closed = false)
    (hwritable : a.writable = true) (s : Snapshot Float) (project : ProjectMeta) :
    Document.storeSnapshot a s project =
      (.ok (), { a with rows := storedRows a.rows s project }) := by
  have hsave : ∀ (rows : Table Row) (key : String) (d : StoredDocument),
      Document.save { a with rows } key d = (.ok (), { a with rows := rows.insert key d.row }) := by
    intro rows key d
    have hrow : DocumentStore.save { a with rows } key d =
        .ok { a with rows := rows.insert key d.row } := if_neg (by simp [hopen, hwritable])
    rw [Document.save, hrow]
  have hcanvas := hsave a.rows canvasKey (Document.ofSnapshot s project.savedAt)
  rw [Document.storeSnapshot, hcanvas]
  exact hsave _ projectKey _

/-! ## What a run does -/

namespace Tools

/-- The project that an import stores. -/
def importedMeta (project : ImportedProject Float) (now : Timestamp) : ProjectMeta :=
  ⟨project.name.getD untitled, now⟩

/-- Importing stores the canvas of a document that is recognized, and the archive is kept. -/
theorem carryOut_importFrom {files : FileTree} {a : OpenArchive} {home : Place}
    {source text : String} {value : Json} {ids : IdSource} {project : ImportedProject Float}
    (hhome : a.home = some home) (hopen : a.archive.closed = false)
    (hwritable : a.archive.writable = true) (htext : files.readText? source = some text)
    (hvalue : Json.parse? text = some value)
    (hproject : ((Import.project value).run ids).1 = .ok project) (now : Timestamp) :
    let result := ((carryOut Float files a now (.importFrom source)).run ids).1
    result.failure = none ∧
      result.files = files.setFile home
        (.archive (storedRows a.archive.rows project.snapshot (importedMeta project now))) := by
  rcases hrun : (Import.project (R := Float) value).run ids with ⟨found, ids'⟩
  rw [hrun] at hproject
  obtain rfl : found = .ok project := hproject
  have hstore := Archive.storeSnapshot_eq hopen hwritable project.snapshot (importedMeta project now)
  have himport : ∃ line, (importText Float a.archive text now).run ids =
      ((.ok line, { a.archive with
        rows := storedRows a.archive.rows project.snapshot (importedMeta project now) }), ids') := by
    unfold importText
    simp only [hvalue]
    rw [Drawing.run_bind hrun]
    unfold importedMeta at hstore
    simp only [hstore]
    exact ⟨_, rfl⟩
  obtain ⟨line, hline⟩ := himport
  unfold carryOut
  simp only [htext]
  rw [Drawing.run_bind hline]
  simp only [FileTree.keep, hhome]
  exact ⟨rfl, rfl⟩

/-- Exporting writes the project file of what the archive holds, if the file has a place. -/
theorem carryOut_exportTo {rows : Table Row} {s : Snapshot Float} {project : ProjectMeta}
    (h : ProjectRows rows s project) (hs : s.Canonical) (hread : Readable s project)
    (files : FileTree) (home : Place) (target : String) (now : Timestamp) (ids : IdSource) :
    let run := ((carryOut Float files ⟨{ rows }, some home⟩ now (.exportTo target)).run ids).1
    (files.locate? target = none ∧ run.failure ≠ none ∧ run.files = files) ∨
      ((files.locate? target).isSome = true ∧ run.failure = none ∧
        run.files = files.setFile (Place.ofPath target)
          (.text (toJson (⟨project, s, []⟩ : ProjectFile Float)).pretty)) := by
  unfold carryOut FileTree.writeText?
  dsimp only
  rw [Drawing.run_bind (h.projectFile hs hread now ids)]
  dsimp only
  cases hplace : files.locate? target with
  | none => exact .inl ⟨rfl, Option.some_ne_none _, rfl⟩
  | some p =>
    obtain rfl := FileTree.ofPath_of_locate? hplace
    exact .inr ⟨rfl, rfl, rfl⟩

/-- What a run of the command line leaves. -/
def result (url : String) (command : ToolCommand) (files : FileTree) (now : Timestamp)
    (ids : IdSource) : ToolRun :=
  (((Invocation.run url command).perform Float files now).run ids).1

end Tools

/-! ## What runs keep -/

/-- The archive at a place holds a canvas and its project. -/
def FileTree.HoldsProject (t : FileTree) (home : Place) (s : Snapshot Float)
    (project : ProjectMeta) : Prop :=
  ∃ rows, t.file? home = some (.archive rows) ∧ ProjectRows rows s project

namespace FileTree.HoldsProject

variable {t : FileTree} {home : Place} {s : Snapshot Float} {project : ProjectMeta}

theorem of_setFile {rows : Table Row} (h : ProjectRows rows s project) :
    (t.setFile home (.archive rows)).HoldsProject home s project :=
  ⟨rows, by rw [file?_setFile, if_pos rfl], h⟩

theorem setFile_of_ne (h : t.HoldsProject home s project) {p : Place} (hp : p.path ≠ home.path)
    (content : FileContent) : (t.setFile p content).HoldsProject home s project := by
  obtain ⟨rows, hfile, hrows⟩ := h
  exact ⟨rows, by rw [file?_setFile, if_neg hp.symm, hfile], hrows⟩

end FileTree.HoldsProject

namespace Tools

variable {url target : String} {home : Place} {files : FileTree} {s : Snapshot Float}
  {project : ProjectMeta}

/-- A run either cannot open the archive again or goes on with the rows that are in it. -/
theorem result_cases (hleads : FileTree.LeadsTo url home) {rows : Table Row}
    (hfile : files.file? home = some (.archive rows)) (command : ToolCommand) (now : Timestamp)
    (ids : IdSource) :
    let files' := (files.opened url).2
    (∃ cause, (∀ check, files.opensTo url check = false) ∧
        result url command files now ids = .failed (.unopened cause) files') ∨
      (∀ check, files.opensTo url check = check files') ∧
        result url command files now ids =
          ((carryOut Float files' ⟨{ rows }, some home⟩ now command).run ids).1 := by
  have hreopens := FileTree.reopens hleads hfile
  unfold result FileTree.opensTo
  rcases hopened : files.opened url with ⟨outcome, files'⟩
  rw [hopened] at hreopens
  cases outcome with
  | error cause =>
    rw [Invocation.perform_run, hopened]
    exact .inl ⟨cause, fun _ => rfl, rfl⟩
  | ok a =>
    rw [Invocation.perform_run, hopened, hreopens.opened rfl]
    exact .inr ⟨fun _ => rfl, rfl⟩

/-- **An export leaves the archive as it is.** It succeeds if the archive can be opened and the file
has a place, and then the project file is there. -/
theorem holdsProject_exportTo (hleads : FileTree.LeadsTo url home)
    (h : files.HoldsProject home s project) (hs : s.Canonical) (hread : Readable s project)
    (hapart : (Place.ofPath target).path ≠ home.path) (now : Timestamp) (ids : IdSource) :
    let run := result url (.exportTo target) files now ids
    (run.failure = none ↔ files.opensTo url (·.locate? target |>.isSome) = true) ∧
      run.files.HoldsProject home s project ∧
      (run.failure = none → run.files = (files.opened url).2.setFile (Place.ofPath target)
        (.text (toJson (⟨project, s, []⟩ : ProjectFile Float)).pretty)) := by
  obtain ⟨rows, hfile, hrows⟩ := h
  have hkept : (files.opened url).2.HoldsProject home s project :=
    ⟨rows, (FileTree.reopens hleads hfile).archive, hrows⟩
  obtain ⟨cause, hopens, hrun⟩ | ⟨hopens, hrun⟩ :=
    result_cases hleads hfile (.exportTo target) now ids
  · rw [hrun, hopens]
    have hfailed : (ToolRun.failed (.unopened cause) (files.opened url).2).failure ≠ none :=
      Option.some_ne_none _
    exact ⟨iff_of_false hfailed Bool.false_ne_true, hkept, fun hnone => absurd hnone hfailed⟩
  rw [hrun, hopens]
  dsimp only
  obtain ⟨hplace, hfailure, hfiles⟩ | ⟨hplace, hfailure, hfiles⟩ :=
    carryOut_exportTo hrows hs hread (files.opened url).2 home target now ids
  · rw [hplace, hfiles]
    exact ⟨iff_of_false hfailure Bool.false_ne_true, hkept, fun hnone => absurd hnone hfailure⟩
  · rw [hfiles]
    exact ⟨iff_of_true hfailure hplace, hkept.setFile_of_ne hapart _, fun _ => rfl⟩

/-- **An import of a file stores its canvas or leaves the archive as it is.** It succeeds if the
archive can be opened and the file can then still be read. -/
theorem holdsProject_importFrom (hleads : FileTree.LeadsTo url home)
    (h : files.HoldsProject home s project) {text : String}
    (htext : files.file? (Place.ofPath target) = some (.text text)) {value : Json}
    (hvalue : Json.parse? text = some value) {ids : IdSource} {imported : ImportedProject Float}
    (himported : ((Import.project value).run ids).1 = .ok imported) (now : Timestamp) :
    let run := result url (.importFrom target) files now ids
    (run.failure = none ↔ files.opensTo url (·.readText? target |>.isSome) = true) ∧
      (run.files.HoldsProject home s project ∨
        run.files.HoldsProject home imported.snapshot (importedMeta imported now)) := by
  obtain ⟨rows, hfile, hrows⟩ := h
  have hreopens := FileTree.reopens hleads hfile
  have hkept : (files.opened url).2.HoldsProject home s project := ⟨rows, hreopens.archive, hrows⟩
  obtain ⟨cause, hopens, hrun⟩ | ⟨hopens, hrun⟩ :=
    result_cases hleads hfile (.importFrom target) now ids
  · rw [hrun, hopens]
    exact ⟨iff_of_false (Option.some_ne_none _) Bool.false_ne_true, .inl hkept⟩
  rw [hrun, hopens]
  dsimp only
  cases hread : (files.opened url).2.readText? target with
  | none =>
    have hunread : (carryOut Float (files.opened url).2 ⟨{ rows }, some home⟩ now
        (.importFrom target)).run ids = (.failed (.unread target) (files.opened url).2, ids) := by
      unfold carryOut
      simp only [hread]
      rfl
    rw [hunread]
    exact ⟨iff_of_false (Option.some_ne_none _) Bool.false_ne_true, .inl hkept⟩
  | some found =>
    -- opening takes files away or leaves them, so what is read there is what was there before
    have hfound : text = found := by
      have hthere := FileTree.file?_of_readText? hread
      rcases hreopens.files (Place.ofPath target) with hsame | hgone
      · rw [hthere, htext] at hsame
        cases hsame
        rfl
      · rw [hthere] at hgone
        cases hgone
    subst hfound
    obtain ⟨hfailure, hfiles⟩ :=
      carryOut_importFrom (a := ⟨{ rows }, some home⟩) rfl rfl rfl hread hvalue himported now
    rw [hfiles]
    exact ⟨iff_of_true hfailure rfl, .inr (.of_setFile (projectRows_storedRows ..))⟩

end Tools

/-! ## What is stored -/

/-- What is stored of a canvas: the body of its document and the name of its project. -/
structure StoredCanvas where
  body : Option String
  name : Option String

namespace FileTree

/-- What is stored in the archive at a place. -/
def stored? (t : FileTree) (home : Place) : Option StoredCanvas :=
  match t.file? home with
  | some (.archive rows) => some {
      body := (rows.get? canvasKey).map (·.body)
      name := match Document.loadProject ({ rows } : Archive) with
        | .ok project => project.map (·.name)
        | .error _ => none }
  | _ => none

theorem HoldsProject.stored?_eq {t : FileTree} {home : Place} {s : Snapshot Float}
    {project : ProjectMeta} (h : t.HoldsProject home s project) (hread : Readable s project) :
    t.stored? home = some ⟨some (JsonForm.toValue s).compact, some project.name⟩ := by
  obtain ⟨rows, hfile, hrows⟩ := h
  rw [stored?, hfile]
  dsimp only
  rw [hrows.canvas, hrows.loadProject hread]
  rfl

end FileTree

/-! ## The main result -/

/-- Three runs of the command line on one archive, each at its own time and with ids of its own: a
document is imported, the canvas is exported, and what was exported is imported. -/
structure Exchange where
  url : String
  source : String
  target : String
  files : FileTree
  importTime : Timestamp
  importIds : IdSource
  exportTime : Timestamp
  exportIds : IdSource
  reimportTime : Timestamp
  reimportIds : IdSource

namespace Exchange

variable (x : Exchange)

def imported : ToolRun :=
  Tools.result x.url (.importFrom x.source) x.files x.importTime x.importIds

def exported : ToolRun :=
  Tools.result x.url (.exportTo x.target) x.imported.files x.exportTime x.exportIds

def reimported : ToolRun :=
  Tools.result x.url (.importFrom x.target) x.exported.files x.reimportTime x.reimportIds

/-- The first run finds an archive that lasts and can be written, and reads a text. -/
def Finds (home : Place) (text : String) : Prop :=
  match x.files.opened x.url with
  | (.ok a, files) =>
    a.home = some home ∧ a.archive.writable = true ∧ files.readText? x.source = some text
  | (.error _, _) => False

instance decidableFinds (home : Place) (text : String) : Decidable (x.Finds home text) := by
  unfold Finds
  split <;> infer_instance

/-- The second run can open the archive, and there is a place for the file. -/
def CanExport : Prop := x.imported.files.opensTo x.url (·.locate? x.target |>.isSome) = true

/-- The third run can open the archive and then read the file. -/
def CanReimport : Prop := x.exported.files.opensTo x.url (·.readText? x.target |>.isSome) = true

/-- The project file that is exported. -/
def file (project : ImportedProject Float) : ProjectFile Float :=
  { project := Tools.importedMeta project x.importTime, state := project.snapshot }

/-- What is printed for an imported project reads as what it was printed from. -/
structure Legible (project : ImportedProject Float) : Prop where
  imported : Readable project.snapshot (Tools.importedMeta project x.importTime)
  reimported : Readable project.snapshot (Tools.importedMeta project x.reimportTime)
  exported : Json.parse? (toJson (x.file project)).pretty = some (JsonForm.toValue (x.file project))

variable {x} {home : Place} {text : String} {value : Json} {project : ImportedProject Float}

/-- The first run stores the project. -/
theorem holdsProject_imported (hfinds : x.Finds home text) (hparse : Json.parse? text = some value)
    (h : ((Import.project value).run x.importIds).1 = .ok project) :
    x.imported.failure = none ∧ FileTree.LeadsTo x.url home ∧
      x.imported.files.HoldsProject home project.snapshot
        (Tools.importedMeta project x.importTime) := by
  unfold Finds at hfinds
  split at hfinds
  swap
  · exact hfinds.elim
  rename_i a files hopened
  obtain ⟨hhome, hwritable, htext⟩ := hfinds
  obtain ⟨hleads, hopen⟩ := FileTree.leadsTo_of_opened hopened hhome hwritable
  obtain ⟨hfailure, hfiles⟩ :=
    Tools.carryOut_importFrom hhome hopen hwritable htext hparse h x.importTime
  have hrun : x.imported = ((Tools.carryOut Float files a x.importTime
      (.importFrom x.source)).run x.importIds).1 := by
    unfold imported Tools.result
    rw [Invocation.perform_run, hopened]
  rw [hrun, hfiles]
  exact ⟨hfailure, hleads, .of_setFile (projectRows_storedRows ..)⟩

end Exchange

/-- **Importing is a projection.** What is written of an imported canvas is imported as just that
canvas, and no new ids are needed. On the command line the import of a document that is accepted
succeeds, and after an export to a file other than the archive and the import of that file, the body
of the canvas and the name of the project are stored as they were after the first import. Only the
files can make these two runs fail, and then what is stored is left as it was. -/
theorem import_is_projection {value : Json} (hvalue : value.Valid) {ids : IdSource}
    {project : ImportedProject Float} (h : ((Import.project value).run ids).1 = .ok project) :
    (∀ ids, (Import.project (JsonForm.toValue project.snapshot)).run ids =
      (.ok ⟨project.snapshot, none, []⟩, ids)) ∧
    ∀ {x : Exchange} {home : Place} {text : String}, x.importIds = ids → x.Finds home text →
      Json.parse? text = some value → x.Legible project →
      (Place.ofPath x.target).path ≠ home.path →
      let stored : StoredCanvas :=
        ⟨some (JsonForm.toValue project.snapshot).compact, some (project.name.getD Tools.untitled)⟩
      x.imported.failure = none ∧ x.imported.files.stored? home = some stored ∧
        (x.exported.failure = none ↔ x.CanExport) ∧ x.exported.files.stored? home = some stored ∧
        (x.exported.failure = none →
          (x.reimported.failure = none ↔ x.CanReimport) ∧
            x.reimported.files.stored? home = some stored) := by
  have hs : project.snapshot.Canonical := Import.canonical_of_project hvalue h
  refine ⟨Import.project_snapshot hs, ?_⟩
  intro x home text hids hfinds hparse hlegible hapart stored
  subst hids
  obtain ⟨himported, hleads, hholds⟩ := Exchange.holdsProject_imported hfinds hparse h
  obtain ⟨hexport, hkept, hwritten⟩ := Tools.holdsProject_exportTo hleads hholds hs
    hlegible.imported hapart x.exportTime x.exportIds
  refine ⟨himported, hholds.stored?_eq hlegible.imported, hexport,
    hkept.stored?_eq hlegible.imported, fun hexported => ?_⟩
  have hfile : x.exported.files.file? (Place.ofPath x.target) =
      some (.text (toJson (x.file project)).pretty) := by
    unfold Exchange.exported
    rw [hwritten hexported, FileTree.file?_setFile, if_pos rfl]
    rfl
  have hproject := Import.project_toValue (f := x.file project) hs
    (fun tab htab => nomatch htab) x.reimportIds
  obtain ⟨hreimport, hlast⟩ := Tools.holdsProject_importFrom hleads hkept hfile
    hlegible.exported (congrArg Prod.fst hproject) x.reimportTime
  refine ⟨hreimport, ?_⟩
  -- the canvas is the same either way, and the projects differ in their times only
  rcases hlast with hlast | hlast
  · exact hlast.stored?_eq hlegible.imported
  · exact hlast.stored?_eq hlegible.reimported

/-! ## The runs on a draft -/

namespace Draft

/-- A document in a form of its own: nodes under their ids, and another name for their type. -/
def text : String :=
  "\x7b\"project\": \x7b\"name\": \"Draft\"\x7d,
    \"nodes\": \x7b\"a\": \x7b\"node_type\": \"input\", \"inputs\": [], \"outputs\": []\x7d\x7d\x7d"

def value : Json :=
  .object [
    ("nodes", .object [("a", .object [("inputs", .array []), ("node_type", .string "input"),
      ("outputs", .array [])])]),
    ("project", .object [("name", .string "Draft")])]

def project : ImportedProject Float where
  snapshot := {
    nodes := [{ id := "a", type := "input", position := ⟨0.0, 0.0⟩, parameters := {}, metadata := {} }]
    view := ⟨1.0, 0.0, 0.0⟩ }
  name := some "Draft"
  tabs := []

theorem project_value : ((Import.project value).run .counting).1 = .ok project := rfl

def home : Place := { names := ["canvas.db"] }

def exchange : Exchange where
  url := "canvas.db"
  source := "draft.json"
  target := "sketch.json"
  files := ({} : FileTree).setFile { names := ["draft.json"] } (.text text)
  importTime := ⟨0, 0⟩
  importIds := .counting
  exportTime := ⟨0, 0⟩
  exportIds := .counting
  reimportTime := ⟨0, 0⟩
  reimportIds := .counting

/-! What the runs print, as values and as text. -/

def zero : Json := .number (.float 0.0 (by decide +kernel))
def one : Json := .number (.float 1.0 (by decide +kernel))

def canvas : Json :=
  .object [("connections", .array []),
    ("nodes", .array [.object [("id", .string "a"), ("inputs", .array []), ("metadata", .object []),
      ("outputs", .array []), ("parameters", .object []), ("position", .array [zero, zero]),
      ("type", .string "input")]]),
    ("viewport", .object [("pan_x", zero), ("pan_y", zero), ("zoom", one)])]

def canvasText : String :=
  "\x7b\"connections\":[],\"nodes\":[\x7b\"id\":\"a\",\"inputs\":[],\"metadata\":\x7b\x7d," ++
  "\"outputs\":[],\"parameters\":\x7b\x7d,\"position\":[0.0,0.0],\"type\":\"input\"\x7d]," ++
  "\"viewport\":\x7b\"pan_x\":0.0,\"pan_y\":0.0,\"zoom\":1.0\x7d\x7d"

def info : Json :=
  .object [("name", .string "Draft"), ("saved_at", .string "1970-01-01T00:00:00Z")]

def infoText : String := "\x7b\"name\":\"Draft\",\"saved_at\":\"1970-01-01T00:00:00Z\"\x7d"

def file : Json := .object [("engine_tabs", .array []), ("project", info), ("state", canvas)]

def fileText : String := "\x7b
  \"project\": \x7b
    \"name\": \"Draft\",
    \"saved_at\": \"1970-01-01T00:00:00Z\"
  \x7d,
  \"state\": \x7b
    \"nodes\": [
      \x7b
        \"id\": \"a\",
        \"type\": \"input\",
        \"position\": [
          0.0,
          0.0
        ],
        \"parameters\": \x7b\x7d,
        \"metadata\": \x7b\x7d,
        \"inputs\": [],
        \"outputs\": []
      \x7d
    ],
    \"connections\": [],
    \"viewport\": \x7b
      \"zoom\": 1.0,
      \"pan_x\": 0.0,
      \"pan_y\": 0.0
    \x7d
  \x7d,
  \"engine_tabs\": []
\x7d"

theorem text_epoch : (⟨0, 0⟩ : Timestamp).text = "1970-01-01T00:00:00Z" := by decide +kernel

theorem toValue_info : JsonForm.toValue (Tools.importedMeta project ⟨0, 0⟩) = info := by
  rw [info, ← text_epoch]
  rfl

theorem toValue_file : JsonForm.toValue (exchange.file project) = file := by
  rw [file, ← toValue_info]
  rfl

theorem quote_eq (s : String) :
    Json.quote s = "\"" ++ s.toList.foldl (fun out c => out ++ Json.escapeChar c) "" ++ "\"" := by
  rw [Json.quote, String.foldl_eq_foldl_toList]

theorem compact_canvas : canvas.compact = canvasText := by
  simp only [canvas, Json.compact, Json.compactItems, Json.compactFields, quote_eq]
  decide +kernel

theorem compact_info : info.compact = infoText := by
  simp only [info, Json.compact, Json.compactFields, quote_eq]
  decide +kernel

theorem pretty_file : (toJson (exchange.file project)).pretty = fileText := by
  have hfile : toJson (exchange.file project) = .object [
      ("project", .object [("name", .string "Draft"), ("saved_at", .string (⟨0, 0⟩ : Timestamp).text)]),
      ("state", .object [
        ("nodes", .array [.object [("id", .string "a"), ("type", .string "input"),
          ("position", .array [zero, zero]), ("parameters", .object []), ("metadata", .object []),
          ("inputs", .array []), ("outputs", .array [])]]),
        ("connections", .array []),
        ("viewport", .object [("zoom", one), ("pan_x", zero), ("pan_y", zero)])]),
      ("engine_tabs", .array [])] := rfl
  rw [hfile, text_epoch]
  simp only [Json.pretty, Json.prettyAt, Json.prettyItems, Json.prettyFields, quote_eq]
  decide +kernel

/-! A literal is a list of characters, and on these the parser computes. -/

theorem parse?_text : Json.parse? text = some value := by
  have hchars : text.toList = _ := String.toList_ofList
  rw [Json.parse?, Markup.parse?, hchars]
  rfl

theorem parse?_infoText : Json.parse? infoText = some info := by
  have hchars : infoText.toList = _ := String.toList_ofList
  rw [Json.parse?, Markup.parse?, hchars]
  rfl

set_option maxRecDepth 4096 in
theorem parse?_canvasText : Json.parse? canvasText = some canvas := by
  have hchars : canvasText.toList = _ :=
    String.toList_append.trans (congrArg₂ (· ++ ·)
      (String.toList_append.trans (congrArg₂ (· ++ ·) String.toList_ofList String.toList_ofList))
      String.toList_ofList)
  rw [Json.parse?, Markup.parse?, hchars]
  rfl

set_option maxRecDepth 4096 in
theorem parse?_fileText : Json.parse? fileText = some file := by
  have hchars : fileText.toList = _ := String.toList_ofList
  rw [Json.parse?, Markup.parse?, hchars]
  rfl

theorem readable : Readable project.snapshot (Tools.importedMeta project ⟨0, 0⟩) where
  savedAt := by decide
  canvas := by
    have hcanvas : JsonForm.toValue project.snapshot = canvas := rfl
    rw [hcanvas, compact_canvas, parse?_canvasText]
  project := by rw [toValue_info, compact_info, parse?_infoText]

theorem legible : exchange.Legible project where
  imported := readable
  reimported := readable
  exported := by rw [pretty_file, toValue_file, parse?_fileText]

end Draft

/-- All three runs on the draft succeed. -/
theorem import_is_projection_draft :
    Draft.exchange.Finds Draft.home Draft.text ∧ Draft.exchange.Legible Draft.project ∧
      Draft.exchange.imported.failure = none ∧ Draft.exchange.exported.failure = none ∧
      Draft.exchange.reimported.failure = none ∧
      Draft.exchange.reimported.files.stored? Draft.home =
        some ⟨some Draft.canvasText, some "Draft"⟩ := by
  have hvalid : Draft.value.Valid := Json.valid_of_parse? Draft.parse?_text
  have hfinds : Draft.exchange.Finds Draft.home Draft.text := by decide +kernel
  have hapart : (Place.ofPath Draft.exchange.target).path ≠ Draft.home.path := by decide +kernel
  obtain ⟨-, hruns⟩ := import_is_projection hvalid Draft.project_value
  obtain ⟨himported, -, hexport, -, hreimport⟩ :=
    hruns rfl hfinds Draft.parse?_text Draft.legible hapart
  have hexported : Draft.exchange.exported.failure = none :=
    hexport.2 (by unfold Exchange.CanExport; decide +kernel)
  obtain ⟨hagain, hstored⟩ := hreimport hexported
  -- the text of the exported file is not needed to see that the file can be read
  have hcan : Draft.exchange.CanReimport := by
    obtain ⟨-, hleads, hholds⟩ :=
      Exchange.holdsProject_imported hfinds Draft.parse?_text Draft.project_value
    obtain ⟨-, -, hfiles⟩ := Tools.holdsProject_exportTo hleads hholds
      (Import.canonical_of_project hvalid Draft.project_value) Draft.readable hapart
      Draft.exchange.exportTime Draft.exchange.exportIds
    unfold Exchange.CanReimport
    rw [Exchange.exported, hfiles hexported]
    decide +kernel
  rw [← Draft.compact_canvas]
  exact ⟨hfinds, Draft.legible, himported, hexported, hagain.2 hcan, hstored⟩

end NodeCanvas
