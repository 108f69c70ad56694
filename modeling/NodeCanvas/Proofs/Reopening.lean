import Mathlib
import NodeCanvas.Proofs.Table
import NodeCanvas.Tools
/-!
# Opening an archive again

A URL leads to one place, whatever the files are like. So an archive that was opened there and kept
is found there again, row for row: of all files, opening can only take away a journal
(`FileTree.reopens`). It may still fail, as a file name can make it depend on another file, but then
the archive stays what it is.
-/

namespace NodeCanvas

/-! ## Places -/

theorem intercalate_append_last (separator name suffix : String) (names : List String) :
    separator.intercalate (names ++ [name ++ suffix]) =
      separator.intercalate (names ++ [name]) ++ suffix := by
  by_cases h : names = []
  · rw [h, List.nil_append, List.nil_append, String.intercalate_singleton,
      String.intercalate_singleton]
  · rw [String.intercalate_append_of_ne_nil h (by simp),
      String.intercalate_append_of_ne_nil h (by simp), String.intercalate_singleton,
      String.intercalate_singleton, ← String.append_assoc]

namespace FileTree

variable {p : Place} {path : String} {q : Place}

theorem path_journalOf (h : p.names ≠ []) : (journalOf p).path = p.path ++ "-journal" := by
  have hnames : p.names = p.names.dropLast ++ [p.names.getLast h] :=
    (List.dropLast_append_getLast h).symm
  have hjournal : (journalOf p).names = p.names.dropLast ++ [p.names.getLast h ++ "-journal"] := by
    rw [journalOf, List.getLast?_eq_some_getLast h]
    rfl
  have hbase : (journalOf p).base = p.base := rfl
  have hwhole : "/".intercalate (journalOf p).names = "/".intercalate p.names ++ "-journal" := by
    rw [hjournal, intercalate_append_last, ← hnames]
  unfold Place.path
  rw [hbase, hwhole]
  cases p.base with
  | here => rfl
  | above levels => exact (String.append_assoc ..).symm
  | root => exact (String.append_assoc ..).symm

theorem path_journalOf_ne (h : p.names ≠ []) : p.path ≠ (journalOf p).path := by
  rw [path_journalOf h]
  exact fun heq => absurd (String.append_eq_left_iff.1 heq.symm) (by decide)

variable {t t' : FileTree}

/-! ### Where a path leads -/

theorem foldl_follow_of_go {segments : List String}
    (h : locate?.go t p segments = some q) : q = segments.foldl Place.follow p := by
  induction segments generalizing p with
  | nil => exact (Option.some.inj h).symm
  | cons segment segments ih =>
    rw [locate?.go] at h
    split at h
    · exact ih h
    · cases h

/-- The file that a path names is where the path leads. -/
theorem ofPath_of_locate? (h : t.locate? path = some q) : q = Place.ofPath path := by
  unfold locate? at h
  split at h
  · cases h
  · cases h
  · cases h
  · cases h
  rename_i name hempty hdot hdots hlast
  split at h
  · cases h
  obtain ⟨p, hp, hq⟩ := Option.bind_eq_some_iff.1 h
  split at hq
  · cases hq
  have hsegments : pathSegments path = (pathSegments path).dropLast ++ [name] :=
    (List.dropLast_append_getLast? name hlast).symm
  have hfollow : p.follow name = p.down name := by
    unfold Place.follow
    have hstay : ¬ (name == "" || name == ".") = true := by
      rw [Bool.or_eq_true, beq_iff_eq, beq_iff_eq, not_or]
      exact ⟨hempty, hdot⟩
    rw [if_neg hstay, if_neg fun heq => hdots (beq_iff_eq.1 heq)]
  rw [Place.ofPath, hsegments, List.foldl_append, ← foldl_follow_of_go hp]
  exact (Option.some.inj hq).symm.trans hfollow.symm

theorem foldl_follow_of_reach? {segments : List String}
    (h : t.reach? p segments = some q) : q = segments.foldl Place.follow p := by
  induction segments generalizing p with
  | nil => exact (Option.some.inj h).symm
  | cons segment segments ih =>
    rw [reach?] at h
    split at h
    · cases h
    · exact ih h

/-- An archive is where its path leads, which is below where paths start. -/
theorem ofPath_of_archivePlace? (h : t.archivePlace? path = some p) :
    p = Place.ofPath path ∧ p.names ≠ [] := by
  obtain ⟨q, hq, h⟩ := Option.bind_eq_some_iff.1 h
  obtain ⟨-, -, h⟩ := Option.bind_eq_some_iff.1 h
  obtain ⟨-, -, h⟩ := Option.bind_eq_some_iff.1 h
  obtain ⟨_, hfree, h⟩ := Option.bind_eq_some_iff.1 h
  obtain rfl : q = p := Option.some.inj h
  refine ⟨foldl_follow_of_reach? hq, fun hnames => ?_⟩
  have hdirectory : t.isDirectory q = true := by
    rw [isDirectory, hnames]
    rfl
  rw [hdirectory, Bool.not_true, Bool.and_false] at hfree
  cases hfree

/-! ## Files -/

theorem file?_setFile (t : FileTree) (p : Place) (content : FileContent) (q : Place) :
    (t.setFile p content).file? q = if q.path = p.path then some content else t.file? q :=
  Table.get?_insert ..

theorem file?_removeFile (t : FileTree) (p q : Place) :
    (t.removeFile p).file? q = if q.path = p.path then none else t.file? q :=
  Table.get?_erase ..

/-- Making directories leaves the files alone. -/
theorem files_makeAlong (t : FileTree) (p : Place) (segments : List String) :
    (t.makeAlong p segments).2.files = t.files := by
  induction segments generalizing t p with
  | nil => rfl
  | cons segment segments ih =>
    rw [makeAlong]
    split
    · exact ih ..
    · split
      · rfl
      · exact ih ..

theorem files_makeDirectories (t : FileTree) (path : String) :
    (t.makeDirectories path).2.files = t.files := by
  rw [makeDirectories]
  split
  · exact files_makeAlong ..
  · rfl

theorem files_makeRoomFor (t : FileTree) (url : String) : (t.makeRoomFor url).2.files = t.files := by
  unfold makeRoomFor
  split
  · rfl
  · exact files_makeDirectories ..

theorem file?_eq_of_files (h : t'.files = t.files) (p : Place) : t'.file? p = t.file? p := by
  rw [file?, file?, h]

/-- The text that is read is that of the file where the path leads. -/
theorem file?_of_readText? {text : String} (h : t.readText? path = some text) :
    t.file? (Place.ofPath path) = some (.text text) := by
  obtain ⟨p, hp, h⟩ := Option.bind_eq_some_iff.1 h
  obtain ⟨content, hcontent, h⟩ := Option.bind_eq_some_iff.1 h
  obtain rfl := ofPath_of_locate? hp
  cases content with
  | text found =>
    cases h
    exact hcontent
  | archive rows => cases h

end FileTree

/-! ## What a URL says -/

namespace ArchiveOptions

/-- The place of the file, if it lasts. -/
def home? (options : ArchiveOptions) : Option Place :=
  if options.inMemory || options.path.isEmpty || options.gateway == some "memdb" then none
  else some (Place.ofPath options.path)

/-- Whether rows can be written. -/
def writable (options : ArchiveOptions) : Bool := options.access != .read && !options.immutable

end ArchiveOptions

namespace FileTree

variable {t t' : FileTree}
  {options : ArchiveOptions} {p : Place} {a : OpenArchive} {rows : Table Row}

/-- The files have a say in whether options settle, but not in what they settle to. -/
theorem settle?_unique {given options' : ArchiveOptions} (h : t.settle? given = some options)
    (h' : t'.settle? given = some options') : options = options' := by
  unfold settle? at h h'
  by_cases hspecial : (given.immutable || given.gateway.isSome) = true
  · simp only [hspecial, if_true] at h h'
    exact Option.some.inj (h.symm.trans h')
  · simp only [hspecial, if_false, Bool.false_eq_true] at h h'
    obtain ⟨name, hname, h⟩ := Option.bind_eq_some_iff.1 h
    obtain ⟨name', hname', h'⟩ := Option.bind_eq_some_iff.1 h'
    obtain rfl : name = name' := Option.some.inj (hname.symm.trans hname')
    obtain ⟨refined, hrefined, h⟩ := Option.bind_eq_some_iff.1 h
    obtain ⟨refined', hrefined', h'⟩ := Option.bind_eq_some_iff.1 h'
    obtain rfl : refined = refined' := Option.some.inj (hrefined.symm.trans hrefined')
    obtain ⟨-, -, h⟩ := Option.bind_eq_some_iff.1 h
    obtain ⟨-, -, h'⟩ := Option.bind_eq_some_iff.1 h'
    exact Option.some.inj (h.symm.trans h')

/-- Open the archive that a setting names, as a run of the command line does first. -/
def opened (t : FileTree) (raw : String) : Except OpenError OpenArchive × FileTree :=
  match t.prepareArchive raw with
  | (.error cause, t) => (.error cause, t)
  | (.ok url, t) => t.openArchive url

/-- The archive opens, and the files then pass a check. -/
def opensTo (t : FileTree) (raw : String) (check : FileTree → Bool) : Bool :=
  match t.opened raw with
  | (.ok _, t) => check t
  | (.error _, _) => false

/-- The setting names an archive at a place that lasts, and its rows can be written. -/
def LeadsTo (raw : String) (p : Place) : Prop :=
  ∃ given options, ArchiveUrl.options? (ArchiveUrl.normalize raw) = some given ∧
    (∃ t : FileTree, t.settle? given = some options) ∧ options.home? = some p ∧
      options.writable = true

/-- Opening fails before any file is touched, or comes down to settled options. -/
theorem opened_cases (t : FileTree) (raw : String) :
    (∃ cause, (t.opened raw).1 = .error cause ∧ (t.opened raw).2.files = t.files) ∨
      ∃ given options room, ArchiveUrl.options? (ArchiveUrl.normalize raw) = some given ∧
        settle? room given = some options ∧ room.files = t.files ∧
        t.opened raw = room.openWith (ArchiveUrl.normalize raw) options := by
  unfold opened prepareArchive openArchive
  dsimp only
  have hroom := files_makeRoomFor t (ArchiveUrl.normalize raw)
  rcases hmade : t.makeRoomFor (ArchiveUrl.normalize raw) with ⟨made, t₁⟩
  rw [hmade] at hroom
  cases made with
  | error cause => exact .inl ⟨cause, rfl, hroom⟩
  | ok _ =>
    dsimp only [Except.map]
    have hagain := (files_makeRoomFor t₁ (ArchiveUrl.normalize raw)).trans hroom
    rcases hmade' : t₁.makeRoomFor (ArchiveUrl.normalize raw) with ⟨made, t₂⟩
    rw [hmade'] at hagain
    cases made with
    | error cause => exact .inl ⟨cause, rfl, hagain⟩
    | ok _ =>
      dsimp only
      cases ArchiveUrl.options? (ArchiveUrl.normalize raw) with
      | none => exact .inl ⟨_, rfl, hagain⟩
      | some given =>
        dsimp only
        cases hsettled : t₂.settle? given with
        | none => exact .inl ⟨_, rfl, hagain⟩
        | some options => exact .inr ⟨given, options, t₂, rfl, hsettled, hagain, rfl⟩

/-! ## Opening -/

/-- Of options for a file that lasts, opening looks at the file there. -/
theorem openWith_of_home? (h : options.home? = some p) (t : FileTree) (url : String) :
    t.openWith url options = (.error (.unopened url), t) ∨
      p.names ≠ [] ∧ t.openWith url options = t.openAt url options p := by
  unfold ArchiveOptions.home? at h
  split at h
  · cases h
  rename_i hlasts
  simp only [Bool.or_eq_true, not_or] at hlasts
  obtain ⟨⟨hmemory, hpath⟩, hgateway⟩ := hlasts
  unfold openWith
  dsimp only
  split
  · exact .inl rfl
  rw [if_neg (by simp [hmemory, hpath])]
  cases hplace : t.archivePlace? options.path with
  | none => exact .inl rfl
  | some q =>
    obtain ⟨hq, hnames⟩ := ofPath_of_archivePlace? hplace
    obtain rfl : q = p := hq.trans (Option.some.inj h)
    exact .inr ⟨hnames, rfl⟩

/-- Options for a file that does not last open nothing at a place. -/
theorem home_of_openWith {url : String}
    (h : options.home? = none) (hopen : (t.openWith url options).1 = .ok a) : a.home = none := by
  have hopened : ∀ c : Bool, (if c then Except.error OpenError.noTable else .ok {}) = Except.ok a →
      a.home = none := by
    intro c hc
    split at hc
    · cases hc
    · cases hc
      rfl
  unfold openWith at hopen
  dsimp only at hopen
  split at hopen
  · cases hopen
  split at hopen
  · exact hopened _ hopen
  split at hopen
  · exact hopened _ hopen
  rename_i hmemory hgateway
  rw [ArchiveOptions.home?, if_neg (by simp_all)] at h
  cases h

/-- An archive that opens for the first time can be used as far as the options allow. -/
theorem openAt_ok {url : String} (h : (t.openAt url options p).1 = .ok a) :
    a.home = some p ∧ a.archive.writable = options.writable ∧ a.archive.closed = false := by
  have hbegin : options.writable = true → (t.beginArchive p).1 = .ok a →
      a.home = some p ∧ a.archive.writable = options.writable ∧ a.archive.closed = false := by
    intro hwritable hbegin
    unfold beginArchive at hbegin
    split at hbegin
    · cases hbegin
      exact ⟨rfl, hwritable.symm, rfl⟩
    · cases hbegin
  unfold openAt at h
  dsimp only at h
  split at h
  · rename_i rows hfile
    unfold resumeArchive at h
    dsimp only at h
    split at h
    · cases h
      exact ⟨rfl, rfl, rfl⟩
    split at h
    · cases h
    · cases h
      exact ⟨rfl, rfl, rfl⟩
  · split at h
    · rename_i hempty
      exact hbegin hempty.2 h
    · cases h
  · split at h
    · cases h
    split at h
    · rename_i hwritable
      exact hbegin hwritable h
    · cases h

/-- A setting leads to where it has opened an archive that can be written. -/
theorem leadsTo_of_opened {raw : String}
    (h : t.opened raw = (.ok a, t')) (hhome : a.home = some p) (hwritable : a.archive.writable = true) :
    LeadsTo raw p ∧ a.archive.closed = false := by
  obtain ⟨cause, herror, -⟩ | ⟨given, options, room, hgiven, hsettled, -, hopen⟩ := t.opened_cases raw
  · rw [h] at herror
    cases herror
  have hok : (room.openWith (ArchiveUrl.normalize raw) options).1 = .ok a := by
    rw [← hopen, h]
  cases hoptions : options.home? with
  | none =>
    rw [home_of_openWith hoptions hok] at hhome
    cases hhome
  | some q =>
    obtain hfailed | ⟨-, hat⟩ := openWith_of_home? hoptions room (ArchiveUrl.normalize raw)
    · rw [hfailed] at hok
      cases hok
    rw [hat] at hok
    obtain ⟨hq, hoption, hopened⟩ := openAt_ok hok
    obtain rfl : q = p := Option.some.inj (hq.symm.trans hhome)
    exact ⟨⟨given, options, hgiven, ⟨room, hsettled⟩, hoptions, hoption ▸ hwritable⟩, hopened⟩

/-! ## Opening again -/

/-- What opening gives and leaves where an archive with these rows is. -/
structure Reopens (t : FileTree) (p : Place) (rows : Table Row)
    (result : Except OpenError OpenArchive × FileTree) : Prop where
  archive : result.2.file? p = some (.archive rows)
  files (q : Place) : result.2.file? q = t.file? q ∨ result.2.file? q = none
  opened {a : OpenArchive} : result.1 = .ok a → a = ⟨{ rows }, some p⟩

theorem Reopens.of_files
    {result : Except OpenError OpenArchive × FileTree} (h : Reopens t' p rows result)
    (hfiles : t'.files = t.files) : Reopens t p rows result where
  archive := h.archive
  files q := file?_eq_of_files hfiles q ▸ h.files q
  opened := h.opened

/-- Nothing has changed, and an archive that is opened has the rows found. -/
theorem Reopens.unchanged (hfile : t.file? p = some (.archive rows))
    {result : Except OpenError OpenArchive} (h : ∀ a, result = .ok a → a = ⟨{ rows }, some p⟩) :
    Reopens t p rows (result, t) :=
  ⟨hfile, fun _ => .inl rfl, h _⟩

theorem reopens_openAt (hfile : t.file? p = some (.archive rows)) (hnames : p.names ≠ [])
    (hwritable : options.writable = true) (url : String) :
    Reopens t p rows (t.openAt url options p) := by
  unfold openAt
  simp only [hfile]
  unfold resumeArchive
  have hopened : (options.access != .read && !options.immutable) = true := hwritable
  have haccess : (!(options.access == .read) && !options.immutable) = true := hopened
  dsimp only
  rw [haccess]
  split
  · exact .unchanged hfile fun _ h => (Except.ok.inj h).symm
  split
  · exact .unchanged hfile fun _ h => nomatch h
  · refine ⟨?_, fun q => ?_, fun h => (Except.ok.inj h).symm⟩
    · rw [file?_removeFile, if_neg (path_journalOf_ne hnames), hfile]
    · rw [file?_removeFile]
      split
      · exact .inr rfl
      · exact .inl rfl

/-- **An archive is found again where a setting leads, row for row, and opening it can only take
away files.** -/
theorem reopens {raw : String} (h : LeadsTo raw p)
    (hfile : t.file? p = some (.archive rows)) : Reopens t p rows (t.opened raw) := by
  obtain ⟨given, options, hgiven, ⟨before, hbefore⟩, hhome, hwritable⟩ := h
  obtain ⟨cause, herror, hfiles⟩ | ⟨given', options', room, hgiven', hsettled, hfiles, hopen⟩ :=
    t.opened_cases raw
  · have hunchanged : Reopens (t.opened raw).2 p rows (t.opened raw) := by
      refine Reopens.unchanged (by rw [file?_eq_of_files hfiles, hfile]) fun a ha => ?_
      cases herror.symm.trans ha
    exact hunchanged.of_files hfiles
  obtain rfl : given = given' := Option.some.inj (hgiven.symm.trans hgiven')
  obtain rfl := settle?_unique hbefore hsettled
  have hroom : room.file? p = some (.archive rows) := by rw [file?_eq_of_files hfiles, hfile]
  rw [hopen]
  refine Reopens.of_files ?_ hfiles
  obtain hfailed | ⟨hnames, hat⟩ := openWith_of_home? hhome room (ArchiveUrl.normalize raw)
  · rw [hfailed]
    exact .unchanged hroom fun _ h => nomatch h
  · rw [hat]
    exact reopens_openAt hroom hnames hwritable _

end FileTree

/-! ## Runs of the command line -/

namespace Invocation

variable {R : Type} [Scalar R] {files : FileTree} {url : String}

/-- A command is carried out on the archive that is opened. -/
theorem perform_run (command : ToolCommand) (now : Timestamp) :
    (run url command).perform R files now = match files.opened url with
      | (.error cause, files') => pure (.failed (.unopened cause) files')
      | (.ok a, files') => Tools.carryOut R files' a now command := by
  unfold perform FileTree.opened
  dsimp only
  rcases files.prepareArchive url with ⟨prepared, room⟩
  cases prepared with
  | error cause => rfl
  | ok url => rfl

end Invocation

end NodeCanvas
