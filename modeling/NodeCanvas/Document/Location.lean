import NodeCanvas.Document.FileName
import NodeCanvas.Files.Tree
import NodeCanvas.Settings
import NodeCanvas.Text.Basic
/-!
# Where an archive is

An archive is named by a URL of the scheme `sqlite`: the name of its file, or `:memory:`, and
perhaps options. A plain path will do, too, once it is normalized. Opening an archive makes the
directories around its file and the file itself, unless the options forbid it. While an archive is
written, what it held before is kept in a journal, a second file beside it.
-/

namespace NodeCanvas

/-- Why an archive could not be opened. -/
inductive OpenError where
  | noDirectory (directory url : String)
  | badUrl (url : String)
  | unopened (url : String)
  | noTable
  deriving DecidableEq

def OpenError.message : OpenError → String
  | .noDirectory directory url =>
    "failed to create parent directory '" ++ directory ++ "' for database url '" ++ url ++ "'"
  | .badUrl url => "invalid sqlite url '" ++ url ++ "'"
  | .unopened url => "failed to open document store at '" ++ url ++ "'"
  | .noTable => "failed to ensure documents table exists"

/-- What may be done to a file. -/
inductive FileAccess where
  | read
  | write
  | create
  deriving DecidableEq

/-- How much may be done. -/
def FileAccess.rank : FileAccess → Nat
  | .read => 1
  | .write => 2
  | .create => 6

/-- What a URL says about an archive. -/
structure ArchiveOptions where
  /-- The path of the file; the empty one stands for a file that nobody else sees. -/
  path : String
  access : FileAccess := .create
  inMemory : Bool := false
  immutable : Bool := false
  /-- The name of the part of the operating system to go through. -/
  gateway : Option String := none

namespace ArchiveUrl

/-- A URL without its scheme. -/
def withoutScheme (url : String) : List Char :=
  Text.dropAll "sqlite:" (Text.dropAll "sqlite://" url.toList)

/-- The URL that a setting stands for. Backslashes in a plain path count as slashes. -/
def normalize (raw : String) : String :=
  let chars := trimBlanks raw.toList
  let url := String.ofList chars
  let slashes (path : List Char) : String :=
    "sqlite://" ++ String.ofList (path.map fun c => if c = '\\' then '/' else c)
  if chars.isEmpty then ({} : Settings).databaseUrl
  else if Text.startsWith url "sqlite::memory:" || Text.contains url "://" then url
  else
    match Text.after? "sqlite:".toList chars with
    | some path => slashes path
    | none => slashes chars

/-- The path of the file, as it stands in the URL. -/
def path? (url : String) : Option String :=
  let path := (withoutScheme url).takeWhile (· ≠ '?')
  if url == "sqlite::memory:" || !Text.startsWith url "sqlite:" || path.isEmpty then none
  else some (String.ofList path)

/-- Names and values of options, in order. -/
def optionPairs (text : List Char) : List (String × String) :=
  let plain (part : List Char) : String :=
    (Percent.decode? (part.map fun c => if c = '+' then ' ' else c)).getD "\uFFFD"
  ((Text.splitOn (· == '&') text).filter (!·.isEmpty)).map fun pair =>
    let (name, value) := pair.span (· ≠ '=')
    (plain name, plain value.tail)

/-- The options with one more of them set. -/
def setOption? (options : ArchiveOptions) : String × String → Option ArchiveOptions
  | ("mode", "ro") => some { options with access := .read }
  | ("mode", "rw") | ("mode", "rwc") => some options
  | ("mode", "memory") => some { options with inMemory := true }
  | ("cache", "private") | ("cache", "shared") => some options
  | ("immutable", "true") | ("immutable", "1") => some { options with immutable := true }
  | ("immutable", "false") | ("immutable", "0") => some { options with immutable := false }
  | ("vfs", name) => some { options with gateway := some name }
  | _ => none

/-- The name of an archive that no file holds. -/
def memoryName : List Char := ":memory:".toList

/-- What a URL says, if it makes sense. -/
def options? (url : String) : Option ArchiveOptions := do
  let (path, rest) := (withoutScheme url).span (· ≠ '?')
  let options ←
    if path = memoryName then some { path := "", inMemory := true }
    else (Percent.decode? path).map fun path => { path }
  (optionPairs rest.tail).foldlM setOption? options

/-- The modes in which a file name may ask for its file, each with what may then be done. -/
def modes : List (String × Option FileAccess) :=
  [("ro", some .read), ("rw", some .write), ("rwc", some .create), ("memory", none)]

/-- The options with one more of them set by the file name, which cannot ask for more than the URL
allows. -/
def refine? (options : ArchiveOptions) : String × String → Option ArchiveOptions
  | ("vfs", name) => some { options with gateway := some name }
  | ("cache", kind) => if ["shared", "private"].contains kind then some options else none
  | ("mode", mode) =>
    match modes.lookup mode with
    | none => none
    | some none => some { options with inMemory := true, access := .create }
    | some (some access) =>
      if options.inMemory || access.rank ≤ options.access.rank then
        some { options with inMemory := false, access }
      else none
  | _ => some options

/-- The names of the known parts of the operating system. -/
def gateways : List String := ["unix", "unix-dotfile", "unix-excl", "unix-none", "memdb"]

end ArchiveUrl

/-- An open archive and the place of its file, if it has one that lasts. -/
structure OpenArchive where
  archive : Archive := {}
  home : Option Place := none

namespace FileTree

variable (t : FileTree)

/-- Make the directories around the file of an archive. -/
def makeRoomFor (url : String) : Except OpenError Unit × FileTree :=
  match ArchiveUrl.path? url >>= parentPath? with
  | none => (.ok (), t)
  | some directory =>
    let (made, t) := t.makeDirectories directory
    (if made then .ok () else .error (.noDirectory directory url), t)

/-- Normalize the URL in a setting and make room for its archive. -/
def prepareArchive (raw : String) : Except OpenError String × FileTree :=
  let url := ArchiveUrl.normalize raw
  let (made, t) := t.makeRoomFor url
  (made.map fun _ => url, t)

/-- The longest path of a journal, in bytes. -/
def longestJournalPath : Nat := 512

/-- Where the journal of the archive at a place is. -/
def journalOf (p : Place) : Place :=
  { p with names := p.names.dropLast ++ (p.names.getLast?.toList.map (· ++ "-journal")) }

/-- Whether the archive at a place can be written. -/
def canJournal (p : Place) : Bool :=
  !t.isDirectory (journalOf p) &&
    (journalOf p).names.all fun name => name.utf8ByteSize ≤ longestName

/-- Make an archive of a file without content. It stays as it is if there can be no journal. -/
def beginArchive (p : Place) : Except OpenError OpenArchive × FileTree :=
  if t.canJournal p then
    (.ok { home := some p }, (t.removeFile (journalOf p)).setFile p (.archive ∅))
  else (.error .noTable, t.setFile p (.text ""))

/-- Whether a journal has content, which stems from a change that was not finished. -/
def isPending (journal : FileContent) : Bool :=
  match journal with
  | .text text => text.toList.head?.any (· ≠ Char.ofNat 0)
  | .archive _ => true

/-- Open an archive with rows. A pending journal is settled first. -/
def resumeArchive (p : Place) (rows : Table Row) (options : ArchiveOptions) :
    Except OpenError OpenArchive × FileTree :=
  let readOnly := options.access == .read
  let opened := { archive := { rows, writable := !readOnly && !options.immutable }, home := some p }
  if options.immutable || !(t.file? (journalOf p)).any isPending then (.ok opened, t)
  else if readOnly then (.error .noTable, t)
  else (.ok opened, t.removeFile (journalOf p))

/-- Open the archive in the file at a place. An empty file becomes one. -/
def openAt (url : String) (options : ArchiveOptions) (p : Place) :
    Except OpenError OpenArchive × FileTree :=
  let writable := options.access != .read && !options.immutable
  match t.file? p with
  | some (.archive rows) => t.resumeArchive p rows options
  | some (.text text) =>
    if text.isEmpty ∧ writable then t.beginArchive p else (.error .noTable, t)
  | none =>
    if options.access != .create then (.error (.unopened url), t)
    else if writable then t.beginArchive p
    else (.error .noTable, t.setFile p (.text ""))

/-- Follow the segments of a path, which need not exist, but must not lead through a file. -/
def reach? (t : FileTree) (p : Place) : List String → Option Place
  | [] => some p
  | segment :: segments =>
    let next := p.follow segment
    if longestName < segment.utf8ByteSize || t.isBelowFile next then none
    else reach? t next segments

/-- The place of the archive with a path, if a file can be there. -/
def archivePlace? (path : String) : Option Place := do
  let p ← t.reach? (Place.start path) (pathSegments path)
  guard (!path.toList.contains (Char.ofNat 0))
  guard ((journalOf p).path.utf8ByteSize ≤ longestJournalPath)
  guard (t.isDirectory p.up && !t.isDirectory p)
  return p

/-- Open the archive that options describe. The options have the last word on the path if they say
anything special; otherwise it is a file name. -/
def openWith (url : String) (options : ArchiveOptions) : Except OpenError OpenArchive × FileTree :=
  let unopened := (.error (.unopened url), t)
  if options.gateway.any (!ArchiveUrl.gateways.contains ·) then unopened
  else if options.inMemory || options.path.isEmpty then
    (if options.access == .read then .error .noTable else .ok {}, t)
  else if options.gateway == some "memdb" then
    (if options.access == .read || options.immutable then .error .noTable else .ok {}, t)
  else
    match t.archivePlace? options.path with
    | some place => t.openAt url options place
    | none => unopened

/-- What a file name adds to the options of a URL. A path with special options is taken as it is, up
to its first null character. -/
def settle? (options : ArchiveOptions) : Option ArchiveOptions := do
  let special := options.immutable || options.gateway.isSome
  if special then
    let upToNull (text : String) : String :=
      String.ofList (text.toList.takeWhile (· ≠ Char.ofNat 0))
    return { options with path := upToNull options.path, gateway := options.gateway.map upToNull }
  let name ← FileName.ofText? options.path
  let options ← name.options.foldlM ArchiveUrl.refine? { options with path := name.path }
  guard (options.inMemory || (name.option? "modeof").all t.isPresent)
  return { options with immutable := (name.option? "immutable").any FileName.isYes }

/-- Open the archive of a URL. -/
def openArchive (url : String) : Except OpenError OpenArchive × FileTree :=
  match t.makeRoomFor url with
  | (.error e, t) => (.error e, t)
  | (.ok (), t) =>
    match ArchiveUrl.options? url with
    | none => (.error (.badUrl url), t)
    | some options =>
      match t.settle? options with
      | none => (.error (.unopened url), t)
      | some options => t.openWith url options

/-- The tree with what has become of an open archive. -/
def keep (opened : OpenArchive) : FileTree :=
  match opened.home with
  | some place => t.setFile place (.archive opened.archive.rows)
  | none => t

end FileTree

end NodeCanvas
