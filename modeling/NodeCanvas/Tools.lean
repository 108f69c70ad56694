import NodeCanvas.Document.Canvas
import NodeCanvas.Document.Location
/-!
# The command line

`tools` looks at the documents of a canvas and exchanges it with project files, without a backend.
`Invocation.parse` reads the arguments and `Invocation.perform` does what they ask for, on a tree of
files.
-/

namespace NodeCanvas

inductive ToolCommand where
  /-- List the documents and sum up the canvas. -/
  | summary
  /-- Write the canvas to a project file. -/
  | exportTo (file : String)
  /-- Replace the canvas by that of a project file. -/
  | importFrom (file : String)
  /-- Delete all documents. -/
  | reset

/-- What the arguments of a run ask for. -/
inductive Invocation where
  | run (url : String) (command : ToolCommand)
  /-- Explain the program or one of its commands. -/
  | help (topic : Option String)
  | misuse

namespace Invocation

/-! ## Arguments -/

/-- What the name of a command does, if it takes a file. -/
def withFile? : String → Option (String → ToolCommand)
  | "export" => some .exportTo
  | "import" => some .importFrom
  | _ => none

/-- What the name of a command does, if it takes none. -/
def alone? : String → Option ToolCommand
  | "show" => some .summary
  | "reset" => some .reset
  | _ => none

/-- Whether an argument is an option and no value. -/
def isOption (argument : String) : Bool := Text.startsWith argument "-" && argument != "-"

/-- Whether an argument asks for help. Letters that follow the short option are not looked at. -/
def isHelp (argument : String) : Bool := argument == "--help" || Text.startsWith argument "-h"

/-- The file among the arguments of a command. After two hyphens everything counts as a value. -/
def fileOf? : List String → Option String
  | [file] => if isOption file || file.isEmpty then none else some file
  | ["--", file] => if file.isEmpty then none else some file
  | [file, "--"] => if isOption file || file.isEmpty then none else some file
  | _ => none

/-- The help that arguments of a command ask for, if it comes before anything wrong. -/
def asksHelp (takesFile : Bool) : List String → Bool
  | [] => false
  | argument :: rest =>
    isHelp argument ||
      (takesFile && !isOption argument && !argument.isEmpty && asksHelp false rest)

/-- The command in the arguments after the options. -/
def ofCommand (url name : String) (rest : List String) : Invocation :=
  match withFile? name, alone? name with
  | some command, _ =>
    if asksHelp true rest then .help (some name)
    else ((fileOf? rest).map fun file => .run url (command file)).getD .misuse
  | none, some command =>
    if asksHelp false rest then .help (some name)
    else if rest.isEmpty || rest == ["--"] then .run url command
    else .misuse
  | none, none =>
    if name == "help" then
      match rest with
      | [] => .help none
      | [topic] =>
        if topic == "help" || (withFile? topic).isSome || (alone? topic).isSome then
          .help (some topic)
        else .misuse
      | _ => .misuse
    else .misuse

/-- The invocation that arguments stand for. One option, the URL of the archive, may stand before
the command. -/
def parse : List String → Invocation
  | [] => .misuse
  | "--database-url" :: url :: rest =>
    if isOption url then .misuse else afterUrl url rest
  | argument :: rest =>
    match Text.after? "--database-url=".toList argument.toList with
    | some url => afterUrl (String.ofList url) rest
    | none =>
      if isHelp argument then .help none else ofCommand ({} : Settings).databaseUrl argument rest
where
  /-- What follows the option. -/
  afterUrl (url : String) : List String → Invocation
    | [] => .misuse
    | name :: rest => if isHelp name then .help none else ofCommand url name rest

end Invocation

/-! ## Results -/

/-- Why a command failed. -/
inductive ToolError where
  | unopened (cause : OpenError)
  | store (cause : StoreError)
  | document (cause : DocumentError)
  | notJson
  | unread (file : String)
  | unwritten (file : String)

def ToolError.message : ToolError → String
  | .unopened cause => cause.message
  | .store cause => cause.message
  | .document cause => cause.message
  | .notJson => "the file is not valid JSON"
  | .unread file => "failed to read '" ++ file ++ "'"
  | .unwritten file => "failed to write '" ++ file ++ "'"

/-- What a run leaves: what it has printed, why it failed if it did, and the files. -/
structure ToolRun where
  status : Nat := 0
  lines : List String := []
  failure : Option ToolError := none
  files : FileTree

/-- A run that fails. -/
def ToolRun.failed (cause : ToolError) (files : FileTree) (lines : List String := []) : ToolRun :=
  { status := 1, lines, failure := some cause, files }

/-! ## Commands -/

namespace Tools

variable (R : Type) [Scalar R]

/-- The name of a project that has none. -/
def untitled : String := ({} : Settings).projectName

/-- The line of the list for a row. -/
def rowLine (row : RowSummary) : String :=
  row.key ++ " v" ++ Int.repr row.version ++ " saved_at=" ++ row.savedAt.listed ++ " bytes=" ++
    Nat.repr row.size

/-- The line for the canvas. -/
def canvasLine (snapshot : Option (Snapshot R)) : String :=
  match snapshot with
  | none => "canvas: none saved"
  | some s =>
    "canvas: nodes=" ++ Nat.repr s.nodes.length ++ " connections=" ++
      Nat.repr s.connections.length ++ " zoom=" ++ Layout.plain.write (Scalar.toFloat s.view.zoom)

/-- List the documents and sum up the canvas. Lines printed before a failure stay. -/
def summary (archive : Archive) : Drawing (List String × Option ToolError) := do
  match archive.list with
  | .error cause => return ([], some (.store cause))
  | .ok rows =>
    let lines := rows.map rowLine
    match ← Document.loadSnapshot (R := R) archive with
    | .error cause => return (lines, some (.document cause))
    | .ok snapshot =>
      let lines := lines ++ [canvasLine R snapshot]
      match Document.loadProject archive with
      | .error cause => return (lines, some (.document cause))
      | .ok project => return (lines ++ (project.map fun p => "project: " ++ p.name).toList, none)

/-- The project file of an archive. -/
def projectFile (archive : Archive) (now : Timestamp) :
    Drawing (Except DocumentError (ProjectFile R)) := do
  match ← Document.loadSnapshot (R := R) archive with
  | .error cause => return .error cause
  | .ok snapshot =>
    return (Document.loadProject archive).map fun project =>
      { project := project.getD ⟨untitled, now⟩, state := snapshot.getD .empty, tabs := [] }

/-- Put the canvas of a text into an archive. -/
def importText (archive : Archive) (text : String) (now : Timestamp) :
    Drawing (Except ToolError String × Archive) := do
  match Json.parse? text with
  | none => return (.error .notJson, archive)
  | some value =>
    match ← Import.project (R := R) value with
    | .error cause => return (.error (.document (.unrecognized cause)), archive)
    | .ok imported =>
      let project : ProjectMeta := ⟨imported.name.getD untitled, now⟩
      match Document.storeSnapshot archive imported.snapshot project with
      | (.error cause, archive) => return (.error (.document cause), archive)
      | (.ok (), archive) =>
        let counts := "imported nodes=" ++ Nat.repr imported.snapshot.nodes.length ++
          " connections=" ++ Nat.repr imported.snapshot.connections.length
        return (.ok (counts ++ " as '" ++ project.name ++ "'"), archive)

/-- Carry out a command on an open archive. -/
def carryOut (files : FileTree) (opened : OpenArchive) (now : Timestamp) :
    ToolCommand → Drawing ToolRun
  | .summary => do
    match ← summary R opened.archive with
    | (lines, none) => return { lines, files }
    | (lines, some cause) => return .failed cause files lines
  | .exportTo file => do
    match ← projectFile R opened.archive now with
    | .error cause => return .failed (.document cause) files
    | .ok project =>
      match files.writeText? file (toJson project).pretty with
      | none => return .failed (.unwritten file) files
      | some files => return { lines := ["exported " ++ file], files }
  | .importFrom file => do
    match files.readText? file with
    | none => return .failed (.unread file) files
    | some text =>
      let (line, archive) ← importText R opened.archive text now
      let files := files.keep { opened with archive }
      match line with
      | .error cause => return .failed cause files
      | .ok line => return { lines := [line], files }
  | .reset =>
    let (removed, archive) := Document.reset opened.archive
    let files := files.keep { opened with archive }
    match removed with
    | .error cause => return .failed (.document cause) files
    | .ok [] => return { lines := ["nothing to reset"], files }
    | .ok removed => return { lines := ["removed " ++ ", ".intercalate removed], files }

end Tools

namespace Invocation

/-! ## Help -/

/-- The commands and what they do. -/
def commands : List (String × String) :=
  [("show", "Lists stored documents and summarizes the saved canvas"),
    ("export", "Writes the saved canvas as a project file"),
    ("import", "Replaces the saved canvas with a project file. The backend is not contacted"),
    ("reset", "Deletes every local document")]

/-- What the command that explains the others does. -/
def helpPurpose : String := "Print this message or the help of the given subcommand(s)"

/-- A line of a list of commands. -/
def commandLine (entry : String × String) : String :=
  "  " ++ entry.1.pushn ' ' (8 - entry.1.length) ++ entry.2

/-- The explanation of the program or of a command. -/
def helpLines : Option String → List String
  | none =>
    ["Usage: tools [OPTIONS] <COMMAND>", "", "Commands:"] ++ commands.map commandLine ++
      [commandLine ("help", helpPurpose), "", "Options:",
        "      --database-url <DATABASE_URL>  [default: " ++ ({} : Settings).databaseUrl ++ "]",
        "  -h, --help                         Print help"]
  | some "help" =>
    [helpPurpose, "", "Usage: tools help [COMMAND]...", "", "Arguments:",
      "  [COMMAND]...  Print help for the subcommand(s)"]
  | some name =>
    let file := (withFile? name).isSome
    [(commands.lookup name).getD "", "",
      "Usage: tools " ++ name ++ (if file then " <FILE>" else ""), ""] ++
      (if file then ["Arguments:", "  <FILE>  ", ""] else []) ++
      ["Options:", "  -h, --help  Print help"]

/-- The paths that a run may look at. -/
def paths : Invocation → List String
  | .run raw command =>
    let url := ArchiveUrl.normalize raw
    let file : Option String :=
      match command with
      | .exportTo file | .importFrom file => some file
      | .summary | .reset => none
    (ArchiveUrl.path? url).toList ++ ((ArchiveUrl.options? url).map (·.path)).toList ++ file.toList
  | .help _ | .misuse => []

/-- Run the program. A misuse has status two and any other failure status one. -/
def perform (R : Type) [Scalar R] (files : FileTree) (now : Timestamp) :
    Invocation → Drawing ToolRun
  | .misuse => return { status := 2, files }
  | .help topic => return { lines := helpLines topic, files }
  | .run raw command => do
    match files.prepareArchive raw with
    | (.error cause, files) => return .failed (.unopened cause) files
    | (.ok url, files) =>
      match files.openArchive url with
      | (.error cause, files) => return .failed (.unopened cause) files
      | (.ok opened, files) => Tools.carryOut R files opened now command

end Invocation

end NodeCanvas
