import NodeCanvas.Files.Disk
import NodeCanvas.Tools
import Std.Time.DateTime.Timestamp
/-!
# The program `tools`

It reads from the disk what the command may look at, carries the command out, and writes back what
has changed.
-/

namespace NodeCanvas

namespace Disk

/-- Add what is at a place to a tree. What is there and has no text is a directory. -/
def look (t : FileTree) (p : Place) : IO FileTree := do
  match ← (IO.FS.readFile p.path).toBaseIO with
  | .ok text => return t.setFile p (.decode text)
  | .error (.noFileOrDirectory ..) => return t
  | .error _ => return { t with directories := t.directories.add p.path }

/-- Add what is along some paths to a tree. -/
def survey (paths : List String) : IO FileTree :=
  paths.foldlM (fun t path => do
    let (t, _) ← (pathSegments path).foldlM (fun (t, p) segment => do
      let p := p.follow segment
      return (← if p.names.isEmpty then pure t else look t p, p)) (t, Place.start path)
    return t) {}

/-- Write the differences between two trees. -/
def save (before after : FileTree) : IO Unit := do
  for directory in after.directories.keys do
    unless before.directories.contains directory do IO.FS.createDirAll directory
  for (path, text) in after.changes before do IO.FS.writeFile path text

/-- The time of day. -/
def now : IO Timestamp := do
  let nanos : Int := (← Std.Time.Timestamp.now).toNanosecondsSinceUnixEpoch.val
  return ⟨nanos / 1000000000, (nanos % 1000000000).toNat⟩

/-- A source of identifiers that no other run has. -/
def ids : IO IdSource := do
  let bytes ← IO.getRandomBytes 12
  return .seeded (bytes.foldl (fun n b => 256 * n + b.toNat) 0)

end Disk

end NodeCanvas

open NodeCanvas in
def main (arguments : List String) : IO UInt32 := do
  let invocation := Invocation.parse arguments
  let before ← Disk.survey invocation.paths
  let (run, _) := (invocation.perform Float before (← Disk.now)).run (← Disk.ids)
  Disk.save before run.files
  for line in run.lines do IO.println line
  if let some cause := run.failure then IO.eprintln ("Error: " ++ cause.message)
  if run.status == 2 then for line in Invocation.helpLines none do IO.eprintln line
  return run.status.toUInt32
