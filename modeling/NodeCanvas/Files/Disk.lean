import NodeCanvas.Files.Tree
/-!
# Files on disk

On disk an archive is a header line and its rows as JSON. Any other text stands for itself.
-/

namespace NodeCanvas

namespace FileContent

/-- The first line of an archive. -/
def header : String := "node canvas archive 1\n"

def encodeRow (row : Row) : Json :=
  .array [.ofInt row.version, toJson row.savedAt, .string row.body]

def decodeRow? : Json → Option Row
  | .array [.number (.int version), savedAt, .string body] => do
    return ⟨version, ← ofJson? savedAt, body⟩
  | _ => none

/-- The text of a file. -/
def encode : FileContent → String
  | .text written => written
  | .archive rows => header ++ (Json.ofTable (rows.mapValues fun _ row => encodeRow row)).compact

/-- What a text stands for. -/
def decode (written : String) : FileContent :=
  let rows? : Option (List (String × Row)) := do
    let json ← Text.after? header.toList written.toList
    let table ← Json.parse? (String.ofList json) >>= Json.table?
    table.entries.mapM fun (key, row) => do return (key, ← decodeRow? row)
  match rows? with
  | some rows => .archive (Table.ofList rows)
  | none => .text written

end FileContent

namespace FileTree

/-- The files of a tree that another does not hold, or holds differently, as they stand on disk. -/
def changes (t before : FileTree) : List (String × String) :=
  t.files.entries.filterMap fun (path, content) =>
    let text := content.encode
    if (before.files.get? path).any fun old => old.encode == text then none else some (path, text)

end FileTree

end NodeCanvas
