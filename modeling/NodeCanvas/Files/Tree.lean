import NodeCanvas.Document.Archive
import NodeCanvas.Files.Place
/-!
# A tree of files

`FileTree` holds the directories and files that a program finds and leaves around its working
directory. A file holds text or the rows of an archive.
-/

namespace NodeCanvas

inductive FileContent where
  | text (text : String)
  | archive (rows : Table Row)

/-- Directories and files by the paths of their places. -/
structure FileTree where
  directories : KeySet := ∅
  files : Table FileContent := ∅

/-- The longest name and the longest path of a file, in bytes. -/
def longestName : Nat := 255
def longestPath : Nat := 4095

/-- Whether a text can be handed to the file system as a path. -/
def isPath (path : String) : Bool :=
  path.utf8ByteSize ≤ longestPath && !path.toList.contains (Char.ofNat 0)

namespace FileTree

variable (t : FileTree)

/-- Whether a directory is at a place. The directories where paths start are always there. -/
def isDirectory (p : Place) : Bool := p.names.isEmpty || t.directories.contains p.path

def file? (p : Place) : Option FileContent := t.files.get? p.path

def setFile (p : Place) (content : FileContent) : FileTree :=
  { t with files := t.files.insert p.path content }

def removeFile (p : Place) : FileTree := { t with files := t.files.erase p.path }

/-- Whether a file is where one of the directories around a place should be. -/
def isBelowFile (p : Place) : Bool :=
  (List.range p.names.length).any fun n => (t.file? { p with names := p.names.take n }).isSome

/-- Follow the segments of a path from a place and make the directories that are missing. Tells
whether that was possible; what was made before a failure stays. -/
def makeAlong (t : FileTree) (p : Place) : List String → Bool × FileTree
  | [] => (true, t)
  | segment :: segments =>
    let next := p.follow segment
    if t.isDirectory next then makeAlong t next segments
    else if (t.file? next).isSome || longestName < segment.utf8ByteSize then (false, t)
    else makeAlong { t with directories := t.directories.add next.path } next segments

/-- Make a directory and those around it. -/
def makeDirectories (path : String) : Bool × FileTree :=
  if isPath path then makeAlong t (Place.start path) (pathSegments path) else (false, t)

/-- The place of a file that a path names, if the directories on the way are there. -/
def locate? (path : String) : Option Place :=
  match (pathSegments path).getLast? with
  | none | some "" | some "." | some ".." => none
  | some name =>
    if !isPath path || longestName < name.utf8ByteSize then none
    else go (Place.start path) (pathSegments path).dropLast >>= fun p =>
      if t.isDirectory (p.down name) then none else some (p.down name)
where
  /-- Follow segments through directories. -/
  go (p : Place) : List String → Option Place
    | [] => some p
    | segment :: segments =>
      if t.isDirectory (p.follow segment) then go (p.follow segment) segments else none

/-- Whether a path leads to a file or a directory. -/
def isPresent (path : String) : Bool :=
  (!path.isEmpty && isPath path && t.isDirectory (Place.ofPath path)) ||
    (t.locate? path >>= t.file?).isSome

/-- The text of a file. -/
def readText? (path : String) : Option String := do
  match ← t.file? (← t.locate? path) with
  | .text text => some text
  | .archive _ => none

/-- Write the text of a file, which may be new. -/
def writeText? (path text : String) : Option FileTree := do
  return t.setFile (← t.locate? path) (.text text)

/-- The tree with a file and the directories around it. -/
def withFile (path text : String) : FileTree :=
  let t := (t.makeDirectories ((parentPath? path).getD "")).2
  t.setFile (Place.ofPath path) (.text text)

/-- The directories below the working directory. -/
def directoriesHere : List String :=
  t.directories.keys.filter fun path => !(Text.startsWith path "/" || Text.startsWith path "../")

end FileTree

end NodeCanvas
