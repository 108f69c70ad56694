import NodeCanvas.Text.Basic
import NodeCanvas.Url.Percent
/-!
# File names of archives

A file name that starts with `file:` is a URI. It may name this computer, its path is
percent-encoded, and options follow a question mark. A null byte ends the path, or the name or the
value of an option, in which it stands. Any other file name is just a path.
-/

namespace NodeCanvas

/-- A path, and names and values of options. -/
structure FileName where
  path : String
  options : List (String × String) := []

namespace FileName

/-- What stands before the first null byte of a percent-encoded text. -/
def untilNull : List Char → List Char
  | [] => []
  | '%' :: '0' :: '0' :: _ => []
  | c :: rest => c :: untilNull rest

/-- The text of a part of a URI. Bytes that are no text stay as they are written. -/
def decoded (part : List Char) : String :=
  (Percent.decode? (untilNull part)).getD (String.ofList part)

/-- What follows the name of the computer, which may be left out. Other computers are not known. -/
def afterComputer? : List Char → Option (List Char)
  | '/' :: '/' :: rest =>
    let (computer, path) := rest.span (· ≠ '/')
    if computer.isEmpty ∨ computer = "localhost".toList then some path else none
  | rest => some rest

/-- The options in a query. One without a name does not count. -/
def optionsOf (query : List Char) : List (String × String) :=
  ((Text.splitOn (· == '&') query).map fun option =>
    let (name, value) := option.span (· ≠ '=')
    (decoded name, decoded value.tail)).filter (!·.1.isEmpty)

/-- What a text says as a file name. -/
def ofText? (text : String) : Option FileName :=
  match Text.after? "file:".toList text.toList with
  | none => some { path := text }
  | some rest => do
    let (path, query) := ((← afterComputer? rest).takeWhile (· ≠ '#')).span (· ≠ '?')
    return { path := decoded path, options := optionsOf query.tail }

/-- The value of the first option with a name. -/
def option? (f : FileName) (name : String) : Option String := f.options.lookup name

/-- Whether a text means yes: a word for it, or a number whose lowest byte is not zero. Numbers have
31 bits; larger ones mean no. -/
def isYes (text : String) : Bool :=
  let digits := text.toList.takeWhile Char.isDigit
  let number := digits.foldl (fun n c => 10 * n + (c.toNat - 48)) 0
  if digits.isEmpty then ["on", "yes", "true"].contains text.toLower
  else number < 2147483648 && number % 256 != 0

end FileName

end NodeCanvas
