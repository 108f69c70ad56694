import NodeCanvas.Json.Basic
import NodeCanvas.Decimal.Layout
/-!
# JSON text from values

`Json.compact` writes a value without any blanks; `Json.pretty` puts every item and every field on
a line of its own, two blanks deeper than its container. Fields are written in the order in which
the value lists them.
-/

namespace NodeCanvas
namespace Json

/-- The text of a number, which is also its text where a number stands for a name. -/
def Number.text : Number → String
  | .int n => toString n
  | .float x _ => Layout.json.write x

/-- A character inside quotes. Control characters are escaped, the usual ones by a letter. -/
def escapeChar (c : Char) : String :=
  match c with
  | '"' => "\\\""
  | '\\' => "\\\\"
  | '\n' => "\\n"
  | '\r' => "\\r"
  | '\t' => "\\t"
  | c =>
    if c = Char.ofNat 8 then "\\b"
    else if c = Char.ofNat 12 then "\\f"
    else if c.toNat < 32 then
      "\\u00" ++ String.ofList (Nat.toDigits 16 (c.toNat / 16) ++ Nat.toDigits 16 (c.toNat % 16))
    else c.toString

/-- A text in quotes. -/
def quote (s : String) : String :=
  "\"" ++ s.foldl (fun out c => out ++ escapeChar c) "" ++ "\""

mutual

def compact : Json → String
  | .null => "null"
  | .bool b => if b then "true" else "false"
  | .number n => n.text
  | .string s => quote s
  | .array items => "[" ++ ",".intercalate (compactItems items) ++ "]"
  | .object fields => "\x7b" ++ ",".intercalate (compactFields fields) ++ "\x7d"
termination_by structural value => value

def compactItems : List Json → List String
  | [] => []
  | item :: rest => compact item :: compactItems rest
termination_by structural items => items

def compactFields : List (String × Json) → List String
  | [] => []
  | (name, value) :: rest => (quote name ++ ":" ++ compact value) :: compactFields rest
termination_by structural fields => fields

end

/-- The start of a line at some depth. -/
def newline (depth : Nat) : String := "\n" ++ "".pushn ' ' (2 * depth)

/-- Parts on lines of their own between two brackets; brackets around nothing touch. -/
def block (depth : Nat) (opening closing : String) (parts : List String) : String :=
  if parts.isEmpty then opening ++ closing
  else opening ++ newline (depth + 1) ++ ("," ++ newline (depth + 1)).intercalate parts ++
    newline depth ++ closing

mutual

def prettyAt (depth : Nat) : Json → String
  | .null => "null"
  | .bool b => if b then "true" else "false"
  | .number n => n.text
  | .string s => quote s
  | .array items => block depth "[" "]" (prettyItems (depth + 1) items)
  | .object fields => block depth "\x7b" "\x7d" (prettyFields (depth + 1) fields)
termination_by structural value => value

def prettyItems (depth : Nat) : List Json → List String
  | [] => []
  | item :: rest => prettyAt depth item :: prettyItems depth rest
termination_by structural items => items

def prettyFields (depth : Nat) : List (String × Json) → List String
  | [] => []
  | (name, value) :: rest =>
    (quote name ++ ": " ++ prettyAt depth value) :: prettyFields depth rest
termination_by structural fields => fields

end

def pretty (value : Json) : String := prettyAt 0 value

end Json
end NodeCanvas
