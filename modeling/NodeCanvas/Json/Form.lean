import NodeCanvas.Json.Markup
/-!
# Types with a JSON form

A type with a JSON form can be written as a value, read from a value, and read from text. Reading
a record accepts an object with its fields by name, where unknown fields are ignored, or a list
with its fields in order, where trailing fields may be missing but none may follow.

From text, an ignored field is skipped unread, so nothing inside it can make the reading fail, and
a field of a record may not be given twice. The `Shape` of a type says which parts of a text its
reader looks at.
-/

namespace NodeCanvas

/-- The parts of a JSON text that the reader of a type looks at. -/
inductive Shape where
  /-- All of it. -/
  | whole
  /-- A list of items of one shape. -/
  | list (item : Shape)
  /-- The named fields and nothing else. -/
  | record (fields : List (String × Shape))
  /-- All fields of an object; those named here are its own and stand at most once. -/
  | bag (own : List String)
  /-- A name, alone or as the only field of an object. -/
  | choice

namespace Shape

/-- The fields of a record without further structure. -/
def flat (names : List String) : Shape := .record (names.map fun name => (name, .whole))

/-- The names of the fields that belong to the type itself. -/
def names : Shape → List String
  | .record fields => fields.map (·.1)
  | .bag own => own
  | _ => []

/-- What is read of each item of a list. -/
def item : Shape → Shape
  | .list item => item
  | _ => .whole

/-- What is read of a field, if anything. -/
def field? : Shape → String → Option Shape
  | .record fields, name => fields.lookup name
  | _, _ => some .whole

/-- Whether a list of this length has a place for every item. -/
def admitsLength : Shape → Nat → Bool
  | .record fields, length => length ≤ fields.length
  | _, _ => true

/-- What is read of the item at a position. -/
def position : Shape → Nat → Shape
  | .record fields, index => ((fields[index]?).map (·.2)).getD .whole
  | shape, _ => shape.item

/-- Whether an object may have fields with these names: own fields at most once, and a single field
for a choice. -/
def admitsNames (shape : Shape) (given : List String) : Bool :=
  match shape with
  | .choice => given.length == 1
  | _ => shape.names.all fun name => given.count name ≤ 1

end Shape

namespace Markup

mutual

/-- The value of the parts of a tree that a shape looks at. -/
def readWithin? (depth : Nat) (shape : Shape) : Markup → Option Json
  | .null => some .null
  | .bool b => some (.bool b)
  | .number n => n.number?.map .number
  | .string s => s.map .string
  | .array items =>
    match depth with
    | 0 => none
    | depth + 1 =>
      if shape.admitsLength items.length then (readItems? depth shape 0 items).map .array else none
  | .object fields =>
    match depth with
    | 0 => none
    | depth + 1 => do
      let fields ← readFields? depth shape fields
      if shape.admitsNames (fields.map (·.1)) then
        return .object (Table.ofList fields).entries
      else none
termination_by structural tree => tree

def readItems? (depth : Nat) (shape : Shape) (index : Nat) : List Markup → Option (List Json)
  | [] => some []
  | item :: rest => do
    return (← readWithin? depth (shape.position index) item) ::
      (← readItems? depth shape (index + 1) rest)
termination_by structural items => items

def readFields? (depth : Nat) (shape : Shape) :
    List (Option String × Markup) → Option (List (String × Json))
  | [] => some []
  | (name, value) :: rest => do
    let name ← name
    match shape.field? name with
    | none => readFields? depth shape rest
    | some part =>
      return (name, ← readWithin? depth part value) :: (← readFields? depth shape rest)
termination_by structural fields => fields

end

end Markup

/-- A type that is written to and read from JSON. -/
class JsonForm (α : Type) where
  shape : Shape := .whole
  ofJson? : Json → Option α
  toJson : α → Json

export JsonForm (ofJson? toJson)

namespace JsonForm

/-- Read a value of the type from JSON text. -/
def ofText? {α : Type} [JsonForm α] (text : String) : Option α := do
  let tree ← Markup.parse? text
  let value ← tree.readWithin? Markup.deepest (shape α)
  ofJson? value

/-- The JSON value of something, with fields in ascending order. -/
def toValue {α : Type} [JsonForm α] (a : α) : Json := (toJson a).canonical

end JsonForm

namespace Json

/-! ## Reading records -/

/-- The fields of a record: those of an object, or the items of a list in order. -/
def record? (shape : Shape) : Json → Option (List (String × Json))
  | .object fields => some fields
  | .array items =>
    if items.length ≤ shape.names.length then some (shape.names.zip items) else none
  | _ => none

/-- A field that has to be there. -/
def required {α : Type} (fields : List (String × Json)) (name : String) (read : Json → Option α) :
    Option α :=
  fields.lookup name >>= read

/-- A field with a default for when it is missing; null is not missing. -/
def defaulted {α : Type} (fields : List (String × Json)) (name : String) (default : α)
    (read : Json → Option α) : Option α :=
  match fields.lookup name with
  | none => some default
  | some value => read value

/-- A field that may be missing or null. -/
def optional {α : Type} (fields : List (String × Json)) (name : String)
    (read : Json → Option α) : Option (Option α) :=
  match fields.lookup name with
  | none | some .null => some none
  | some value => (read value).map some

/-- One of several names, alone or as the only field of an object with a null value. -/
def choice? {α : Type} (named? : String → Option α) : Json → Option α
  | .string name => named? name
  | .object [(name, .null)] => named? name
  | _ => none

/-- A list in which every item can be read. -/
def listOf? {α : Type} (read : Json → Option α) (value : Json) : Option (List α) :=
  value.items? >>= fun items => items.mapM read

end Json

instance : JsonForm Json := ⟨.whole, some, id⟩

instance : JsonForm String := ⟨.whole, Json.text?, .string⟩

instance : JsonForm Bool := ⟨.whole, Json.bool?, .bool⟩

instance {α : Type} [JsonForm α] : JsonForm (List α) where
  shape := .list (JsonForm.shape α)
  ofJson? := Json.listOf? ofJson?
  toJson items := .array (items.map toJson)

instance : JsonForm (Table Json) := ⟨.whole, Json.table?, Json.ofTable⟩

end NodeCanvas
