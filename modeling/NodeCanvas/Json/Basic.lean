import NodeCanvas.Table
/-!
# JSON values

Whole numbers and floats are different values, as are `0.0` and text that looks like a number.
An object is the list of its fields; values that come from text or from `Json.canonical` list them
in ascending order of their names and name none twice. Equality compares floats as numbers, so
`0.0` and `-0.0` are equal.
-/

namespace NodeCanvas

/-- A number in a JSON value. A float is finite: infinities and what is no number have no text. -/
inductive Json.Number where
  | int (n : Int)
  | float (x : Float) (finite : x.isFinite = true)
  deriving Inhabited

inductive Json where
  | null
  | bool (b : Bool)
  | number (n : Json.Number)
  | string (s : String)
  | array (items : List Json)
  | object (fields : List (String × Json))
  deriving Inhabited

namespace Json

def Number.beq : Number → Number → Bool
  | .int a, .int b => a == b
  | .float a _, .float b _ => a == b
  | _, _ => false

instance : BEq Number := ⟨Number.beq⟩

mutual

/-- Equality of values: numbers of one kind by size, everything else by structure. -/
def beq : Json → Json → Bool
  | .null, .null => true
  | .bool a, .bool b => a == b
  | .number a, .number b => a == b
  | .string a, .string b => a == b
  | .array a, .array b => beqItems a b
  | .object a, .object b => beqFields a b
  | _, _ => false
termination_by structural a => a

def beqItems : List Json → List Json → Bool
  | [], [] => true
  | a :: as, b :: bs => beq a b && beqItems as bs
  | _, _ => false
termination_by structural as => as

def beqFields : List (String × Json) → List (String × Json) → Bool
  | [], [] => true
  | (k, a) :: as, (l, b) :: bs => k == l && beq a b && beqFields as bs
  | _, _ => false
termination_by structural as => as

end

instance : BEq Json := ⟨beq⟩

mutual

/-- The same value with the fields of every object in ascending order, the last of several fields
with one name kept. -/
def canonical : Json → Json
  | .array items => .array (canonicalItems items)
  | .object fields => .object (Table.ofList (canonicalFields fields)).entries
  | value => value
termination_by structural value => value

def canonicalItems : List Json → List Json
  | [] => []
  | item :: rest => canonical item :: canonicalItems rest
termination_by structural items => items

def canonicalFields : List (String × Json) → List (String × Json)
  | [] => []
  | (name, value) :: rest => (name, canonical value) :: canonicalFields rest
termination_by structural fields => fields

end

/-! ## Looking into a value -/

def isNull : Json → Bool
  | .null => true
  | _ => false

/-- The value of a field of an object. -/
def get? : Json → String → Option Json
  | .object fields, name => fields.lookup name
  | _, _ => none

def text? : Json → Option String
  | .string s => some s
  | _ => none

def bool? : Json → Option Bool
  | .bool b => some b
  | _ => none

/-- The size of a number; whole numbers go to the nearest float. -/
def Number.toFloat : Number → Float
  | .int n => Float.ofInt n
  | .float x _ => x

/-- A float as a number, if it is finite. -/
def Number.ofFloat? (x : Float) : Option Number :=
  if finite : x.isFinite then some (.float x finite) else none

def float? : Json → Option Float
  | .number n => some n.toFloat
  | _ => none

/-- A whole number from zero up to a greatest one. -/
def natUpTo? (greatest : Nat) : Json → Option Nat
  | .number (.int n) => if 0 ≤ n ∧ n ≤ greatest then some n.toNat else none
  | _ => none

def items? : Json → Option (List Json)
  | .array items => some items
  | _ => none

def table? : Json → Option (Table Json)
  | .object fields => some (Table.ofList fields)
  | _ => none

/-! ## Making a value -/

/-- A float as a value; what is no number becomes null. -/
def ofFloat (x : Float) : Json :=
  match Number.ofFloat? x with
  | some n => .number n
  | none => .null

def ofInt (n : Int) : Json := .number (.int n)

def ofNat (n : Nat) : Json := .number (.int n)

def ofTable (t : Table Json) : Json := .object t.entries

def ofTexts (texts : List String) : Json := .array (texts.map .string)

/-- Null in place of nothing. -/
def ofOption {α : Type} (write : α → Json) : Option α → Json
  | some a => write a
  | none => .null

/-- An optional field: left out when there is nothing to write. -/
def optionalField {α : Type} (name : String) (write : α → Json) : Option α → List (String × Json)
  | some a => [(name, write a)]
  | none => []

end Json

end NodeCanvas
