import NodeCanvas.Json.Form
/-!
# Bags of properties

A bag has some fields of its own, each with a type, and carries any other field untouched. Given a
value in which one of its own fields has the wrong type, a bag does not refuse it: it keeps the
whole value among the untouched fields, where the next save writes it back as it came.
-/

namespace NodeCanvas

/-- A record with typed fields of its own and room for any others. -/
class Bag (β : Type) extends JsonForm β where
  /-- The bag that recognizes none of these fields. -/
  unrecognized : Table Json → β

namespace Bag

variable {β : Type} [Bag β]

/-- The bag of a value. Fields of the wrong type make it keep everything unrecognized; what is no
object is the empty bag. -/
def ofValue (value : Json) : β :=
  match value with
  | .object fields => (ofJson? value).getD (unrecognized (Table.ofList fields))
  | _ => unrecognized ∅

/-- All fields of a bag, its own and the others. -/
def fields (b : β) : Table Json :=
  match toJson b with
  | .object fields => Table.ofList fields
  | _ => ∅

/-- The bag with some fields replaced, each as a whole. -/
def mergedWith (b : β) (changes : Table Json) : β :=
  ofValue (.ofTable ((fields b).override changes))

end Bag

/-- The fields of an object that are not among these names. -/
def otherFields (own : List String) (fields : List (String × Json)) : Table Json :=
  Table.ofList (fields.filter fun field => !own.contains field.1)

/-- What a node runs with: its name, its code and how it is drawn. -/
structure Parameters where
  name : Option String := none
  sourceCode : Option String := none
  code : Option String := none
  functionName : Option String := none
  sourceLanguage : Option String := none
  hideTitle : Option Bool := none
  hidePorts : Option Bool := none
  extra : Table Json := ∅
  deriving BEq, Inhabited

namespace Parameters

def ownFields : List String :=
  ["name", "source_code", "code", "function_name", "source_language", "hide_title", "hide_ports"]

instance : Bag Parameters where
  shape := .bag ownFields
  ofJson?
    | .object fields => do
      return {
        name := ← Json.optional fields "name" Json.text?
        sourceCode := ← Json.optional fields "source_code" Json.text?
        code := ← Json.optional fields "code" Json.text?
        functionName := ← Json.optional fields "function_name" Json.text?
        sourceLanguage := ← Json.optional fields "source_language" Json.text?
        hideTitle := ← Json.optional fields "hide_title" Json.bool?
        hidePorts := ← Json.optional fields "hide_ports" Json.bool?
        extra := otherFields ownFields fields }
    | _ => none
  toJson p := .object <|
    Json.optionalField "name" .string p.name ++
    Json.optionalField "source_code" .string p.sourceCode ++
    Json.optionalField "code" .string p.code ++
    Json.optionalField "function_name" .string p.functionName ++
    Json.optionalField "source_language" .string p.sourceLanguage ++
    Json.optionalField "hide_title" .bool p.hideTitle ++
    Json.optionalField "hide_ports" .bool p.hidePorts ++
    p.extra.entries
  unrecognized extra := { extra }

/-- The code of the node, unless it is empty. -/
def sourceText (p : Parameters) : Option String :=
  (p.sourceCode <|> p.code).filter (· ≠ "")

end Parameters

/-- What is known about a node. -/
structure Metadata where
  displayName : Option String := none
  description : Option String := none
  sourceLanguage : Option String := none
  rawName : Option String := none
  extendedType : Option String := none
  extra : Table Json := ∅
  deriving BEq, Inhabited

namespace Metadata

def ownFields : List String :=
  ["display_name", "description", "source_language", "raw_name", "extended_type"]

instance : Bag Metadata where
  shape := .bag ownFields
  ofJson?
    | .object fields => do
      return {
        displayName := ← Json.optional fields "display_name" Json.text?
        description := ← Json.optional fields "description" Json.text?
        sourceLanguage := ← Json.optional fields "source_language" Json.text?
        rawName := ← Json.optional fields "raw_name" Json.text?
        extendedType := ← Json.optional fields "extended_type" Json.text?
        extra := otherFields ownFields fields }
    | _ => none
  toJson m := .object <|
    Json.optionalField "display_name" .string m.displayName ++
    Json.optionalField "description" .string m.description ++
    Json.optionalField "source_language" .string m.sourceLanguage ++
    Json.optionalField "raw_name" .string m.rawName ++
    Json.optionalField "extended_type" .string m.extendedType ++
    m.extra.entries
  unrecognized extra := { extra }

end Metadata

end NodeCanvas
