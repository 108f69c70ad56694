import NodeCanvas.Json.Form
/-!
# Failed requests

A request to the backend fails in one of three ways: the backend refuses it, it cannot be reached,
or its answer makes no sense.
-/

namespace NodeCanvas

/-- The kind of a refusal. -/
inductive ErrorCode where
  | notFound
  | validation
  | unavailable
  | internal
  deriving DecidableEq, Inhabited

namespace ErrorCode

def all : List ErrorCode := [.notFound, .validation, .unavailable, .internal]

/-- The name of the kind in messages. -/
def label : ErrorCode → String
  | .notFound => "NotFound"
  | .validation => "Validation"
  | .unavailable => "Unavailable"
  | .internal => "Internal"

/-- The name of the kind in JSON. -/
def name : ErrorCode → String
  | .notFound => "not_found"
  | .validation => "validation"
  | .unavailable => "unavailable"
  | .internal => "internal"

/-- The kind of refusal that an HTTP status stands for. -/
def ofStatus (status : Nat) : ErrorCode :=
  if status = 404 then .notFound
  else if status = 400 ∨ status = 409 ∨ status = 422 then .validation
  else if 502 ≤ status ∧ status ≤ 504 then .unavailable
  else .internal

instance : JsonForm ErrorCode where
  shape := .choice
  ofJson? := Json.choice? fun s => all.find? (·.name == s)
  toJson code := .string code.name

end ErrorCode

/-- A refusal: the kind and what the backend said. -/
structure Refusal where
  code : ErrorCode
  message : String
  deriving DecidableEq, Inhabited

namespace Refusal

def text (r : Refusal) : String := r.code.label ++ ": " ++ r.message

def isNotFound (r : Refusal) : Bool := r.code == .notFound

instance : JsonForm Refusal where
  shape := .record [("code", .choice), ("message", .whole)]
  ofJson? value := do
    let fields ← value.record? (.flat ["code", "message"])
    return {
      code := ← Json.required fields "code" ofJson?
      message := ← Json.required fields "message" Json.text? }
  toJson r := .object [("code", toJson r.code), ("message", .string r.message)]

end Refusal

/-- Why a request had no result. -/
inductive RequestError where
  | rejected (refusal : Refusal)
  | transport (reason : String)
  | malformed (reason : String)
  deriving DecidableEq, Inhabited

namespace RequestError

def message : RequestError → String
  | .rejected refusal => "backend rejected request: " ++ refusal.text
  | .transport reason => "transport failure: " ++ reason
  | .malformed reason => "malformed backend response: " ++ reason

/-- Whether the backend says that there is no such thing. -/
def isNotFound : RequestError → Bool
  | .rejected refusal => refusal.isNotFound
  | _ => false

/-- The refusal of a request for something that is not there. -/
def notFound (message : String) : RequestError := .rejected ⟨.notFound, message⟩

end RequestError

end NodeCanvas
