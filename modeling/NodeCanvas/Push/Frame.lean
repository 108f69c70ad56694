import NodeCanvas.Json.Form
import NodeCanvas.Text.Basic
/-!
# Frames of the push stream

The push stream is a sequence of text frames. A leading digit gives the kind of a frame; events are
a list of a name and a payload after the digits `42`, or an object with the fields `event` and
`data`.
-/

namespace NodeCanvas

inductive Frame where
  | opened
  | close
  | ping
  | pong
  | namespaceConnected
  | namespaceDisconnected
  | event (name : String) (payload : Json)
  | unknown

namespace Frame

/-- The event in a list of a name and perhaps a payload. -/
def ofList : List Json → Frame
  | .string name :: rest => .event name (rest.head?.getD .null)
  | _ => .unknown

/-- The event in an object. -/
def ofObject (fields : Table Json) : Frame :=
  match fields.get? "event" with
  | some (.string name) => .event name ((fields.get? "data").getD .null)
  | _ => .unknown

/-- The frame of a text, whose outer blanks do not matter. -/
def decode (text : String) : Frame :=
  let chars := trimBlanks text.toList
  match chars with
  | '4' :: '2' :: rest =>
    let list := rest.dropWhile (· ≠ '[')
    match Json.parse? (String.ofList list) with
    | some (.array items) => ofList items
    | _ => .unknown
  | '4' :: '0' :: _ => .namespaceConnected
  | '4' :: '1' :: _ => .namespaceDisconnected
  | '0' :: _ => .opened
  | '1' :: _ => .close
  | '2' :: _ => .ping
  | '3' :: _ => .pong
  | '\x7b' :: _ =>
    match Json.parse? (String.ofList chars) >>= Json.table? with
    | some fields => ofObject fields
    | none => .unknown
  | _ => .unknown

end Frame

end NodeCanvas
