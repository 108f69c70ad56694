import NodeCanvas.Client.Program
import NodeCanvas.Import
import NodeCanvas.Json.Printer
import NodeCanvas.Remote.Route
import NodeCanvas.Remote.Status
/-!
# Requests over HTTP

Every answer is an envelope. One that says that the request failed is a refusal, whose kind depends
on the status code; one that is no envelope is a failure of transport, unless the status code claims
success. The payload of a good envelope is then decoded as the reply.
-/

namespace NodeCanvas

structure HttpResponse where
  status : Nat := 200
  body : String

/-- The payload of a response to a call of a path. -/
def HttpResponse.payload (response : HttpResponse) (path : String) : Except RequestError Json :=
  match (JsonForm.ofText? response.body : Option Envelope) with
  | none =>
    if isSuccess response.status then .error (.malformed "the answer is no envelope")
    else .error (.transport (path ++ " answered " ++ statusText response.status))
  | some envelope =>
    if envelope.success then .ok envelope.payload
    else
      let reason := path ++ " failed with " ++ statusText response.status
      .error (.rejected ⟨.ofStatus response.status, envelope.error.getD reason⟩)

variable {R : Type} [Scalar R]

namespace Request

/-- Decode a payload exactly. -/
def exactly {α : Type} [JsonForm α] (payload : Json) : Except RequestError α :=
  match ofJson? payload with
  | some value => .ok value
  | none => .error (.malformed "the payload has another shape")

/-- The paradigm in a payload, which may leave it out. -/
def activeParadigm? (payload : Json) : Option (Option String) := do
  let fields ← payload.record? (.flat ["active_paradigm"])
  Json.optional fields "active_paradigm" Json.text?

/-- The canvas in three payloads: nodes, connections and view. -/
def canvasOf (nodes connections view : Json) : Drawing (Except RequestError (Snapshot R)) :=
  match connections with
  | .array items => do
    let connections ← Import.filterItems Import.connection items
    let nodes ← Import.nodes (some nodes)
    return .ok ⟨nodes, connections, Import.view (some view)⟩
  | other =>
    return .error (.malformed ("expected a connection list, got " ++ other.compact))

/-- The reply in the payloads of a request's calls. -/
def replyOf (call : Request R) (payloads : List Json) :
    Drawing (Except RequestError call.Reply) :=
  let payload := payloads.headD .null
  match call with
  | .fetchCanvas =>
    match payloads with
    | [nodes, connections, view] => canvasOf nodes connections view
    | _ => canvasOf .null .null .null
  | .createNode _ => return (exactly payload).map CreatedNode.node
  | .createConnection _ => return (exactly payload).map CreatedConnection.connection
  | .moveNode _ _ | .deleteNode _ | .deleteConnection _ | .clearCanvas | .stopSession _ =>
    return .ok ()
  | .updateParameters _ _ =>
    return (exactly payload).map fun (update : ParametersUpdate) =>
      Bag.ofValue (.ofTable update.parameters)
  | .updateMetadata _ _ =>
    return (exactly payload).map fun (update : MetadataUpdate) =>
      Bag.ofValue (.ofTable update.metadata)
  | .updatePorts _ _ => return exactly payload
  | .setZoom _ _ | .pan _ _ => return exactly payload
  | .createSession _ | .startSession _ => return exactly payload
  | .stepSession _ _ => return exactly payload
  | .runAllSessions _ => return exactly payload
  | .listSessions => return exactly payload
  | .startExecution _ | .stepExecution | .stopExecution | .searchPattern _ | .refactorPattern _
  | .exportCode _ => return .ok payload
  | .setParadigm _ =>
    match activeParadigm? payload with
    | some paradigm => return .ok paradigm
    | none => return .error (.malformed "the payload has another shape")

end Request

/-- A way to send calls: it answers, or says why it could not. -/
abbrev Transport (ε : Type) := HttpCall → ε → Except String HttpResponse × ε

/-- Make calls one after the other, up to the first that fails; collect their payloads. -/
def Transport.sendAll {ε : Type} (transport : Transport ε) :
    List HttpCall → ε → Except RequestError (List Json) × ε
  | [], state => (.ok [], state)
  | call :: calls, state =>
    match transport call state with
    | (.error reason, state) => (.error (.transport reason), state)
    | (.ok response, state) =>
      match response.payload call.path with
      | .error error => (.error error, state)
      | .ok payload =>
        let (rest, state) := sendAll transport calls state
        (rest.map (payload :: ·), state)

/-- Answer a request over HTTP. -/
def Transport.answer {ε : Type} (transport : Transport ε) (call : Request R) (ids : IdSource)
    (state : ε) : Except RequestError call.Reply × IdSource × ε :=
  match transport.sendAll call.calls state with
  | (.error error, state) => (.error error, ids, state)
  | (.ok payloads, state) =>
    let (reply, ids) := (call.replyOf payloads).run ids
    (reply, ids, state)

/-- Answer the requests of client programs over HTTP; the far side of the world is whatever the
transport keeps. -/
def Transport.handler {σ ε : Type} (transport : Transport ε) : Handler R σ ε := fun call w =>
  let (reply, ids, remote) := transport.answer call w.ids w.remote
  .ok (reply, { w with ids, remote })

end NodeCanvas
