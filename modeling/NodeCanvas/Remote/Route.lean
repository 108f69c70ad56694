import NodeCanvas.Backend.Request
import NodeCanvas.Url
/-!
# Routes

Over HTTP every request is a method, a path below the address of the backend, and for most methods a
JSON body. Ids stand in paths as they are.
-/

namespace NodeCanvas

/-- One request over HTTP. -/
structure HttpCall where
  method : String
  path : String
  body : Option Json := none

namespace HttpCall

/-- The address of a backend, without slashes at its end. -/
def trimBase (address : String) : String :=
  String.ofList (address.toList.reverse.dropWhile (· == '/')).reverse

/-- What the request line names, if the address makes a URL with a host. -/
def target? (base : String) (call : HttpCall) : Option String :=
  match Url.parse (base ++ call.path) with
  | .ok url => if url.host.isSome then some url.target else none
  | .error _ => none

def get (path : String) : HttpCall := { method := "GET", path }
def post (path : String) (body : Json) : HttpCall := { method := "POST", path, body := some body }
def put (path : String) (body : Json) : HttpCall := { method := "PUT", path, body := some body }
def patch (path : String) (body : Json) : HttpCall := { method := "PATCH", path, body := some body }
def delete (path : String) : HttpCall := { method := "DELETE", path }

end HttpCall

namespace Route

def nodes : String := "/api/canvas/nodes"
def connections : String := "/api/canvas/connections"
def viewport : String := "/api/canvas/viewport"
def execution : String := "/api/execution"
def sessions : String := "/api/execution/multi-debug"

def node (id : NodeId) : String := nodes ++ "/" ++ id
def connection (id : ConnectionId) : String := connections ++ "/" ++ id

end Route

variable {R : Type} [Scalar R]

open HttpCall in
/-- The call that a request makes; reading the whole canvas makes three. -/
def Request.calls : Request R → List HttpCall
  | .fetchCanvas => [get Route.nodes, get Route.connections, get Route.viewport]
  | .createNode spec => [post Route.nodes (toJson spec)]
  | .moveNode node position =>
    [post (Route.node node ++ "/move") (.object [("position", toJson position)])]
  | .deleteNode node => [delete (Route.node node)]
  | .updateParameters node changes =>
    [patch (Route.node node ++ "/parameters") (.object [("parameters", .ofTable changes)])]
  | .updateMetadata node changes =>
    [patch (Route.node node ++ "/metadata") (.object [("metadata", .ofTable changes)])]
  | .updatePorts node ports => [put (Route.node node ++ "/ports") (toJson ports)]
  | .createConnection spec => [post Route.connections (toJson spec)]
  | .deleteConnection connection => [delete (Route.connection connection)]
  | .clearCanvas => [post "/api/canvas/clear" (.object [])]
  | .setZoom zoom center =>
    [post (Route.viewport ++ "/zoom") (.object [("zoom", Scalar.toJson zoom),
      ("center_x", Scalar.toJson center.1), ("center_y", Scalar.toJson center.2)])]
  | .pan dx dy =>
    [post (Route.viewport ++ "/pan")
      (.object [("delta_x", Scalar.toJson dx), ("delta_y", Scalar.toJson dy)])]
  | .startExecution mode => [post (Route.execution ++ "/start") (.object [("mode", toJson mode)])]
  | .stepExecution => [post (Route.execution ++ "/step") (.object [])]
  | .stopExecution => [post (Route.execution ++ "/stop") (.object [])]
  | .createSession spec => [post (Route.sessions ++ "/create") (toJson spec)]
  | .startSession session => [post (Route.sessions ++ "/start/" ++ session) (.object [])]
  | .stepSession session kind =>
    [post (Route.sessions ++ "/step/" ++ session) (.object [("step_type", toJson kind)])]
  | .stopSession session => [post (Route.sessions ++ "/stop/" ++ session) (.object [])]
  | .runAllSessions timeout =>
    [post (Route.sessions ++ "/run-all") (.object [("timeout", .ofNat timeout.wholeSeconds)])]
  | .listSessions => [get (Route.sessions ++ "/list")]
  | .searchPattern spec => [post "/api/ast-grep/search" (toJson spec)]
  | .refactorPattern spec => [post "/api/ast-grep/refactor" (toJson spec)]
  | .exportCode spec => [post "/api/export/code" (toJson spec)]
  | .setParadigm paradigm => [post "/api/paradigms/active" (.object [("type", .string paradigm)])]

end NodeCanvas
