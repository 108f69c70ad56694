import NodeCanvas.Url
/-!
# Where pushes come from

Pushes arrive over a web socket, at a fixed path of the host that answers requests.
-/

namespace NodeCanvas

/-- Why there can be no pushes. -/
inductive PushError where
  | badUrl (url : String) (cause : UrlError)
  | notHttp (scheme : String)

def PushError.message : PushError → String
  | .badUrl url cause => "push channel error: invalid backend url " ++ url ++ ": " ++ cause.message
  | .notHttp scheme => "push channel error: backend url must be http(s), got " ++ scheme

/-- The scheme of the web socket that goes with a scheme. -/
def socketScheme? : String → Option String
  | "http" | "ws" => some "ws"
  | "https" | "wss" => some "wss"
  | _ => none

/-- The address of the pushes of a backend. -/
def pushAddress (backend : String) : Except PushError Url :=
  match Url.parse backend with
  | .error cause => .error (.badUrl backend cause)
  | .ok url =>
    match socketScheme? url.scheme with
    | none => .error (.notHttp url.scheme)
    | some scheme => .ok { url with
        scheme
        path := .segments ["socket.io", ""]
        query := some "EIO=4&transport=websocket" }

end NodeCanvas
