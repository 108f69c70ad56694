import NodeCanvas.Url.Host
/-!
# URLs

Absolute URLs are read as browsers read them. A few schemes are well known: their URLs always have a
host, a back slash counts as a slash, and the usual port is left out. Dots as path segments are
resolved, and characters that are reserved in a part are percent-encoded.
-/

namespace NodeCanvas

/-- The path of a URL: segments after slashes, or any text. -/
inductive UrlPath where
  | segments (parts : List String)
  | text (path : String)
  deriving DecidableEq

structure Url where
  scheme : String
  username : String := ""
  password : String := ""
  host : Option Host := none
  port : Option Nat := none
  path : UrlPath
  query : Option String := none
  fragment : Option String := none
  deriving DecidableEq

namespace Url

/-- The well-known schemes that have a host, with their usual ports. -/
def wellKnown : List (String × Nat) :=
  [("http", 80), ("https", 443), ("ws", 80), ("wss", 443), ("ftp", 21)]

def isWellKnown (scheme : String) : Bool := scheme == "file" || (wellKnown.lookup scheme).isSome

/-! ## Writing -/

def pathText : UrlPath → String
  | .segments parts => String.join (parts.map ("/" ++ ·))
  | .text path => path

/-- The user and the password, with the sign that follows them. -/
def userinfoText (u : Url) : String :=
  if u.username.isEmpty && u.password.isEmpty then ""
  else u.username ++ (if u.password.isEmpty then "" else ":" ++ u.password) ++ "@"

/-- Everything between the scheme and the path. -/
def authorityText (u : Url) : String :=
  match u.host with
  | none => if u.scheme == "file" then "//" else ""
  | some host =>
    "//" ++ u.userinfoText ++ host.toText ++
      (match u.port with
        | some port => ":" ++ Nat.repr port
        | none => "")

/-- A part with the sign before it, if it is there. -/
def markedText (mark : String) : Option String → String
  | some part => mark ++ part
  | none => ""

def toText (u : Url) : String :=
  u.scheme ++ ":" ++ u.authorityText ++ pathText u.path ++ markedText "?" u.query ++
    markedText "#" u.fragment

/-- What a request line names: the path and the query. -/
def target (u : Url) : String := pathText u.path ++ markedText "?" u.query

/-! ## Reading -/

/-- The text without controls and blanks at its ends, and without line breaks and tabs. -/
def clean (text : String) : List Char :=
  let drop (chars : List Char) : List Char := chars.dropWhile (·.toNat ≤ 0x20)
  ((drop (drop text.toList).reverse).reverse).filter fun c => c != '\t' && c != '\n' && c != '\r'

/-- The scheme and what follows its colon. -/
def splitScheme : List Char → Option (String × List Char)
  | [] => none
  | c :: rest =>
    let (name, after) := (c :: rest).span fun d => d.isAlphanum || d == '+' || d == '-' || d == '.'
    match after with
    | ':' :: after =>
      if c.isAlpha then some ((String.ofList name).toLower, after) else none
    | _ => none

/-- What a path, a query and a fragment are in a text, each without its mark. -/
def splitTail (text : List Char) : List Char × Option (List Char) × Option (List Char) :=
  let (before, fragment) := text.span (· != '#')
  let (path, query) := before.span (· != '?')
  (path, if query.isEmpty then none else some query.tail,
    if fragment.isEmpty then none else some fragment.tail)

def isOneDot (segment : List Char) : Bool :=
  [".", "%2e"].contains (String.ofList segment).toLower

def isTwoDots (segment : List Char) : Bool :=
  ["..", "%2e.", ".%2e", "%2e%2e"].contains (String.ofList segment).toLower

/-- Resolve dots in segments; `done` holds those before them in reverse. -/
def resolve (done : List String) : List (List Char) → List String
  | [] => done.reverse
  | segment :: rest =>
    let last := rest.isEmpty
    if isTwoDots segment then resolve (if last then "" :: done.tail else done.tail) rest
    else if isOneDot segment then resolve (if last then "" :: done else done) rest
    else resolve (String.ofList (Percent.encode Percent.inPath segment) :: done) rest

/-- The segments of a path that starts with a slash or is empty. -/
def segments (special : Bool) : List Char → List String
  | [] => if special then [""] else []
  | _ :: rest => resolve [] (Text.splitOn (fun c => c == '/' || (special && c == '\\')) rest)

/-- The user and the password before the last at sign. -/
def splitUserinfo (authority : List Char) : Option (List Char) × List Char :=
  let (hostReversed, before) := authority.reverse.span (· != '@')
  if before.isEmpty then (none, authority) else (some before.tail.reverse, hostReversed.reverse)

/-- The host and what follows its colon, which may not be the colons of an address. -/
def splitPort : List Char → Bool → List Char × Option (List Char)
  | [], _ => ([], none)
  | ':' :: rest, false => ([], some rest)
  | c :: rest, bracketed =>
    let bracketed := if c == '[' then true else if c == ']' then false else bracketed
    let (host, port) := splitPort rest bracketed
    (c :: host, port)

/-- The port at the start of what follows the colon after a host, and what is left. The port ends at
a back slash, too; the usual port of the scheme is left out. -/
def takePort (scheme : String) (text : List Char) : Except UrlError (Option Nat × List Char) :=
  let (digits, rest) := text.span Char.isDigit
  let port := digits.foldl (fun n c => n * 10 + (c.toNat - 48)) 0
  if 65535 < port || rest.head?.any (· != '\\') then .error .badPort
  else if digits.isEmpty || wellKnown.lookup scheme = some port then .ok (none, rest)
  else .ok (some port, rest)

def encoded (reserved : Char → Bool) (text : List Char) : String :=
  String.ofList (Percent.encode reserved text)

/-- Whether an at sign with nobody before it and no host after it is followed by anything. -/
def lacksHost (userinfo : Option (List Char)) (location rest : List Char) : Bool :=
  userinfo == some [] && location.isEmpty && !rest.isEmpty

/-- The URL of a scheme, what follows the two slashes, and the mark of well-known schemes. -/
def ofAuthority (scheme : String) (special : Bool) (text : List Char) : Except UrlError Url := do
  let ends (c : Char) : Bool := c == '/' || c == '?' || c == '#' || (special && c == '\\')
  let (authority, rest) := text.span fun c => !ends c
  let (userinfo, location) := splitUserinfo authority
  let (hostText, portText) := splitPort location false
  let (username, password) := (userinfo.getD []).span (· != ':')
  let named := !username.isEmpty || !password.tail.isEmpty
  if hostText.isEmpty &&
      (special || portText.isSome || named || lacksHost userinfo location rest) then
    throw .emptyHost
  let host ← if special then Host.ofText hostText else Host.ofOpaque hostText
  let (port, left) ← takePort scheme (portText.getD [])
  let (path, query, fragment) := splitTail (left ++ rest)
  return {
    scheme
    username := encoded Percent.inUserinfo username
    password := encoded Percent.inUserinfo password.tail
    host := some host
    port
    path := .segments (segments special path)
    query := query.map (encoded (Percent.inQuery special))
    fragment := fragment.map (encoded Percent.inFragment) }

def isSlash (c : Char) : Bool := c == '/' || c == '\\'

/-- Whether a text names a drive. -/
def isDrive : List Char → Bool
  | [letter, mark] => letter.isAlpha && (mark == ':' || mark == '|')
  | _ => false

/-- The host in the URL of a file, and its path. Where the host would be, a drive is the start of
the path. -/
def splitFile : List Char → List Char × List Char
  | a :: b :: rest =>
    if isSlash a && isSlash b then
      let (host, path) := rest.span fun c => !(isSlash c || c == '?' || c == '#')
      if isDrive host then ([], rest) else (host, path)
    else ([], a :: b :: rest)
  | text => ([], text)

/-- The URL of a file, whose host may be empty. -/
def ofFile (text : List Char) : Except UrlError Url := do
  let (hostText, rest) := splitFile text
  let host ← if hostText.isEmpty then pure none else some <$> Host.ofText hostText
  let host := if host = some (.domain "localhost") then none else host
  let (path, query, fragment) := splitTail rest
  let path := if path.head?.any isSlash then path else '/' :: path
  return {
    scheme := "file"
    host
    path := .segments (segments true path)
    query := query.map (encoded (Percent.inQuery true))
    fragment := fragment.map (encoded Percent.inFragment) }

/-- The URL of a scheme that is not well known, without two slashes. -/
def ofPath (scheme : String) (text : List Char) : Url :=
  let (path, query, fragment) := splitTail text
  { scheme
    path :=
      if path.head? == some '/' then .segments (segments false path)
      else .text (encoded Percent.control path)
    query := query.map (encoded (Percent.inQuery false))
    fragment := fragment.map (encoded Percent.inFragment) }

/-- Read an absolute URL. -/
def parse (text : String) : Except UrlError Url :=
  match splitScheme (clean text) with
  | none => .error .relative
  | some (scheme, rest) =>
    if scheme == "file" then ofFile rest
    else if isWellKnown scheme then
      ofAuthority scheme true (rest.dropWhile fun c => c == '/' || c == '\\')
    else
      match rest with
      | '/' :: '/' :: rest => ofAuthority scheme false rest
      | _ => .ok (ofPath scheme rest)

end Url

end NodeCanvas
