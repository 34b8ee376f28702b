import DdlAtlas.Url.Reader

/-! What a web address asks for. An address leads on from the place of the interface. The percent escapes
in its path are read twice, first as part of the address and then by the interface, and only then is the
path compared with the routes; so an escaped slash separates like a written one, and an escaped point is
part of a name. -/

namespace DdlAtlas.Api

inductive Route
  | health
  | databases
  | database (name : Text)
  | warnings (name : Text)
  | context (name : Text)
  | chat
  | manual
deriving DecidableEq, Repr

def endsAs (segment name : Text) : Bool :=
  segment == name || segment == name ++ ['\n']

def Route.ofSegments? : List Text → Option Route
  | [last] =>
    if endsAs last "health" then some .health
    else if endsAs last "databases" then some .databases
    else if endsAs last "chat" then some .chat
    else none
  | [first, name] => if first = "databases" ∧ name ≠ [] then some (.database name) else none
  | [first, name, last] =>
    if first ≠ "databases" ∨ name = [] then none
    else if endsAs last "warnings" then some (.warnings name)
    else if endsAs last "context" then some (.context name)
    else none
  | _ => none

def manualPaths : List Text :=
  ["/openapi.json", "/docs", "/docs/oauth2-redirect", "/redoc"]

def Route.ofPath? (path : Text) : Option Route :=
  if manualPaths.any (endsAs path) then some .manual
  else (Text.behind? "/api/" path).bind fun rest => ofSegments? (Text.cells '/' rest)

def Route.methods : Route → List Text
  | .chat => ["POST"]
  | .manual => ["GET", "HEAD"]
  | _ => ["GET"]

inductive CallFault
  | address (fault : UrlFault)
  | hostName (fault : Url.LabelFault)
  | scheme (name : Text)
  | port (given : Text)
  | noContent
deriving DecidableEq, Repr

def CallFault.message : CallFault → Text
  | .address fault => fault.message
  | .hostName fault => fault.message
  | .scheme name => Text.quoted name
  | .port given => "invalid literal for int() with base 10: " ++ Text.quoted given
  | .noContent => "Expecting value: line 1 column 1 (char 0)"

def base : Url :=
  { Url.empty with scheme := "http", host := "testserver", path := "/" }

def schemes : List Text := ["http".toList, "https".toList, "ws".toList, "wss".toList]

/-- What is wrong with an address beyond its form. A port is sought behind the first colon of the place, so
that a host with colons has none. -/
def placeFault? (u : Url) : Option CallFault :=
  match u.hostFault? with
  | some fault => some (.hostName fault)
  | none =>
    if !schemes.contains u.scheme then some (.scheme u.scheme)
    else if u.host.contains ':' then some (.port ((u.place.dropWhile (· != ':')).drop 1))
    else none

def pathOf (address : Text) : Except CallFault Text :=
  match (Url.read address).bind base.joined with
  | .error fault => .error (.address fault)
  | .ok u =>
    match placeFault? u with
    | some fault => .error fault
    | none => .ok (Url.unescaped (Url.unescaped (if u.path.isEmpty then ['/'] else u.path)))

def withoutEndSlashes (path : Text) : Text :=
  (path.reverse.dropWhile (· == '/')).reverse

def addressOfPath (path : Text) : Text :=
  "http://testserver" ++ Url.escaped (fun c => ":/%#?=@[]!$&'()*+,;".toList.contains c) path

/-- The route of a path. A path that leads nowhere and ends in slashes stands for the address without
them, which is read anew; the count bounds how often. -/
def Route.follow : Nat → Text → Except CallFault (Option Route)
  | 0, path => .ok (ofPath? path)
  | count + 1, path =>
    match ofPath? path with
    | some route => .ok (some route)
    | none =>
      let shorter := withoutEndSlashes path
      if path = "/" ∨ shorter = path ∨ (ofPath? shorter).isNone then .ok none
      else (pathOf (addressOfPath shorter)).bind (follow count)

def Route.find? (address : Text) : Except CallFault (Option Route) :=
  (pathOf address).bind (follow 20)

end DdlAtlas.Api
