import DdlAtlas.Api.ChatRequest
import DdlAtlas.Api.Route
import DdlAtlas.Chat.Exchange
import DdlAtlas.Files.Source
import DdlAtlas.Json.Encoding
import DdlAtlas.Schema.Context
import DdlAtlas.Schema.Record

/-! The answers of the web interface, as a function of the settings, the files, the provider's reaction and
the request. A chat turn looks for what is wrong with its request first, then with its schema, then with
the settings, and only then asks the provider. -/

namespace DdlAtlas.Api

structure Body where
  bytes : List UInt8
deriving DecidableEq, Repr

instance : Coe Text Body :=
  ⟨fun t => ⟨Text.toBytes t⟩⟩

structure Call where
  method : Text
  address : Text
  body : Body
deriving DecidableEq, Repr

inductive Content
  | data (v : Json)
  | text (t : Text)
  | page (t : Text)
  | violations (vs : List Violation)

def Content.type : Content → Text
  | .data _ | .violations _ => "application/json"
  | .text _ => "text/plain; charset=utf-8"
  | .page _ => "text/html; charset=utf-8"

structure Reply where
  status : Nat
  content : Content
  requests : List Chat.Request
  notes : List Note

namespace Reply

def data (v : Json) (notes : List Note) : Reply :=
  ⟨200, .data v, [], notes⟩

def refusal (status : Nat) (detail : Text) (notes : List Note) : Reply :=
  ⟨status, .data (.obj [("detail", .str detail)]), [], notes⟩

def invalid (vs : List Violation) : Reply :=
  ⟨422, .violations vs, [], []⟩

def broken (notes : List Note) : Reply :=
  ⟨500, .text "Internal Server Error", [], notes⟩

def ofSourceError (name : Text) : SourceError → Reply
  | .missing _ => refusal 404 "Database file not found" []
  | .invalidName given => refusal 400 (SourceError.invalidName given).message []
  | .tooLarge path size limit => refusal 400 (SourceError.tooLarge path size limit).message []
  | .nameTooLong _ | .yearOutOfRange _ | .unreadable _ =>
    refusal 500 "Failed to parse database file" [.fileFailed name]

end Reply

def openSchema (t : Tree) (s : SourceSettings) (name : Text) : Except Reply (Schema × List Note) :=
  (Source.extract t s.directory name s.maxFileBytes s.extension).mapError (.ofSourceError name)

def answerOn (t : Tree) (s : SourceSettings) (name : Text)
    (fields : Schema → List (Text × Json)) : Reply :=
  match openSchema t s name with
  | .error refusal => refusal
  | .ok (schema, notes) => .data (.obj (fields schema)) notes

def listDatabases (t : Tree) (s : SourceSettings) : Reply :=
  match t.find (.ofText s.directory) with
  | .folder _ =>
    match Source.scan t s.directory s.extension with
    | .ok (sources, notes) =>
      .data (.obj [("databases", .arr (sources.map (·.toJson)))]) notes
    | .error _ => .broken []
  | .tooLong => .broken []
  | .file _ | .nowhere =>
    .data (.obj [("databases", .arr []), ("error", .str "No database folder found")]) []

def textOfPieces : List Json → Text
  | .str t :: rest => t ++ textOfPieces rest
  | _ => []

def relay (first : Json) (rest : List Json) : List Json :=
  if first.isVoid then rest else first :: rest

/-- The answer to a chat turn by its exchange with the provider. The first piece is awaited, so that a failure
in front of it is one of the answer. Then the answer has begun, and a failure only ends it. -/
def Reply.ofExchange (x : Chat.Exchange) (notes : List Note) : Reply :=
  let notes := notes ++ x.notes
  let streamed (pieces : List Json) : Reply := ⟨200, .text (textOfPieces pieces), x.requests, notes⟩
  match x.received, x.failure with
  | first :: rest, _ => streamed (relay first rest)
  | [], none => streamed (relay (.str []) [])
  | [], some failure =>
    match failure with
    | .unreachable _ reason =>
      { Reply.refusal 502 "Failed to reach chat provider"
          (notes ++ [.providerUnreachable reason]) with requests := x.requests }
    | failure =>
      match failure.status? with
      | some status =>
        { Reply.refusal status failure.message notes with requests := x.requests }
      | none => { Reply.broken notes with requests := x.requests }

def chatSchema (t : Tree) (s : SourceSettings) (r : ChatRequest) : Except Reply (Text × List Note) :=
  if r.schema ≠ [] then .ok (r.schema, [])
  else match r.database with
    | none | some [] => .ok ([], [])
    | some name => (openSchema t s name).map fun (schema, notes) => (schema.context, notes)

def answerChat [Json.Depth] (t : Tree) (s : Settings) (reaction : Chat.Reaction) (r : ChatRequest) : Reply :=
  match chatSchema t s.sources r with
  | .error refusal => refusal
  | .ok (schema, notes) =>
    let prompt := Chat.systemPrompt schema r.table r.mode
    .ofExchange (Chat.converse s.chat (.str prompt) (r.turns.map (·.toJson)) reaction) notes

def valueAt : Json → List Step → Json
  | v, [] => v
  | v, step :: rest =>
    let inner? := match v, step with
      | .obj fields, .field name => Json.field? name fields
      | .arr items, .item i => items[i]?
      | _, _ => none
    match inner? with
    | some inner => valueAt inner rest
    | none => v

def Reply.ofViolations (body : Json) (vs : List Violation) : Reply :=
  if vs.all fun v => (valueAt body v.place).isFinite && (valueAt body v.place).isWhole then
    .invalid (vs.map fun v => { v with place := .field "body" :: v.place })
  else .broken []

def Reply.unreadable : Reply :=
  .refusal 400 "There was an error parsing the body" []

def readChatRequest [Json.Depth] (body : Body) : Except Reply ChatRequest :=
  if body.bytes = [] then .error (.ofViolations .null [⟨[], .missing⟩])
  else match Json.sent? body.bytes with
    | none => .error .unreadable
    | some sent =>
      match Json.readSent sent with
      | .error (.malformed left) =>
        .error (.ofViolations .null [⟨[.item (sent.text.length - left)], .notJson⟩])
      | .error (.tooManyDigits _) | .error (.tooDeep _) => .error .unreadable
      | .ok v => (ChatRequest.check (.ofJson v)).mapError (.ofViolations v)

def Route.answer [Json.Depth] (t : Tree) (s : Settings) (reaction : Chat.Reaction) (body : Body) :
    Route → Reply
  | .health => .data (.obj [("status", .str "ok")]) []
  | .databases => listDatabases t s.sources
  | .database name =>
    answerOn t s.sources name fun schema => schema.fields ++ [("filename".toList, .str name)]
  | .warnings name =>
    answerOn t s.sources name fun schema =>
      [("filename", .str name), ("warnings", .arr (schema.findings.map (·.toJson)))]
  | .context name =>
    answerOn t s.sources name fun schema =>
      [("filename", .str name), ("context", .str schema.context)]
  | .chat =>
    match readChatRequest body with
    | .error refusal => refusal
    | .ok r => answerChat t s reaction r
  | .manual => ⟨200, .page [], [], []⟩

/-- The answer to a request that reaches the interface. When only its head is asked for, an answer of data
has none to be read. -/
def Call.answer [Json.Depth] (t : Tree) (s : Settings) (reaction : Chat.Reaction) (c : Call) :
    Except CallFault Reply :=
  let method := c.method.map Char.toUpper
  (Route.find? c.address).bind fun route? =>
    let reply := match route? with
      | none => Reply.refusal 404 "Not Found" []
      | some route =>
        if route.methods.contains method then route.answer t s reaction c.body
        else .refusal 405 "Method Not Allowed" []
    match reply.content with
    | .data _ => if method = "HEAD" then .error .noContent else .ok reply
    | _ => .ok reply

def startNote (s : Settings) : Note :=
  .startingUp s.sources.directory

end DdlAtlas.Api
