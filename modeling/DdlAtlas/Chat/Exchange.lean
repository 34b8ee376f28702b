import DdlAtlas.Chat.Event
import DdlAtlas.Chat.Payload
import DdlAtlas.Text.Lines

/-! One exchange with the provider: what is asked, what comes back, and how it ends. Without a key, or
with messages that cannot be sent, nobody is asked. An answer from an address without a scheme is not read. -/

namespace DdlAtlas.Chat

structure Request where
  url : Url
  key : Text
  version : Text
  body : Json

inductive Reaction
  | answer (status : Nat) (pieces : List Text)
  | outage (outage : Outage) (reason : Text)
deriving DecidableEq, Repr

structure Exchange where
  received : List Json
  failure : Option Failure
  requests : List Request
  notes : List Note

def headerFailure? (s : ChatSettings) : Option Failure :=
  ([s.apiKey, s.apiVersion].find? (·.any Text.beyondAscii)).map .notAscii

def addressOf (s : ChatSettings) : Except UrlFault Url :=
  (Url.read (s.baseUrl ++ "/v1/messages")).bind (Url.joined .empty)

def bodyFailure? (body : Json) : Option Failure :=
  if !body.isFinite then some .notFinite else body.tear?.map .notWhole

/-- The request for a body, or the first thing that is wrong with it: the address, a header, the body, or
the name of the host. -/
def Request.of (s : ChatSettings) (body : Json) : Except Failure Request :=
  match addressOf s with
  | .error fault => .error (.address fault)
  | .ok url =>
    match (headerFailure? s).orElse fun _ => bodyFailure? body with
    | some e => .error e
    | none =>
      match url.hostFault? with
      | some fault => .error (.hostName fault)
      | none => .ok ⟨url, s.apiKey, s.apiVersion, body⟩

def Exchange.after [Json.Depth] (request : Request) (notes : List Note) : Reaction → Exchange
  | .outage outage reason => ⟨[], some (.unreachable outage reason), [request], notes⟩
  | .answer status pieces =>
    if request.url.scheme.isEmpty then
      ⟨[], some (.unknownAddress request.url.toText), [request], notes⟩
    else if 400 ≤ status then
      ⟨[], some (.refused status), [request],
        notes ++ [.providerRefused status (Text.concat pieces)]⟩
    else
      let (received, failure) := carriedByLines (LineBuffer.linesOfPieces pieces)
      ⟨received, failure, [request], notes⟩

def Exchange.stopped (failure : Failure) (notes : List Note) : Exchange :=
  ⟨[], some failure, [], notes⟩

def converse [Json.Depth] (s : ChatSettings) (system : Json) (messages : List Json) (reaction : Reaction) :
    Exchange :=
  if s.apiKey = [] then .stopped .noKey []
  else match readMessages messages with
    | .error e => .stopped e []
    | .ok messages =>
      let notes := [Note.calling s.provider s.model messages.length]
      match Request.of s (payload s system messages) with
      | .error e => .stopped e notes
      | .ok request => .after request notes reaction

end DdlAtlas.Chat
