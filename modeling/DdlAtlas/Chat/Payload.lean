import DdlAtlas.Chat.Failure
import DdlAtlas.Settings.Basic

/-! What is sent to the provider: model, limits, the system prompt, and of every message its role and
its content. -/

namespace DdlAtlas.Chat

structure Message where
  role : Json
  content : Json

def Message.toJson (m : Message) : Json :=
  .obj [("role", m.role), ("content", m.content)]

def messageField (v : Json) (name : Text) : Except Failure Json :=
  match v with
  | .obj fields =>
    match Json.field? name fields with
    | some w => .ok w
    | none => .error (.missingField name)
  | v => .error (.notRecord (kindName v))

def Message.ofJson (v : Json) : Except Failure Message :=
  match messageField v "role" with
  | .error e => .error e
  | .ok role =>
    match messageField v "content" with
    | .error e => .error e
    | .ok content => .ok ⟨role, content⟩

def readMessages : List Json → Except Failure (List Message)
  | [] => .ok []
  | v :: rest =>
    match Message.ofJson v with
    | .error e => .error e
    | .ok m => (readMessages rest).map (m :: ·)

def payload (s : ChatSettings) (system : Json) (messages : List Message) : Json :=
  .obj [("model", .str s.model), ("max_tokens", .int s.maxTokens), ("system", system),
    ("messages", .arr (messages.map (·.toJson))), ("stream", .bool true)]

end DdlAtlas.Chat
