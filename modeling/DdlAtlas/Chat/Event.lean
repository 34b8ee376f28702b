import DdlAtlas.Chat.Failure

/-! The lines of an event stream. Only lines of data carry text, and of these only the events on a
delta of a content block. What cannot be read is passed over. -/

namespace DdlAtlas.Chat

def deltaEvent : Text := "content_block_delta"

/-- What an event carries: the text of its delta, unless that is void. -/
def Event.carried (event : Json) : Except Failure (Option Json) :=
  match (event.get? "type") with
  | some (.str kind) =>
    if kind ≠ deltaEvent then .ok none
    else
      let delta := (event.get? "delta").getD .null
      if delta.isVoid then .ok none
      else match delta with
        | .obj fields => .ok ((Json.field? "text" fields).filter (!·.isVoid))
        | v => .error (.deltaKind (kindName v))
  | _ => .ok none

def carriedBy [Json.Depth] (line : Text) : Except Failure (Option Json) :=
  match Text.behind? "data: " line with
  | none => .ok none
  | some data =>
    if data = "[DONE]" then .ok none
    else match Json.read data with
      -- only a line that is not written well is passed over; the limits of the reader end the stream
      | .error (.malformed _) => .ok none
      | .error (.tooManyDigits count) => .error (.tooManyDigits count)
      | .error (.tooDeep isArray) => .error (.tooDeep isArray)
      | .ok event => Event.carried event

def carriedByLines [Json.Depth] : List Text → List Json × Option Failure
  | [] => ([], none)
  | line :: rest =>
    match carriedBy line with
    | .error e => ([], some e)
    | .ok none => carriedByLines rest
    | .ok (some v) =>
      let (more, failure) := carriedByLines rest
      (v :: more, failure)

end DdlAtlas.Chat
