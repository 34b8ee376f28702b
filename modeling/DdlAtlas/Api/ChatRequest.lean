import DdlAtlas.Chat.Prompt
import DdlAtlas.Settings.Validation

/-! What a chat turn has to say: messages, and what they are about. The schema is given as text, or by the
name of a schema file. -/

namespace DdlAtlas.Api

open Yaml (Value)
open Settings (checkText checkChoice)

structure Turn where
  role : Text
  content : Text
deriving DecidableEq, Repr

structure ChatRequest where
  turns : List Turn
  schema : Text
  database : Option Text
  table : Option Text
  mode : Chat.Mode
deriving DecidableEq, Repr

def checkObject {α : Type} (check : List (Value × Value) → Checked α) : Value → Checked α
  | .mapping fields => check fields
  | _ => .broken .recordOrAttributes

def checkRequired {α : Type} (fields : List (Value × Value)) (name : Text)
    (check : Value → Checked α) : Checked α :=
  Checked.under (.field name) <|
    match Value.field? fields name with
    | none => .broken .missing
    | some v => check v

def checkNamed {α : Type} (fields : List (Value × Value)) (names : List Text) (default : α)
    (check : Value → Checked α) : Checked α :=
  match names.find? fun name => (Value.field? fields name).isSome with
  | none => .ok default
  | some name => checkRequired fields name check

def checkOptionalText : Value → Checked (Option Text)
  | .null => .ok none
  | v => (checkText v).andThen fun t => .ok (some t)

def checkRole : Value → Checked Text :=
  checkChoice fun t => if t = "user" ∨ t = "assistant" then some t else none

def checkTurn : Value → Checked Turn :=
  checkObject fun fields =>
    ((Checked.of Turn.mk).and (checkRequired fields "role" checkRole)).and
      (checkRequired fields "content" checkText)

def checkTurns : Value → Checked (List Turn)
  | .list [] => .broken .tooShort
  | .list vs => Checked.items checkTurn 0 vs
  | _ => .broken .list

def ChatRequest.check : Value → Checked ChatRequest :=
  checkObject fun fields =>
    (((((Checked.of ChatRequest.mk).and
      (checkRequired fields "messages" checkTurns)).and
      (checkNamed fields ["schema", "schema_context"] [] checkText)).and
      (checkNamed fields ["database"] none checkOptionalText)).and
      (checkNamed fields ["currentTable", "current_table"] none checkOptionalText)).and
      (checkNamed fields ["mode"] .developer (checkChoice Chat.Mode.ofName?))

def Turn.toJson (t : Turn) : Json :=
  .obj [("role", .str t.role), ("content", .str t.content)]

end DdlAtlas.Api
