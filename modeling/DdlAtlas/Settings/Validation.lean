import DdlAtlas.Settings.Basic
import DdlAtlas.Settings.Numeral
import DdlAtlas.Settings.Violation
import DdlAtlas.Text.Utf8
import DdlAtlas.Yaml.Value

/-! Settings from the data of a settings file. A text has to be a text; a whole number may also be
written as a text, a truth value or a double without a fraction; a fraction as any number. Unknown
keys are ignored, and all violations are reported, in the order of the fields. -/

namespace DdlAtlas.Settings

open Yaml (Value)

def checkWritten {α : Type} (check : Text → Checked α) (unreadable : Rule) (bytes : List UInt8) :
    Checked α :=
  match Text.readBytes bytes with
  | .ok t => check t
  | .error _ => .broken unreadable

def checkText : Value → Checked Text
  | .str t => .ok t
  | .bytes bytes => checkWritten .ok .stringUnicode bytes
  | .torn => .broken .stringUnicode
  | _ => .broken .string

def checkIntText (t : Text) : Checked Int :=
  match intOfText? t with
  | some n => .ok n
  | none => .broken (if startsTooLong t then .intTooLarge else .intText)

/-- A whole number in any of its forms. A double has to lie within 63 bits. -/
def checkInt : Value → Checked Int
  | .int n => .ok n
  | .bool b => .ok (if b then 1 else 0)
  | .float x =>
    if x.isNaN || x.isInf then .broken .finite
    else match intOfFloat? x with
      | some n => if n.natAbs < Nat.pow 2 63 then .ok n else .broken .intTooLarge
      | none => .broken .intFromFloat
  | .str t => checkIntText t
  | .bytes bytes => checkWritten checkIntText .intText bytes
  | .torn => .broken .stringUnicode
  | _ => .broken .int

def checkIntBetween (least most : Int) (v : Value) : Checked Int :=
  (checkInt v).andThen fun n =>
    if n > most then .broken .atMost else if n < least then .broken .atLeast else .ok n

def checkFloatText (t : Text) : Checked Float :=
  match floatOfText? t with
  | some x => .ok x
  | none => .broken .floatText

def checkFloat : Value → Checked Float
  | .float x => .ok x
  | .bool b => .ok (if b then 1.0 else 0.0)
  | .int n =>
    match floatOfInt? n with
    | some x => .ok x
    | none => .broken .float
  | .str t => checkFloatText t
  | .bytes bytes => checkWritten checkFloatText .floatText bytes
  | .torn => .broken .stringUnicode
  | _ => .broken .float

def checkPositive (v : Value) : Checked Float :=
  (checkFloat v).andThen fun x => if 0.0 < x then .ok x else .broken .above

def checkTexts : Value → Checked (List Text)
  | .list vs | .set vs => Checked.items checkText 0 vs
  | _ => .broken .list

def checkChoice {α : Type} (meaning : Text → Option α) : Value → Checked α
  | .str t =>
    match meaning t with
    | some a => .ok a
    | none => .broken .choice
  | _ => .broken .choice

def checkProvider : Value → Checked Text :=
  checkChoice fun t => if t = "anthropic" then some t else none

/-- The suffix of schema files: not empty, and with a point in front, which is added if missing. -/
def checkExtension (v : Value) : Checked Text :=
  (checkText v).andThen fun t =>
    if t = [] then .broken .custom
    else .ok (if Text.startsWith t "." then t else '.' :: t)

def checkBaseUrl (v : Value) : Checked Text :=
  (checkText v).andThen fun t =>
    if Text.startsWith t "http://" || Text.startsWith t "https://" then
      .ok (t.reverse.dropWhile (· == '/')).reverse
    else .broken .custom

def checkField {α : Type} (fields : List (Value × Value)) (name : Text) (default : α)
    (check : Value → Checked α) : Checked α :=
  match Value.field? fields name with
  | none => .ok default
  | some v => (check v).under (.field name)

def checkRecord {α : Type} (check : List (Value × Value) → Checked α) : Value → Checked α
  | .mapping fields => check fields
  | _ => .broken .record

def checkSources : Value → Checked SourceSettings :=
  checkRecord fun fields =>
    let d := SourceSettings.default
    (((Checked.of SourceSettings.mk).and
      (checkField fields "directory" d.directory checkText)).and
      (checkField fields "extension" d.extension checkExtension)).and
      (checkField fields "max_file_bytes" d.maxFileBytes
        (checkIntBetween 1024 (100 * 1024 * 1024)))

def checkServer : Value → Checked ServerSettings :=
  checkRecord fun fields =>
    let d := ServerSettings.default
    (((Checked.of ServerSettings.mk).and
      (checkField fields "host" d.host checkText)).and
      (checkField fields "port" d.port (checkIntBetween 1 65535))).and
      (checkField fields "cors_origins" d.corsOrigins checkTexts)

def checkChat (e : Environment) : Value → Checked ChatSettings :=
  checkRecord fun fields =>
    let d := ChatSettings.default e
    (((((((Checked.of ChatSettings.mk).and
      (checkField fields "provider" d.provider checkProvider)).and
      (checkField fields "base_url" d.baseUrl checkBaseUrl)).and
      (checkField fields "api_key" d.apiKey checkText)).and
      (checkField fields "model" d.model checkText)).and
      (checkField fields "api_version" d.apiVersion checkText)).and
      (checkField fields "max_tokens" d.maxTokens (checkIntBetween 1 64000))).and
      (checkField fields "timeout" d.timeout checkPositive)

def checkLogging : Value → Checked LogSettings :=
  checkRecord fun fields =>
    let d := LogSettings.default
    ((Checked.of LogSettings.mk).and
      (checkField fields "level" d.level (checkChoice Severity.ofName?))).and
      (checkField fields "format" d.format checkText)

def check (e : Environment) : Value → Checked Settings :=
  checkRecord fun fields =>
    let d := Settings.default e
    ((((Checked.of Settings.mk).and
      (checkField fields "sources" d.sources checkSources)).and
      (checkField fields "server" d.server checkServer)).and
      (checkField fields "chat" d.chat (checkChat e))).and
      (checkField fields "logging" d.logging checkLogging)

end DdlAtlas.Settings
