import DdlAtlas.Files.Moment
import DdlAtlas.Note
import DdlAtlas.Note.Placeholder
import DdlAtlas.Pattern.Search

/-! The lines in which notes are shown, by a template with placeholders for the fields of a note. Two percent
signs stand for one. A placeholder without a name stands for the whole note, but only the first placeholder
may be one. A template with a placeholder that is not written well, names no field or does not fit its field
has no line. -/

namespace DdlAtlas

namespace Template

/-- The line of a template in which a placeholder without a name stands for the given field, if there may be
one. A text as long as the template bounds the number of steps. -/
def fill (fields : List (Text × Field)) : Text → Option Field → Text → Option Text
  | [], _, _ => some []
  | _ :: bound, whole, t =>
    match t with
    | [] => some []
    | '%' :: '%' :: rest => (fill fields bound whole rest).map ('%' :: ·)
    | '%' :: rest => do
      let (p, rest) ← Placeholder.read rest
      let field ← match p.field with
        | some name => (fields.find? (·.1 == name)).map (·.2)
        | none => whole
      return (← p.text? field) ++ (← fill fields bound none rest)
    | c :: rest => (fill fields bound whole rest).map (c :: ·)

def listed (fields : List (Text × Field)) : Text :=
  .concat ["\x7b", Text.join ", " (fields.map fun (name, f) => .concat [Text.quoted name, ": ", f.quoted]),
    "\x7d"]

def line? (fields : List (Text × Field)) (template : Text) : Option Text :=
  fill fields template (some (.other (listed fields))) template

open Pattern in
def named : Pattern :=
  let extent := alt (exactly "*") (run1 Text.isDigit)
  sequence [exactly "%(", run1 Text.isWord, exactly ")", greedy Placeholder.isFlag,
    optional extent, optional (seq (exactly ".") extent),
    one fun c => "diouxefgcrsa%".toList.any (Text.sameLetter · c)]

/-- A template for notes has a placeholder with a name; an empty one stands for the usual one. -/
def isSound (template : Text) : Bool :=
  template.isEmpty || named.occursIn template

end Template

namespace Note

def unit (n : Note) : Text :=
  (Text.cells '.' n.origin).getLastD []

def speaker : Note → Text × Nat
  | .unterminatedTable _ => ("find_table_statements", 122)
  | .located .. => ("locate_statements", 145)
  | .skippedConstraint .. => ("_on_column", 126)
  | .unrecognizedLine .. => ("parse_table_body", 169)
  | .orphanPolicies _ => ("parse_schema", 62)
  | .folderMissing _ => ("scan_sql_files", 54)
  | .extracted .. => ("extract_schema_from_file", 128)
  | .calling .. => ("stream_chat", 101)
  | .providerRefused .. => ("stream_chat", 109)
  | .providerUnreachable _ => ("chat", 76)
  | .startingUp _ => ("lifespan", 22)
  | .fileFailed _ => ("load_schema_or_error", 32)

def timeText (m : Moment) : Text :=
  .concat [m.dateText, " ", m.clockText, ":", Text.digits 2 (m.secondOfDay % 60), ",",
    Text.digits 3 (m.micros / 1000)]

/-- The fields of a note that was made at a moment. Of those on the program that runs only the names are
kept. -/
def fields (now : Moment) (n : Note) : List (Text × Field) :=
  let file := n.unit ++ ".py"
  let nothing : Field := .other "None"
  [("name", .text n.origin), ("msg", .text n.message), ("args", .other "()"),
    ("levelname", .text n.severity.name), ("levelno", .number n.severity.rank),
    ("pathname", .text file), ("filename", .text file), ("module", .text n.unit),
    ("exc_info", nothing), ("exc_text", nothing), ("stack_info", nothing),
    ("lineno", .number n.speaker.2), ("funcName", .text n.speaker.1),
    ("created", .number now.seconds.toNat), ("msecs", .number (now.micros / 1000)),
    ("relativeCreated", .number 0), ("thread", .number 0), ("threadName", .text "MainThread"),
    ("processName", .text "MainProcess"), ("process", .number 0), ("message", .text n.message)]

def line? (template : Text) (now : Moment) (n : Note) : Option Text :=
  let template : Text := if template.isEmpty then "%(message)s" else template
  let time : List (Text × Field) :=
    if Text.hasPart "%(asctime)" template then [("asctime", .text (timeText now))] else []
  Template.line? (n.fields now ++ time) template

end Note

end DdlAtlas
