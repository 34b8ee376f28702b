import DdlAtlas.Command.Arguments
import DdlAtlas.Files.Source
import DdlAtlas.Json.Writer
import DdlAtlas.Note.Template
import DdlAtlas.Schema.Context
import DdlAtlas.Schema.Record
import DdlAtlas.Settings.File

/-! Running a command line over a tree of files: what is printed, how it ends, and which notes are
shown. A run looks at the settings file, and then at the files and folders of its task; a tree that agrees
with the disk at these places is enough for it. -/

namespace DdlAtlas.Command

structure Service where
  host : Text
  port : Int
  level : Severity
deriving DecidableEq, Repr

structure Outcome where
  exit : Nat
  printed : Text
  complaint : Text
  services : List Service
  notes : List Note

inductive Stop
  | settings (e : SettingsError)
  | source (e : SourceError)
  | format (format : Text)
deriving DecidableEq, Repr

def Stop.message : Stop → Text
  | .settings e => e.message
  | .source e => e.message
  | .format text => .concat ["Invalid format '", text, "' for '%' style"]

def line (parts : List Text) : Text :=
  Text.concat parts ++ "\n"

/-- The schema of a target, which is a file at that path or else the name of a schema. -/
def loadTarget (t : Tree) (s : SourceSettings) (target : Text) :
    Except SourceError (Schema × List Note) :=
  let content := match t.find (.ofText target) with
    | .file _ => Source.readPath t (.ofText target) s.maxFileBytes
    | .tooLong => .error (.nameTooLong (Path.ofText target).toText)
    | _ => Source.read t s.directory target s.maxFileBytes s.extension
  content.bind Source.schemaOf

def listing (folder : Text) (sources : List Source) : Text :=
  if sources.isEmpty then line ["No schema files found in ", folder]
  else
    Text.concat (line ["\nSchema files (", .ofNat sources.length, "):"] ::
      line [List.replicate 60 '='] ::
      sources.map fun s =>
        line ["  ", Text.padRight 30 s.name, " ", Text.padLeft 10 ' ' (.ofNat s.size), " bytes  ",
          s.modified.shortText])

def tableSummary (t : Table) : Text :=
  Text.concat <|
    line ["\n", t.schema, ".", t.name, " (", .ofNat t.columns.length, " columns, ",
      if t.rlsEnabled then "RLS" else "no RLS", ")"] ::
    (t.foreignKeys.map fun k =>
      line ["  ", k.column, " -> ", k.referencedTable, "(", k.referencedColumn, ")"]) ++
    (if t.deniesAll then [line ["  !! RLS enabled with no policies: all access is denied"]] else []) ++
    t.policies.map fun p => line ["  [", p.clauses.command, "] ", p.name, ": ", p.plainEnglish]

def schemaSummary (s : Schema) : Text :=
  let n := s.totals
  Text.concat <|
    line ["\nTables: ", .ofNat n.tables, "  Columns: ", .ofNat n.columns, "  Relationships: ",
      .ofNat n.relationships, "  Policies: ", .ofNat n.policies, "  Tables with RLS: ",
      .ofNat n.tablesWithRls] ::
    line [List.replicate 80 '='] ::
    s.tables.map tableSummary

def findingRank (f : Finding) : Nat :=
  100 - f.severity.rank

def findingSummary (s : Schema) : Text :=
  if s.findings.isEmpty then line ["No warnings."]
  else
    Text.concat <| (s.findings.mergeSort fun a b => findingRank a ≤ findingRank b).map fun f =>
      line ["[", f.severity.name, "] ", f.message]

def printTarget (t : Tree) (s : Settings) (target : Text) (print : Schema → Text) :
    Except Stop (Text × List Note) :=
  ((loadTarget t s.sources target).map fun (schema, notes) => (print schema, notes)).mapError .source

def printTask (t : Tree) (s : Settings) : Task → Except Stop (Text × List Note)
  | .list =>
    ((Source.scan t s.sources.directory s.sources.extension).map fun (sources, notes) =>
      (listing s.sources.directory sources, notes)).mapError .source
  | .parse target asJson =>
    printTarget t s target fun schema =>
      if asJson then line [schema.toJson.indented 0] else schemaSummary schema
  | .context target => printTarget t s target fun schema => line [schema.context]
  | .warnings target => printTarget t s target findingSummary
  | .serve .. => .ok ([], [])

def hostOr (fallback : Text) : Option Text → Text
  | none | some [] => fallback
  | some host => host

def portOr (fallback : Int) : Option Int → Int
  | none => fallback
  | some port => if port = 0 then fallback else port

def servicesOf (s : Settings) : Task → List Service
  | .serve host port =>
    [⟨hostOr s.server.host host, portOr s.server.port port, s.logging.level⟩]
  | _ => []

def settingsOf (e : Environment) (t : Tree) (i : Invocation) : Except Stop Settings :=
  match Settings.load e t i.config with
  | .error stop => .error (.settings stop)
  | .ok s => if Template.isSound s.logging.format then .ok s else .error (.format s.logging.format)

def Outcome.stopped (stop : Stop) : Outcome :=
  ⟨1, [], line ["Error: ", stop.message], [], []⟩

def noteLines (template : Text) (now : Moment) (notes : List Note) : Text :=
  Text.concat <| (notes.filterMap (Note.line? template now)).map fun t => line [t]

def Invocation.run (e : Environment) (t : Tree) (now : Moment) (interrupted : Bool) (i : Invocation) :
    Outcome :=
  match settingsOf e t i with
  | .error stop => .stopped stop
  | .ok s =>
    match printTask t s i.task with
    | .error stop => .stopped stop
    | .ok (printed, notes) =>
      let shown := notes.filter (Note.atLeast (if i.verbose then .debug else s.logging.level))
      let lines := noteLines s.logging.format now shown
      let services := servicesOf s i.task
      if interrupted && !services.isEmpty then
        ⟨130, printed, lines ++ "\nInterrupted by user\n", services, shown⟩
      else ⟨0, printed, lines, services, shown⟩

def run (e : Environment) (t : Tree) (now : Moment) (interrupted : Bool) (words : List Text) : Outcome :=
  match Invocation.read words with
  | .error (.help topic) => ⟨0, topic.helpText, [], [], []⟩
  | .error (.refused topic refusal) => ⟨2, [], topic.complaint refusal, [], []⟩
  | .ok i => i.run e t now interrupted

structure Reach where
  files : List Path
  folders : List Path
deriving DecidableEq, Repr

def Invocation.settingsPath (e : Environment) (i : Invocation) : Path :=
  (Settings.namedPath? e i.config).getD Settings.usualPath

def Reach.ofTarget (s : SourceSettings) (target : Text) : Reach :=
  ⟨.ofText target :: (Source.resolve s.directory target s.extension).toOption.toList, []⟩

def Task.reach (s : SourceSettings) : Task → Reach
  | .list => ⟨[], [.ofText s.directory]⟩
  | .parse target _ | .context target | .warnings target => .ofTarget s target
  | .serve .. => ⟨[], []⟩

def Invocation.reach (e : Environment) (t : Tree) (i : Invocation) : Reach :=
  match settingsOf e t i with
  | .ok s => i.task.reach s.sources
  | .error _ => ⟨[], []⟩

end DdlAtlas.Command
