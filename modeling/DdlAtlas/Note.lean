import DdlAtlas.Text.Basic

/-! What the library has to say about its own work. A note is kept as its cause; severity, origin and
wording are functions of it. -/

namespace DdlAtlas

inductive Severity
  | debug
  | info
  | warning
  | error
deriving DecidableEq, Repr

namespace Severity

def rank : Severity → Nat
  | .debug => 10
  | .info => 20
  | .warning => 30
  | .error => 40

def name : Severity → Text
  | .debug => "DEBUG"
  | .info => "INFO"
  | .warning => "WARNING"
  | .error => "ERROR"

def label : Severity → Text
  | .debug => "debug"
  | .info => "info"
  | .warning => "warning"
  | .error => "error"

def all : List Severity :=
  [.debug, .info, .warning, .error]

def ofName? (t : Text) : Option Severity :=
  all.find? (·.name == t)

end Severity

inductive Note
  | unterminatedTable (offset : Nat)
  | located (tables policies switches : Nat)
  | skippedConstraint (table line : Text)
  | unrecognizedLine (table line : Text)
  | orphanPolicies (tables : List Text)
  | folderMissing (folder : Text)
  | extracted (name : Text) (tables policies : Nat)
  | calling (provider model : Text) (messages : Nat)
  | providerRefused (status : Nat) (body : Text)
  | providerUnreachable (reason : Text)
  | startingUp (folder : Text)
  | fileFailed (name : Text)
deriving DecidableEq, Repr

namespace Note

def severity : Note → Severity
  | .unterminatedTable _ | .located .. | .skippedConstraint .. | .unrecognizedLine ..
  | .orphanPolicies _ | .calling .. => .debug
  | .extracted .. | .startingUp _ => .info
  | .folderMissing _ | .providerRefused .. | .providerUnreachable _ => .warning
  | .fileFailed _ => .error

def origin : Note → Text
  | .unterminatedTable _ | .located .. => "schemascope.sql_schema.locator"
  | .skippedConstraint .. | .unrecognizedLine .. => "schemascope.sql_schema.parser"
  | .orphanPolicies _ => "schemascope.sql_schema.assembler"
  | .folderMissing _ | .extracted .. => "schemascope.extractor"
  | .calling .. | .providerRefused .. => "schemascope.llm.client"
  | .providerUnreachable _ => "schemascope.web.routes.chat"
  | .startingUp _ => "schemascope.web.app"
  | .fileFailed _ => "schemascope.web.routes.deps"

/-- The wording. Lines of a table body are quoted up to sixty characters and the body of a refusal up
to five hundred. -/
def message : Note → Text
  | .unterminatedTable offset =>
    .concat ["Unterminated CREATE TABLE at offset ", .ofNat offset]
  | .located tables policies switches =>
    .concat ["Located ", .ofNat tables, " tables, ", .ofNat policies, " policies, ",
      .ofNat switches, " RLS enable statements"]
  | .skippedConstraint table line =>
    .concat ["Skipping constraint-like line in ", table, ": ", line.take 60]
  | .unrecognizedLine table line =>
    .concat ["Unrecognized line in ", table, ": ", line.take 60]
  | .orphanPolicies tables =>
    .concat ["Policies reference tables not defined in source: ", .join ", " tables]
  | .folderMissing folder => .concat ["Schema directory not found: ", folder]
  | .extracted name tables policies =>
    .concat ["Extracted from ", name, ": ", .ofNat tables, " tables, ", .ofNat policies,
      " policies"]
  | .calling provider model messages =>
    .concat ["Calling ", provider, "/", model, " with ", .ofNat messages, " messages"]
  | .providerRefused status body =>
    .concat ["Chat provider error ", .ofNat status, ": ", body.take 500]
  | .providerUnreachable reason => .concat ["Chat provider unreachable: ", reason]
  | .startingUp folder =>
    .concat ["schemascope API starting up (schema folder: ", folder, ")"]
  | .fileFailed name => .concat ["Error parsing database file ", name]

def atLeast (threshold : Severity) (n : Note) : Bool :=
  threshold.rank ≤ n.severity.rank

end Note

end DdlAtlas
