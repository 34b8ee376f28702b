import DdlAtlas.Json.Basic
import DdlAtlas.Schema.Basic
import DdlAtlas.Schema.Finding

/-! The records of a schema as data values, with the field names under which they are exchanged. -/

namespace DdlAtlas

def Column.toJson (c : Column) : Json :=
  .obj [("name", .str c.name), ("type", .str c.type), ("nullable", .bool c.nullable),
    ("defaultValue", .ofText? c.defaultValue), ("isPrimaryKey", .bool c.isPrimaryKey),
    ("isUnique", .bool c.isUnique), ("checkConstraint", .ofText? c.checkConstraint)]

def ForeignKey.toJson (k : ForeignKey) : Json :=
  .obj [("column", .str k.column), ("referencedTable", .str k.referencedTable),
    ("referencedColumn", .str k.referencedColumn), ("constraintName", .str k.constraintName)]

def PolicyClauses.fields (p : PolicyClauses) : List (Text × Json) :=
  [("command", .str p.command), ("roles", .ofTexts p.roles), ("using", .ofText? p.using?),
    ("withCheck", .ofText? p.withCheck?), ("permissive", .bool p.permissive)]

def Policy.toJson (p : Policy) : Json :=
  .obj (("name".toList, .str p.name) :: p.clauses.fields ++
    [("plainEnglish".toList, .str p.plainEnglish)])

def Table.toJson (t : Table) : Json :=
  .obj [("name", .str t.name), ("schema", .str t.schema),
    ("columns", .arr (t.columns.map (·.toJson))), ("primaryKeys", .ofTexts t.primaryKeys),
    ("foreignKeys", .arr (t.foreignKeys.map (·.toJson))), ("rlsEnabled", .bool t.rlsEnabled),
    ("rlsPolicies", .arr (t.policies.map (·.toJson)))]

def Totals.toJson (n : Totals) : Json :=
  .obj [("totalTables", .int n.tables), ("totalColumns", .int n.columns),
    ("totalRelationships", .int n.relationships), ("totalRLSPolicies", .int n.policies),
    ("tablesWithRLS", .int n.tablesWithRls)]

def Schema.fields (s : Schema) : List (Text × Json) :=
  [("tables", .arr (s.tables.map (·.toJson))), ("stats", s.totals.toJson)]

def Schema.toJson (s : Schema) : Json :=
  .obj s.fields

def Finding.toJson (f : Finding) : Json :=
  .obj [("type", .str f.severity.label), ("kind", .str f.kind), ("message", .str f.message),
    ("tables", .ofTexts f.tables), ("chatPrompt", .str f.prompt)]

end DdlAtlas
