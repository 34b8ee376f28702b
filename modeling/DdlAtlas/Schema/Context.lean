import DdlAtlas.Schema.Basic

/-! A schema as a block of lines: a summary, then every table with its columns, foreign keys and
policies. -/

namespace DdlAtlas

def Column.contextLine (c : Column) : Text :=
  .concat ["  ", c.name, " ", c.type, .whenSet c.isPrimaryKey " PRIMARY KEY",
    .whenSet (!c.nullable) " NOT NULL", .whenSet c.isUnique " UNIQUE",
    match c.defaultValue with
    | none | some [] => []
    | some value => " DEFAULT " ++ value]

def ForeignKey.contextLine (k : ForeignKey) : Text :=
  .concat ["  FOREIGN KEY (", k.column, ") REFERENCES ", k.referencedTable, "(",
    k.referencedColumn, ")"]

def Policy.contextLine (p : Policy) : Text :=
  .concat ["  --   ", p.name, " (", p.clauses.command, "): ", p.plainEnglish]

def Table.securityLines (t : Table) : List Text :=
  if !t.rlsEnabled then []
  else "  -- RLS ENABLED" ::
    if t.policies.isEmpty then ["  -- NO POLICIES: all access is denied"]
    else "  -- Policies:" :: t.policies.map (·.contextLine)

def Table.contextLines (t : Table) : List Text :=
  .concat ["TABLE ", t.name, " (schema: ", t.schema, "):"] ::
    (t.columns.map (·.contextLine) ++ t.foreignKeys.map (·.contextLine) ++ t.securityLines)

def Totals.summaryLines (n : Totals) : List Text :=
  ["DATABASE SUMMARY:",
    .concat ["- Total Tables: ", .ofNat n.tables],
    .concat ["- Total Columns: ", .ofNat n.columns],
    .concat ["- Total Foreign Keys: ", .ofNat n.relationships],
    .concat ["- Tables with RLS: ", .ofNat n.tablesWithRls]]

def Schema.context (s : Schema) : Text :=
  if s.tables.isEmpty then []
  else Text.join "\n\n"
    (Text.join "\n" s.totals.summaryLines :: s.tables.map fun t => Text.join "\n" t.contextLines)

end DdlAtlas
