import DdlAtlas.Note
import DdlAtlas.Schema.Basic

/-! What deserves attention in a schema. Each check looks at all tables and yields at most one finding,
which names the tables it is about and carries a question for the chat. -/

namespace DdlAtlas

structure Finding where
  severity : Severity
  kind : Text
  message : Text
  tables : List Text
  prompt : Text
deriving DecidableEq, Repr

namespace Schema

def namesWhere (s : Schema) (test : Table → Bool) : List Text :=
  (s.tables.filter test).map (·.name)

def findingOn (severity : Severity) (kind : Text) (names : List Text)
    (message : Text → Text) (prompt : Text → List Text) : Option Finding :=
  if names.isEmpty then none
  else
    let listed := Text.join ", " names
    some ⟨severity, kind, .ofNat names.length ++ message listed, names,
      Text.join "\n" (prompt listed)⟩

def missingPrimaryKeys (s : Schema) : Option Finding :=
  findingOn .error "missing_primary_key" (s.namesWhere fun t => !t.columns.any (·.isPrimaryKey))
    (" table(s) missing primary key: " ++ ·)
    fun listed =>
      ["The following tables are missing primary keys: " ++ listed, "",
        "Please explain:",
        "1. Why is having a primary key critical for these tables?",
        "2. What problems can occur without primary keys?",
        "3. What would you recommend as primary keys for each of these tables?",
        "4. Provide the SQL to add primary keys to fix this issue."]

def withoutRls (s : Schema) : Option Finding :=
  findingOn .warning "rls_disabled" (s.namesWhere fun t => !t.rlsEnabled)
    (" table(s) without RLS policies: " ++ ·)
    fun listed =>
      ["The following tables have no Row Level Security (RLS) policies: " ++ listed, "",
        "Please explain:",
        "1. What security risks does this pose?",
        "2. For a multi-tenant application, why is RLS important for each of these tables?",
        "3. Provide example RLS policies I should add to secure these tables properly.",
        "4. Show the SQL to enable RLS and create appropriate policies."]

def closedToAll (s : Schema) : Option Finding :=
  findingOn .error "rls_without_policies" (s.namesWhere (·.deniesAll))
    (" table(s) have RLS enabled but no policies (blocks all access): " ++ ·)
    fun listed =>
      ["CRITICAL: The following tables have RLS enabled but NO policies defined: " ++ listed, "",
        "This means ALL access to these tables is currently BLOCKED!", "",
        "Please explain:",
        "1. Why is this a critical issue?",
        "2. How does RLS work when enabled with no policies?",
        "3. What policies should I add to restore access while maintaining security?",
        "4. Provide the SQL to create appropriate RLS policies for each table."]

def referencedTables (s : Schema) : List Text :=
  s.tables.flatMap fun t => t.foreignKeys.map (·.referencedTable)

def exemptTable : Text := "users"

def isolated (s : Schema) : Option Finding :=
  findingOn .info "isolated_table"
    (s.namesWhere fun t =>
      t.foreignKeys.isEmpty && !s.referencedTables.contains t.name && t.name != exemptTable)
    (" isolated table(s) with no relationships: " ++ ·)
    fun listed =>
      ["The following tables have no foreign key relationships (isolated): " ++ listed, "",
        "Please analyze:",
        "1. Is this intentional for these tables, or is it a design issue?",
        "2. Looking at the table structure, should any of these tables have relationships to other tables?",
        "3. What foreign keys would you recommend adding?",
        "4. Provide SQL to add appropriate foreign key relationships if needed."]

def referenceText (t : Table) (k : ForeignKey) : Text :=
  .concat [t.name, ".", k.column, " -> ", k.referencedTable, "(", k.referencedColumn, ")"]

def dangling (s : Schema) : Option Finding :=
  if s.unresolved.isEmpty then none
  else
    let details := Text.join "; " (s.unresolved.map fun (t, k) => referenceText t k)
    some
      { severity := .warning
        kind := "unresolved_reference"
        message := .concat [.ofNat s.unresolved.length,
          " foreign key(s) reference tables not defined in this file: ", details]
        tables := Text.distinct (s.unresolved.map (·.1.name))
        prompt := Text.join "\n"
          ["These foreign keys point at tables that are not defined in this schema file: " ++
              details, "",
            "Please explain:",
            "1. Are these likely tables from another schema (for example auth.users)?",
            "2. What breaks if the referenced tables do not exist?",
            "3. How should I document or create the missing tables?"] }

def findings (s : Schema) : List Finding :=
  [s.missingPrimaryKeys, s.withoutRls, s.closedToAll, s.isolated, s.dangling].filterMap id

end Schema

end DdlAtlas
