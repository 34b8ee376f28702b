import DdlAtlas.Text.Basic

/-! The records that describe a database schema: columns, foreign keys, row-level security policies,
tables and the totals over them. -/

namespace DdlAtlas

structure Column where
  name : Text
  type : Text
  nullable : Bool
  defaultValue : Option Text
  isPrimaryKey : Bool
  isUnique : Bool
  checkConstraint : Option Text
deriving DecidableEq, Repr

structure ForeignKey where
  column : Text
  referencedTable : Text
  referencedColumn : Text
  constraintName : Text
deriving DecidableEq, Repr

structure PolicyClauses where
  command : Text
  roles : List Text
  using? : Option Text
  withCheck? : Option Text
  permissive : Bool
deriving DecidableEq, Repr

structure Policy where
  name : Text
  clauses : PolicyClauses
  plainEnglish : Text
deriving DecidableEq, Repr

structure Table where
  name : Text
  schema : Text
  columns : List Column
  primaryKeys : List Text
  foreignKeys : List ForeignKey
  rlsEnabled : Bool
  policies : List Policy
deriving DecidableEq, Repr

def Table.deniesAll (t : Table) : Bool :=
  t.rlsEnabled && t.policies.isEmpty

def Table.column? (t : Table) (name : Text) : Option Column :=
  t.columns.find? (·.name == name)

structure Totals where
  tables : Nat
  columns : Nat
  relationships : Nat
  policies : Nat
  tablesWithRls : Nat
deriving DecidableEq, Repr

def Totals.sum (count : Table → Nat) : List Table → Nat
  | [] => 0
  | t :: rest => count t + sum count rest

def Totals.ofTables (ts : List Table) : Totals where
  tables := ts.length
  columns := Totals.sum (·.columns.length) ts
  relationships := Totals.sum (·.foreignKeys.length) ts
  policies := Totals.sum (·.policies.length) ts
  tablesWithRls := ts.countP (·.rlsEnabled)

structure Schema where
  tables : List Table
deriving DecidableEq, Repr

namespace Schema

def totals (s : Schema) : Totals :=
  .ofTables s.tables

def table? (s : Schema) (name : Text) : Option Table :=
  s.tables.find? (·.name == name)

def tableNames (s : Schema) : List Text :=
  Text.sorted (Text.distinct (s.tables.map (·.name)))

def unresolved (s : Schema) : List (Table × ForeignKey) :=
  s.tables.flatMap fun t =>
    (t.foreignKeys.filter fun k => !s.tables.any (·.name == k.referencedTable)).map (t, ·)

end Schema

end DdlAtlas
