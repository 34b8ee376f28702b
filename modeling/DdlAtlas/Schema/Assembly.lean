import DdlAtlas.Prose.Sentence
import DdlAtlas.Sql.PolicyBody
import DdlAtlas.Sql.Statement
import DdlAtlas.Sql.TableBody

/-! A schema put together from the statements of a text. Every table declaration becomes a table and
takes the policies on its name; a table is under row-level security when that is switched on or when
it has a policy. -/

namespace DdlAtlas

open Sql

def Policy.ofStatement (s : PolicyStatement) : Policy :=
  let clauses := policyClauses s.body
  ⟨s.name, clauses, Prose.sentence clauses⟩

def Sql.Statements.policiesOn (found : Statements) (table : Text) : List Policy :=
  (found.policies.filter (·.table == table)).map .ofStatement

def Table.ofStatement (found : Statements) (s : TableStatement) : Except DeclarationError Table :=
  (TableBody.read s.body s.name).map fun body =>
    let policies := found.policiesOn s.name
    { name := s.name
      schema := s.schema
      columns := body.columns
      primaryKeys := body.primaryKeys
      foreignKeys := body.foreignKeys
      rlsEnabled := found.switched.contains s.name || !policies.isEmpty
      policies }

def Sql.Statements.orphans (found : Statements) : List Text :=
  Text.sorted <| (Text.distinct (found.policies.map (·.table))).filter fun name =>
    !found.tables.any (·.name == name)

def Sql.Statements.orphanNotes (found : Statements) : List Note :=
  if found.orphans.isEmpty then [] else [.orphanPolicies found.orphans]

def Sql.Statements.notes (found : Statements) : List Note :=
  found.tables.flatMap (fun s => TableBody.notes s.body s.name) ++ found.orphanNotes

namespace Schema

def ofStatements (found : Statements) : Except DeclarationError Schema :=
  (found.tables.mapM (Table.ofStatement found)).map Schema.mk

def parse (t : Text) : Except DeclarationError Schema :=
  ofStatements (Statements.locate t).1

def notes (t : Text) : List Note :=
  (Statements.locate t).2 ++ (Statements.locate t).1.notes

def read (t : Text) : Except DeclarationError (Schema × List Note) :=
  let (found, located) := Statements.locate t
  (ofStatements found).map fun s => (s, located ++ found.notes)

theorem read_eq (t : Text) : read t = (parse t).map fun s => (s, notes t) :=
  rfl

end Schema

end DdlAtlas
