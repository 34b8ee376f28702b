import DdlAtlas.Note
import DdlAtlas.Sql.Basic
import DdlAtlas.Sql.Declaration

/-! The body of a table declaration. It is cut at its top-level commas into lines, each line is
recognised by the first of four shapes that fits, and the lines are added up to columns, primary keys
and foreign keys. A line of no known shape is passed over with a note. -/

namespace DdlAtlas.Sql

open Pattern

inductive Line
  | primaryKey (columns : List Text)
  | foreignKey (constraint : Option Text) (column table referenced : Text)
  | otherConstraint
  | reserved
  | column (name declared : Text)
  | unrecognized
deriving DecidableEq, Repr

def constraintName : Pattern :=
  optional (sequence [word "CONSTRAINT", space, group 1 (solid1 (!Text.isBlank ·)), space])

def enclosed (label : Nat) : Pattern :=
  sequence [exactly "(", group label (solid1 (· != ')')), exactly ")"]

def primaryKeyLine : Pattern :=
  sequence [constraintName, word "PRIMARY", space, word "KEY", gap, enclosed 2]

/-- A foreign key of the table: group 2 is the column, group 3 the table and group 4 the column
referred to. -/
def foreignKeyLine : Pattern :=
  sequence [constraintName, word "FOREIGN", space, word "KEY", gap, enclosed 2, gap,
    word "REFERENCES", space, group 3 (solid1 fun c => !Text.isBlank c && c != '('), gap, enclosed 4]

def otherConstraintLine : Pattern :=
  sequence [word "CONSTRAINT", space]

def columnEnd : Pattern :=
  sequence [optional (sequence [exactly ",", gap]), lineEnd]

/-- A column: group 1 is its name between quotes, group 2 its bare name, group 3 the rest up to a
comma at the end. -/
def columnLine : Pattern :=
  sequence [
    alt (sequence [exactly "\"", group 1 (solid1 (· != '"')), exactly "\""])
      (group 2 (solid1 Text.isWord)),
    run1 Text.isBlank,
    group 3 (seq (one fun _ => true) (shortest (fun _ => true) columnEnd.front)), columnEnd]

def reservedWords : List Text :=
  ["CONSTRAINT", "PRIMARY", "FOREIGN", "UNIQUE", "CHECK", "INDEX", "EXCLUDE", "LIKE"]

def Line.ofColumnMatch (m : Match) : Line :=
  match m.group? 1 with
  | some quoted => .column quoted (m.group 3)
  | none =>
    if reservedWords.contains (Text.capitals (m.group 2)) then .reserved
    else .column (m.group 2) (m.group 3)

def Line.read (line : Text) : Line :=
  -- the keys come first, as their lines would fit the shapes below as well
  match primaryKeyLine.match? line with
  | some m => .primaryKey ((Text.cells ',' (m.group 2)).map unquoted)
  | none =>
  match foreignKeyLine.match? line with
  | some m =>
    .foreignKey ((m.group? 1).map unquoted) (unquoted (m.group 2))
      (QualifiedName.ofText (m.group 3)).name (unquoted (m.group 4))
  | none =>
  match otherConstraintLine.match? line with
  | some _ => .otherConstraint
  | none =>
  match columnLine.match? line with
  | some m => .ofColumnMatch m
  | none => .unrecognized

structure TableBody where
  columns : List Column
  primaryKeys : List Text
  foreignKeys : List ForeignKey
deriving DecidableEq, Repr

namespace TableBody

def empty : TableBody :=
  ⟨[], [], []⟩

/-- The body with one more primary key; an empty name or one already listed is left out. -/
def addPrimaryKey (b : TableBody) (name : Text) : TableBody :=
  if name ≠ [] ∧ !b.primaryKeys.contains name then { b with primaryKeys := b.primaryKeys ++ [name] }
  else b

def addColumn (b : TableBody) (c : Column) : TableBody :=
  let b := if c.isPrimaryKey then b.addPrimaryKey c.name else b
  { b with columns := b.columns ++ [c] }

def defaultKeyName (table column : Text) : Text :=
  .concat [table, "_", column, "_fkey"]

def add (table : Text) (b : TableBody) : Line → Except DeclarationError TableBody
  | .primaryKey columns => .ok (columns.foldl addPrimaryKey b)
  | .foreignKey constraint column referenced key =>
    .ok { b with foreignKeys := b.foreignKeys ++
      [⟨column, referenced, key, constraint.getD (defaultKeyName table column)⟩] }
  | .column name declared => (columnOf name declared).map b.addColumn
  | .otherConstraint | .reserved | .unrecognized => .ok b

def flagKeys (b : TableBody) : TableBody :=
  { b with columns := b.columns.map fun c =>
      if b.primaryKeys.contains c.name then { c with isPrimaryKey := true } else c }

end TableBody

/-- The lines of a table body: what stands between its top-level commas, without comments, with single
spaces between words. -/
def logicalLines (body : Text) : List Text :=
  ((splitTopLevel "," (withoutComments body)).map Text.collapse).filter (· ≠ [])

def lineNote? (table line : Text) : Option Note :=
  match Line.read line with
  | .reserved => some (.skippedConstraint table line)
  | .unrecognized => some (.unrecognizedLine table line)
  | _ => none

def TableBody.read (body table : Text) : Except DeclarationError TableBody :=
  (((logicalLines body).map Line.read).foldlM (TableBody.add table) .empty).map flagKeys

def TableBody.notes (body table : Text) : List Note :=
  (logicalLines body).filterMap (lineNote? table)

end DdlAtlas.Sql
