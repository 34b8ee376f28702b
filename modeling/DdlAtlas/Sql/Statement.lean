import DdlAtlas.Note
import DdlAtlas.Pattern.Search
import DdlAtlas.Sql.Basic
import DdlAtlas.Sql.Paren

/-! The statements of a schema file. Three scans over the text without its comments find the tables
whose row-level security is switched on, the policies, and the table declarations. The scans know
shapes and balanced parentheses, no grammar, so that what surrounds a damaged statement is still
found. -/

namespace DdlAtlas.Sql

open Pattern

def rlsSwitch : Pattern :=
  sequence [word "ALTER", space, word "TABLE", space,
    optional (sequence [word "IF", space, word "EXISTS", space]),
    optional (sequence [word "ONLY", space]),
    group 1 (solid1 (!Text.isBlank ·)), space,
    word "ENABLE", space, word "ROW", space, word "LEVEL", space, word "SECURITY"]

def blankOrComment : Pattern :=
  choice (one Text.isBlank)
    [sequence [exactly "--", greedy (· != '\n')],
     sequence [exactly "/*", reluctant (fun _ => true), exactly "*/"]]

def policyEnd : Pattern :=
  alt (sequence [exactly ";", many blankOrComment, word "CREATE", wordEdge])
    (sequence [gap, optional (exactly ";"), gap, textEnd])

/-- A policy: group 1 or 2 is its name, group 3 its table and group 4 its body. -/
def policyHeader : Pattern :=
  sequence [word "CREATE", space, word "POLICY", space,
    alt (sequence [exactly "\"", group 1 (solid1 (· != '"')), exactly "\""])
      (group 2 (solid1 Text.isWord)),
    space, word "ON", space, optional (sequence [word "ONLY", space]),
    group 3 (solid1 (!Text.isBlank ·)), space,
    group 4 (shortest (fun _ => true) policyEnd.front), ahead policyEnd]

def tableHeader : Pattern :=
  sequence [word "CREATE", space,
    optional (sequence [alt (word "GLOBAL") (word "LOCAL"), space]),
    optional (sequence [choice (word "TEMP") [word "TEMPORARY", word "UNLOGGED"], space]),
    word "TABLE", space,
    optional (sequence [word "IF", space, word "NOT", space, word "EXISTS", space]),
    group 1 (solid1 fun c => !Text.isBlank c && c != '('), gap, exactly "("]

/-- Where a body whose parentheses do not balance is taken to end. -/
def tableEnd : Pattern :=
  sequence [exactly "\n", gap, exactly ");"]

structure PolicyStatement where
  name : Text
  table : Text
  body : Text
deriving DecidableEq, Repr

structure TableStatement where
  schema : Text
  name : Text
  body : Text
deriving DecidableEq, Repr

def switchedTables (bare : Text) : List Text :=
  Text.distinct <| ((rlsSwitch.occurrences bare).map fun m =>
    (QualifiedName.ofText (m.group 1)).name).filter (· ≠ [])

def policyStatements (bare : Text) : List PolicyStatement :=
  (policyHeader.occurrences bare).map fun m =>
    ⟨(m.group? 1).getD (m.group 2), (QualifiedName.ofText (m.group 3)).name, m.group 4⟩

inductive TableHead
  | closed (statement : TableStatement)
  | unterminated (offset : Nat)
deriving DecidableEq, Repr

/-- The body behind an opening parenthesis, and the position behind its end: the parenthesis that
balances the opening one or, where there is none, the first line that begins with a closing
parenthesis and a semicolon. -/
def bodyAt? (opened : Cursor) : Option (Text × Cursor) :=
  match closingDistance? .code 1 opened.rest with
  | some d => some (opened.rest.take d, opened.advance (d + 1))
  | none =>
    (tableEnd.searchFrom? opened.position opened.before opened.rest).map fun m =>
      (opened.textTo m.start, m.start.advance 1)

def TableStatement.ofHead (name body : Text) : TableStatement :=
  let q := QualifiedName.ofText name
  ⟨q.schema.getD "public", unquoted q.name, body⟩

def tableHeadAt? (c : Cursor) : Option (TableHead × Nat) :=
  (tableHeader.matchAt? c).map fun m =>
    match bodyAt? m.stop with
    | some (body, stop) => (.closed (.ofHead (m.group 1) body), stop.position - c.position)
    | none => (.unterminated m.offset, m.width)

def tableHeads (bare : Text) : List TableHead :=
  Cursor.harvest tableHeader.front tableHeadAt? 0 0 [] bare

def TableHead.statement? : TableHead → Option TableStatement
  | .closed s => some s
  | .unterminated _ => none

def TableHead.note? : TableHead → Option Note
  | .closed _ => none
  | .unterminated offset => some (.unterminatedTable offset)

structure Statements where
  switched : List Text
  policies : List PolicyStatement
  tables : List TableStatement
deriving DecidableEq, Repr

def Statements.locate (t : Text) : Statements × List Note :=
  let bare := withoutComments t
  let heads := tableHeads bare
  let found : Statements :=
    ⟨switchedTables bare, policyStatements bare, heads.filterMap TableHead.statement?⟩
  (found, heads.filterMap TableHead.note? ++
    [.located found.tables.length found.policies.length found.switched.length])

end DdlAtlas.Sql
