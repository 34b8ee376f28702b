import DdlAtlas.Pattern.Search
import DdlAtlas.Schema.Basic
import DdlAtlas.Sql.Basic
import DdlAtlas.Sql.Paren

/-! The body of a policy. Its statement ends at the first semicolon outside literals and parentheses.
Command, role and kind are read in the head, the text before the first predicate; the predicates are
what the parentheses of the clauses USING and WITH CHECK enclose. -/

namespace DdlAtlas.Sql

open Pattern

def commandClause : Pattern :=
  sequence [wordEdge, word "FOR", space,
    group 1 (choice (word "ALL") [word "SELECT", word "INSERT", word "UPDATE", word "DELETE"]),
    wordEdge]

def roleClause : Pattern :=
  sequence [wordEdge, word "TO", space, optional (one fun c => c == '"' || c == '\x60'),
    group 1 (solid1 Text.isWord)]

def restrictiveClause : Pattern :=
  sequence [wordEdge, word "AS", space, word "RESTRICTIVE", wordEdge]

def usingStart : Pattern :=
  sequence [wordEdge, word "USING", gap, exactly "("]

def withCheckStart : Pattern :=
  sequence [wordEdge, word "WITH", space, word "CHECK", gap, exactly "("]

def upToClosing (label : Nat) : Pattern :=
  let closing := exactly ")"
  seq (group label (longest (fun _ => true) closing.front)) closing

/-- A USING clause up to the last parenthesis before WITH CHECK or the end; group 1 is what stands
between the parentheses. -/
def usingClause : Pattern :=
  sequence [usingStart, upToClosing 1,
    alt (sequence [gap, word "WITH", space, word "CHECK"]) (sequence [gap, textEnd])]

def withCheckClause : Pattern :=
  sequence [withCheckStart, upToClosing 1, gap, textEnd]

def statementExtent : Nesting → Text → Text
  | _, [] => []
  | s, c :: rest =>
    if s.quote = none ∧ c = ';' ∧ s.depth ≤ 0 then [] else c :: statementExtent (s.step c) rest

def firstStatement (body : Text) : Text :=
  Text.trimEnd (statementExtent .outside body)

def clauseHead (statement : Text) : Text :=
  (alt usingStart withCheckStart).textBefore statement

def usingPredicate? (statement : Text) : Option Text :=
  (usingClause.search? statement).map fun m =>
    let candidate := m.group 1
    -- the pattern takes the last parenthesis that fits, which need not be the one that closes the clause
    match closingDistance? .code 1 (candidate ++ [')']) with
    | none => Text.trim candidate
    | some d => Text.trim (candidate.take d)

def withCheckPredicate? (statement : Text) : Option Text :=
  (withCheckClause.search? statement).map fun m => Text.trim (m.group 1)

def commandOf (head : Text) : Text :=
  match commandClause.search? head with
  | some m => Text.capitals (m.group 1)
  | none => "ALL"

def rolesOf (head : Text) : List Text :=
  match roleClause.search? head with
  | some m => [unquoted (m.group 1)]
  | none => ["public"]

def policyClauses (body : Text) : PolicyClauses :=
  let statement := firstStatement (withoutComments body)
  let head := clauseHead statement
  { command := commandOf head
    roles := rolesOf head
    using? := usingPredicate? statement
    withCheck? := withCheckPredicate? statement
    permissive := !restrictiveClause.occursIn head }

end DdlAtlas.Sql
