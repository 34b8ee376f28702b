import DdlAtlas.Pattern.Search
import DdlAtlas.Schema.Basic
import DdlAtlas.Sql.Paren

/-! Column declarations. What stands behind the name of a column is a type followed by clauses in any
order. The type is the longest front that looks like one, cut at the first clause it runs into; the
flags are looked up as words of the text in capitals; the default value and the check constraint are
cut out behind their keywords. -/

namespace DdlAtlas.Sql

open Pattern

inductive DeclarationError
  | blankType
deriving DecidableEq, Repr

def DeclarationError.message : DeclarationError → Text
  | .blankType => "list index out of range"

def arrayBound : Pattern :=
  sequence [exactly "[", solid Text.isDigit, exactly "]"]

/-- A type: words and points, then an optional precision, array bounds and ARRAY; group 1 is all of
it. -/
def typeExpression : Pattern :=
  group 1 <| sequence [solid1 fun c => Text.isWord c || Text.isBlank c || c == '.',
    optional (sequence [exactly "(", solid (· != ')'), exactly ")"]),
    many arrayBound,
    optional (sequence [space, word "ARRAY", optional arrayBound])]

def clauseStart (keywords : List Text) : Pattern :=
  sequence ((keywords.flatMap fun k => [space, word k]) ++ [wordEdge])

def trailingClauses : List Pattern :=
  List.map clauseStart [["NOT", "NULL"], ["DEFAULT"], ["CHECK"], ["UNIQUE"], ["PRIMARY"],
    ["REFERENCES"], ["GENERATED"], ["COLLATE"], ["CONSTRAINT"], ["NULL"]]

/-- The type at the front of a declaration. Where the cuts leave nothing, it is the first word; a
declaration of blanks alone has none. -/
def columnType (declared : Text) : Except DeclarationError Text :=
  match typeExpression.match? declared with
  | none => .ok ((Text.words declared).headD [])
  | some m =>
    match Text.trim (trailingClauses.foldl (fun t p => p.textBefore t) (m.group 1)) with
    | [] =>
      match Text.words declared with
      | [] => .error .blankType
      | w :: _ => .ok w
    | t => .ok t

/-- The keyword before a default value. It does not count behind BY, where it belongs to a generated
identity. -/
def defaultKeyword : Pattern :=
  sequence [notBehind 3 (sequence [wordEdge, word "BY", one Text.isBlank]), wordEdge,
    word "DEFAULT", space]

/-- The text up to the first blank, comma or unmatched closing parenthesis outside literals and
parentheses. -/
def valueExtent : Option Char → Nat → Text → Text
  | _, _, [] => []
  | some q, depth, c :: rest => c :: valueExtent (if c = q then none else some q) depth rest
  | none, depth, c :: rest =>
    if isQuote c then c :: valueExtent (some c) depth rest
    else if c = '(' then c :: valueExtent none (depth + 1) rest
    else if c = ')' then (if depth = 0 then [] else c :: valueExtent none (depth - 1) rest)
    else if depth = 0 ∧ (c = ',' ∨ Text.isBlank c = true) then []
    else c :: valueExtent none depth rest

def nonempty? (t : Text) : Option Text :=
  if t = [] then none else some t

def defaultValue? (declared : Text) : Option Text :=
  (defaultKeyword.search? declared).bind fun m => nonempty? (valueExtent none 0 m.stop.rest)

def checkKeyword : Pattern :=
  sequence [wordEdge, word "CHECK", gap, exactly "("]

def checkConstraint? (declared : Text) : Option Text :=
  (checkKeyword.search? declared).bind fun m =>
    (closingDistance? .code 1 m.stop.rest).bind fun d =>
      nonempty? (Text.trim (m.stop.rest.take d))

def columnOf (name declared : Text) : Except DeclarationError Column :=
  let loud := Text.capitals declared
  (columnType declared).map fun type =>
    { name, type
      nullable := !Text.hasPart "NOT NULL" loud
      defaultValue := defaultValue? declared
      isPrimaryKey := Text.hasPart "PRIMARY KEY" loud
      isUnique := Text.hasPart "UNIQUE" loud && !Text.hasPart "NOT UNIQUE" loud
      checkConstraint := checkConstraint? declared }

end DdlAtlas.Sql
