import DdlAtlas.Sql.Nesting

/-! The parenthesis that closes a given one. Literals and comments are passed over: a doubled quote
inside a literal stands for the quote, a double hyphen opens a comment up to the end of its line,
and a block comment runs to its closing mark. -/

namespace DdlAtlas.Sql

/-- What a lexer stands in. Two-character marks take two steps: `escaped` is the second quote of a
doubled one, `blockOpen` and `blockClose` are the second characters of the marks of a block
comment. -/
inductive Mode
  | code
  | literal (quote : Char)
  | escaped (quote : Char)
  | lineComment
  | blockOpen
  | blockComment
  | blockClose
deriving DecidableEq, Repr

def Mode.step (m : Mode) (c : Char) (next : Option Char) : Mode :=
  match m with
  | .code =>
    if isQuote c then .literal c
    -- a mark of two characters takes effect at the first, so that the second is not taken for half of another
    else if c = '-' ∧ next = some '-' then .lineComment
    else if c = '/' ∧ next = some '*' then .blockOpen
    else .code
  | .literal q => if c = q then (if next = some q then .escaped q else .code) else .literal q
  | .escaped q => .literal q
  | .lineComment => if c = '\n' then .code else .lineComment
  | .blockOpen => .blockComment
  | .blockComment => if c = '*' ∧ next = some '/' then .blockClose else .blockComment
  | .blockClose => .code

def Mode.depthAfter (m : Mode) (depth : Nat) (c : Char) : Nat :=
  if m = .code ∧ c = '(' then depth + 1
  else if m = .code ∧ c = ')' then depth - 1
  else depth

def closingDistance? (m : Mode) (depth : Nat) : Text → Option Nat
  | [] => none
  | c :: rest =>
    if m = .code ∧ c = ')' ∧ depth = 1 then some 0
    else (closingDistance? (m.step c rest.head?) (m.depthAfter depth c) rest).map (· + 1)

def closingParen? (t : Text) (start : Nat) : Option Nat :=
  match t.drop start with
  | [] => none
  | c :: rest =>
    if c = '(' then (closingDistance? .code 1 rest).map (start + 1 + ·) else none

end DdlAtlas.Sql
