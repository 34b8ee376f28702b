import DdlAtlas.Text.Basic

/-! How deep in parentheses a scan stands, and whether inside a quoted literal. A single or a double
quote opens a literal and the next equal quote ends it; parentheses inside literals do not count,
and the depth may fall below zero. Text is cut at the delimiters that a scan meets at depth zero
outside literals. -/

namespace DdlAtlas.Sql

def isQuote (c : Char) : Bool :=
  c == '\'' || c == '"'

/-- The quote of the literal that a scan stands in, if any, and the parentheses open around it. -/
structure Nesting where
  quote : Option Char
  depth : Int
deriving DecidableEq, Repr

namespace Nesting

def outside : Nesting :=
  ⟨none, 0⟩

def step (s : Nesting) (c : Char) : Nesting :=
  match s.quote with
  | some q => if c = q then { s with quote := none } else s
  | none =>
    if isQuote c then { s with quote := some c }
    else if c = '(' then { s with depth := s.depth + 1 }
    else if c = ')' then { s with depth := s.depth - 1 }
    else s

def isPlain (c : Char) : Bool :=
  !isQuote c && c != '(' && c != ')'

/-- Whether the character, met in this nesting, is a delimiter to cut at. A delimiter that is not a
single character is never met. -/
def cutsAt (s : Nesting) (delimiter : Text) (c : Char) : Bool :=
  s.quote.isNone && s.depth == 0 && isPlain c && delimiter == [c]

def pieces (delimiter : Text) : Nesting → Text → List Text
  | _, [] => [[]]
  | s, c :: rest =>
    if s.cutsAt delimiter c then [] :: pieces delimiter s rest
    else (pieces delimiter (s.step c) rest).modifyHead (c :: ·)

end Nesting

def dropEmptyLast (parts : List Text) : List Text :=
  if parts.getLast? = some [] then parts.dropLast else parts

/-- The text cut at its top-level delimiters. Empty parts stay, except at the end. -/
def splitTopLevel (delimiter : Text) (t : Text) : List Text :=
  dropEmptyLast (Nesting.pieces delimiter .outside t)

end DdlAtlas.Sql
