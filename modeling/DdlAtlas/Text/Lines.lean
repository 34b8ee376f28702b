import DdlAtlas.Text.Basic

/-! Lines of text. A line ends at a line feed, a carriage return, the two together, a vertical tab, a
form feed, one of three ASCII separators, or one of three line marks beyond ASCII. Lines can be cut
from a whole text, or from pieces of it as they arrive: `LineBuffer` holds back what may still
grow. -/

namespace DdlAtlas

namespace Text

def isLineEnd (c : Char) : Bool :=
  ('\n' ≤ c && c ≤ '\r') || ('\x1c' ≤ c && c ≤ '\x1e') || c == '\u0085' || c == '\u2028'
    || c == '\u2029'

/-- The lines of a text without their ends; a text that does not end in a line end has a last,
unfinished line. -/
def lines : Text → List Text
  | [] => []
  | c :: rest =>
    if c = '\r' ∧ rest.head? = some '\n' then lines rest
    else if isLineEnd c then [] :: lines rest
    else match lines rest with
      | [] => [[c]]
      | line :: more => (c :: line) :: more

def unifyReturns : Text → Text
  | [] => []
  | c :: rest =>
    if c = '\r' then
      if rest.head? = some '\n' then unifyReturns rest else '\n' :: unifyReturns rest
    else c :: unifyReturns rest

end Text

/-- What has arrived and is not yet cut into lines: an unfinished line, and a carriage return that may
be half of a line end. -/
structure LineBuffer where
  unfinished : Text
  heldReturn : Bool
deriving DecidableEq, Repr

namespace LineBuffer

def empty : LineBuffer :=
  ⟨[], false⟩

def cut (t : Text) : List Text × Text :=
  if t.getLast?.any Text.isLineEnd then (Text.lines t, [])
  else ((Text.lines t).dropLast, (Text.lines t).getLastD [])

def push (b : LineBuffer) (piece : Text) : List Text × LineBuffer :=
  let arrived := if b.heldReturn then '\r' :: piece else piece
  let held := arrived.getLast? == some '\r'
  let sure := if held then arrived.dropLast else arrived
  let (finished, unfinished) := cut (b.unfinished ++ sure)
  (finished, ⟨unfinished, held⟩)

def finish (b : LineBuffer) : List Text :=
  if b.unfinished.isEmpty && !b.heldReturn then [] else [b.unfinished]

def linesFrom : LineBuffer → List Text → List Text
  | b, [] => b.finish
  | b, piece :: rest =>
    let (finished, b) := b.push piece
    finished ++ linesFrom b rest

def linesOfPieces (pieces : List Text) : List Text :=
  linesFrom .empty pieces

end LineBuffer

end DdlAtlas
