import DdlAtlas.Text.Blank
import DdlAtlas.Text.Word

/-! Whole numbers as words: digits of any script with single underscores between them, a sign in front,
and blanks around. In base two, eight and sixteen a zero and the letter of the base may stand in front of the
digits, and in base ten there may be no more than 4300 of them. -/

namespace DdlAtlas.Text

/-- A blank that may stand around a number: not one of the four ASCII separators. -/
def isMargin (c : Char) : Bool :=
  isBlank c && !('\x1c' ≤ c && c ≤ '\x1f')

def withoutMargins (t : Text) : Text :=
  ((t.dropWhile isMargin).reverse.dropWhile isMargin).reverse

def plainDigit (c : Char) : Char :=
  if isDigit c then Char.ofNat ('0'.toNat + digitValue c) else c

def plainWord (t : Text) : Text :=
  (withoutMargins t).map plainDigit

def splitSign : Text → Bool × Text
  | '-' :: rest => (true, rest)
  | '+' :: rest => (false, rest)
  | rest => (false, rest)

def digitIn? (base : Nat) (c : Char) : Option Nat :=
  let value := if c.isDigit then c.toNat - '0'.toNat
    else if c.isAlpha then c.toLower.toNat - 'a'.toNat + 10
    else base
  if value < base then some value else none

def digitsOf (base : Nat) : Text → Option (List Nat)
  | [] => none
  | [c] => (digitIn? base c).map ([·])
  | c :: '_' :: rest => (digitIn? base c).bind fun d => (digitsOf base rest).map (d :: ·)
  | c :: rest => (digitIn? base c).bind fun d => (digitsOf base rest).map (d :: ·)

def baseLetter? (base : Nat) : Option Char :=
  if base = 2 then some 'b' else if base = 8 then some 'o' else if base = 16 then some 'x' else none

def behindBase (base : Nat) (t : Text) : Text :=
  match t with
  | '0' :: c :: rest =>
    if baseLetter? base = some c.toLower then (Text.behind? "_" rest).getD rest else t
  | _ => t

def mostDigits : Nat := 4300

def natOfWord? (base : Nat) (t : Text) : Option Nat :=
  ((digitsOf base (behindBase base t)).filter fun ds => base != 10 || ds.length ≤ mostDigits).map
    fun ds => ds.foldl (fun n d => n * base + d) 0

def intOfWord? (base : Nat) (t : Text) : Option Int :=
  let (negative, body) := splitSign (plainWord t)
  (natOfWord? base body).map fun n => if negative then -(n : Int) else n

def digitCount (t : Text) : Nat :=
  ((splitSign (plainWord t)).2.takeWhile Char.isDigit).length

end DdlAtlas.Text
