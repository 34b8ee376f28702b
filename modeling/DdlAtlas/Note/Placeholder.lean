import DdlAtlas.Text.Quoted

/-! Placeholders in a template, which begin with a percent sign: the name of a field in parentheses, flags, a
width, a precision and the letter of a conversion. A conversion turns what a field holds into a text, and the
flags and the width say how that is laid out. A conversion that does not fit the field has no text. -/

namespace DdlAtlas

inductive Field
  | text (t : Text)
  | number (n : Nat)
  | other (t : Text)
deriving DecidableEq, Repr

namespace Field

def shown : Field → Text
  | .text t | .other t => t
  | .number n => .ofNat n

def quoted : Field → Text
  | .text t => Text.quoted t
  | f => f.shown

def ascii (f : Field) : Text :=
  f.quoted.flatMap fun c => if c.val < 128 then [c] else Text.codeEscape c

end Field

structure Placeholder where
  field : Option Text
  flags : Text
  width : Nat
  precision : Option Nat
  conversion : Char
deriving DecidableEq, Repr

namespace Placeholder

def nameFrom : Nat → Text → Option (Text × Text)
  | _, [] => none
  | 0, ')' :: rest => some ([], rest)
  | depth, c :: rest =>
    let depth := if c = '(' then depth + 1 else if c = ')' then depth - 1 else depth
    (nameFrom depth rest).map fun (name, behind) => (c :: name, behind)

def nameAt : Text → Option (Option Text × Text)
  | '(' :: rest => (nameFrom 0 rest).map fun (name, behind) => (some name, behind)
  | t => some (none, t)

def isFlag (c : Char) : Bool :=
  c == '-' || c == '+' || c == ' ' || c == '#' || c == '0'

def extentLimit : Nat := 2147483647

/-- A width or a precision at the front of a text, zero if it is not written, and the text behind. An
asterisk has no number to stand for. -/
def extentAt (t : Text) : Option (Nat × Text) :=
  let (digits, rest) := t.span Char.isDigit
  let n := digits.foldl (fun n c => n * 10 + (c.toNat - '0'.toNat)) 0
  if n ≤ extentLimit then some (n, rest) else none

def precisionAt : Text → Option (Option Nat × Text)
  | '.' :: rest => (extentAt rest).map fun (n, behind) => (some n, behind)
  | t => some (none, t)

def behindSize : Text → Text
  | c :: rest => if c = 'h' ∨ c = 'l' ∨ c = 'L' then rest else c :: rest
  | [] => []

def read (t : Text) : Option (Placeholder × Text) := do
  let (field, t) ← nameAt t
  let (flags, t) := t.span isFlag
  let (width, t) ← extentAt t
  let (precision, t) ← precisionAt t
  match behindSize t with
  | conversion :: rest => return (⟨field, flags, width, precision, conversion⟩, rest)
  | [] => none

end Placeholder

namespace Placeholder

def has (p : Placeholder) (flag : Char) : Bool :=
  p.flags.contains flag

def words (p : Placeholder) (t : Text) : Text :=
  if p.has '-' then Text.padRight p.width t else Text.padLeft p.width ' ' t

/-- A number behind its sign and a mark in front of it. Zeros fill up the width between these and the
number, and blanks on the outside. -/
def number (p : Placeholder) (mark digits : Text) : Text :=
  let sign : Text := if p.has '+' then "+" else if p.has ' ' then " " else []
  let front := sign ++ mark
  if p.has '0' && !p.has '-' then front ++ Text.padLeft (p.width - front.length) '0' digits
  else p.words (front ++ digits)

end Placeholder

def Text.withoutZeroTail (t : Text) : Text :=
  match t.reverse.dropWhile (· == '0') with
  | '.' :: rest => rest.reverse
  | rest => rest.reverse

namespace Conversion

def fixedPoint (pointed : Bool) (precision : Nat) (n : Nat) : Text :=
  .concat [.ofNat n, .whenSet (pointed || precision != 0) ".", List.replicate precision '0']

/-- A number of digits from a number's front, rounded to the nearest, a half to the even one, and the power
of ten of the first of them. -/
def leading (count n : Nat) : Nat × Nat :=
  let width := (Text.ofNat n).length
  if width ≤ count then (n * Nat.pow 10 (count - width), width - 1)
  else
    let unit := Nat.pow 10 (width - count)
    let below := n / unit
    let twice := 2 * (n % unit)
    let nearest := if unit < twice ∨ (twice = unit ∧ below % 2 = 1) then below + 1 else below
    if nearest = Nat.pow 10 count then (nearest / 10, width) else (nearest, width - 1)

def pointedDigits (pointed : Bool) (count digits : Nat) : Text :=
  let t := Text.padLeft count '0' (.ofNat digits)
  .concat [t.take 1, .whenSet (pointed || count != 1) ".", t.drop 1]

def powerText (power : Nat) : Text :=
  "e+" ++ Text.padLeft 2 '0' (.ofNat power)

def scientific (pointed : Bool) (precision n : Nat) : Text :=
  let (digits, power) := leading (precision + 1) n
  pointedDigits pointed (precision + 1) digits ++ powerText power

/-- A number in so many digits at most: with a power of ten only where they do not reach its point. Zeros at
the end are left out unless they have to stay. -/
def general (pointed : Bool) (precision n : Nat) : Text :=
  let count := max 1 precision
  let (digits, power) := leading count n
  let shortened := fun t : Text =>
    if pointed || !t.contains '.' then t else Text.withoutZeroTail t
  if power < count then shortened (fixedPoint pointed (count - 1 - power) n)
  else shortened (pointedDigits pointed count digits) ++ powerText power

def based (base : Nat) (precision : Option Nat) (n : Nat) : Text :=
  Text.padLeft (precision.getD 0) '0' (Nat.toDigits base n)

def number? : Field → Option Nat
  | .number n => some n
  | _ => none

def char? : Field → Option Char
  | .text [c] => some c
  | .number n => if n.isValidChar then some (Char.ofNat n) else none
  | _ => none

end Conversion

namespace Placeholder

open Conversion

def text? (p : Placeholder) (f : Field) : Option Text :=
  let c := p.conversion
  let pointed := p.has '#'
  let words := fun t : Text => p.words (t.take (p.precision.getD t.length))
  let number := fun (mark : Text) (digits : Nat → Text) =>
    (number? f).map fun n => p.number mark (digits n)
  let marked := Text.whenSet pointed ['0', c]
  let places := p.precision.getD 6
  if c = 's' then some (words f.shown)
  else if c = 'r' then some (words f.quoted)
  else if c = 'a' then some (words f.ascii)
  else if c = 'c' then (char? f).map fun x => p.words [x]
  else if c = 'd' ∨ c = 'i' ∨ c = 'u' then number [] (based 10 p.precision)
  else if c = 'o' then number marked (based 8 p.precision)
  else if c = 'x' then number marked (based 16 p.precision)
  else if c = 'X' then number marked fun n => (based 16 p.precision n).map Char.toUpper
  else if c = 'f' ∨ c = 'F' then number [] (fixedPoint pointed places)
  else if c = 'e' then number [] (scientific pointed places)
  else if c = 'E' then number [] fun n => (scientific pointed places n).map Char.toUpper
  else if c = 'g' then number [] (general pointed places)
  else if c = 'G' then number [] fun n => (general pointed places n).map Char.toUpper
  else none

end Placeholder

end DdlAtlas
