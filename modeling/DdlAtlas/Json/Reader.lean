import DdlAtlas.Decimal
import DdlAtlas.Json.Basic

/-! Reading data values from text. Four blanks may stand around values; the names NaN and Infinity are
numbers; of two fields with one key the later value counts. A whole number of more than 4300 digits is
refused for its length as soon as it is met, and so is a value nested deeper than the stack allows. Any other
fault has a place, which is told by how much of the text is left there. -/

namespace DdlAtlas.Json

inductive ReadError
  | malformed (left : Nat)
  | tooManyDigits (count : Nat)
  | tooDeep (isArray : Bool)
deriving DecidableEq, Repr

def digitLimit : Nat := 4300

/-- How many arrays and objects can be open at once. It depends on how much of the stack is in use when the
reading begins. -/
class Depth where
  levels : Nat
  least : 3 ≤ levels

instance (priority := low) : Depth :=
  ⟨990, by decide⟩

/-- A text as it is sent, in which a stand-in may stand for half of a surrogate pair: each half is listed
with the number of characters behind it. -/
structure Sent where
  text : Text
  halves : List (Nat × Nat)
deriving DecidableEq, Repr

def Sent.ofPoints : List Nat → Sent
  | [] => ⟨[], []⟩
  | point :: rest =>
    let s := Sent.ofPoints rest
    ⟨charOf point :: s.text, if isHalf point then (s.text.length, point) :: s.halves else s.halves⟩

def faultAt {α : Type} (rest : Text) : Except ReadError α :=
  .error (.malformed rest.length)

def isGap (c : Char) : Bool :=
  c == ' ' || c == '\t' || c == '\n' || c == '\r'

def skipGap (t : Text) : Text :=
  t.dropWhile isGap

def hexDigit? (c : Char) : Option Nat :=
  if '0' ≤ c ∧ c ≤ '9' then some (c.toNat - '0'.toNat)
  else if 'a' ≤ c ∧ c ≤ 'f' then some (c.toNat - 'a'.toNat + 10)
  else if 'A' ≤ c ∧ c ≤ 'F' then some (c.toNat - 'A'.toNat + 10)
  else none

def hexUnit? : Text → Option (Nat × Text)
  | a :: b :: c :: d :: rest =>
    match hexDigit? a, hexDigit? b, hexDigit? c, hexDigit? d with
    | some a, some b, some c, some d => some (((a * 16 + b) * 16 + c) * 16 + d, rest)
    | _, _, _, _ => none
  | _ => none

def shortEscape? : Char → Option Char
  | '"' => some '"'
  | '\\' => some '\\'
  | '/' => some '/'
  | 'b' => some '\x08'
  | 'f' => some '\x0c'
  | 'n' => some '\n'
  | 'r' => some '\r'
  | 't' => some '\t'
  | _ => none

/-- A text between quotes, with its code points when it is torn: when it holds half of a surrogate pair. -/
structure Quoted where
  text : Text
  points? : Option (List Nat)
deriving DecidableEq, Repr

namespace Quoted

def empty : Quoted :=
  ⟨[], none⟩

def cons (c : Char) (q : Quoted) : Quoted :=
  ⟨c :: q.text, q.points?.map (c.toNat :: ·)⟩

def tear (half : Nat) (q : Quoted) : Quoted :=
  ⟨standIn :: q.text, some (half :: q.points?.getD (q.text.map Char.toNat))⟩

def torn (q : Quoted) : Bool :=
  q.points?.isSome

def consSent (halves : List (Nat × Nat)) (c : Char) (behind : Text) (q : Quoted) : Quoted :=
  match if c = standIn then halves.lookup behind.length else none with
  | some half => q.tear half
  | none => q.cons c

def toJson (q : Quoted) : Json :=
  match q.points? with
  | some points => .torn points
  | none => .str q.text

end Quoted

inductive Escaped
  | char (c : Char)
  | half (unit : Nat)
deriving DecidableEq, Repr

def Quoted.consEscaped (e : Escaped) (q : Quoted) : Quoted :=
  match e with
  | .char c => q.cons c
  | .half unit => q.tear unit

/-- What an escaped code unit stands for, which has to be followed by more text. The two halves of a
surrogate pair, of which the second one has to be followed by more text too, stand for one character. -/
def escapedUnit? (t : Text) : Option (Escaped × Text) :=
  match hexUnit? t with
  | none | some (_, []) => none
  | some (unit, rest) =>
    -- a first half stands alone unless the second one is written right behind it
    if 0xd800 ≤ unit ∧ unit < 0xdc00 then
      match rest with
      | '\\' :: 'u' :: low =>
        match hexUnit? low with
        | some (second, rest') =>
          if 0xdc00 ≤ second ∧ second < 0xe000 ∧ rest' ≠ [] then
            some (.char (Char.ofNat (0x10000 + (unit - 0xd800) * 0x400 + (second - 0xdc00))), rest')
          else some (.half unit, rest)
        | none => some (.half unit, rest)
      | _ => some (.half unit, rest)
    else if 0xdc00 ≤ unit ∧ unit < 0xe000 then some (.half unit, rest)
    else some (.char (Char.ofNat unit), rest)

section

variable (halves : List (Nat × Nat))

/-- The characters of a text up to its closing quote. A text without an end is at fault at its opening
quote, in front of `opening`; a text as long as what is left bounds the number of characters. -/
def stringRest (opening : Text) : Text → Text → Except ReadError (Quoted × Text)
  | [], _ | _, [] => .error (.malformed (opening.length + 1))
  | _ :: bound, c :: rest =>
    if c = '"' then .ok (.empty, rest)
    else if c.val < 32 then faultAt (c :: rest)
    else if c = '\\' then
      match rest with
      | 'u' :: digits =>
        match escapedUnit? digits with
        | some (x, rest') =>
          (stringRest opening bound rest').map fun (q, r) => (q.consEscaped x, r)
        | none => faultAt rest
      | e :: rest' =>
        match shortEscape? e with
        | some x => (stringRest opening bound rest').map fun (q, r) => (q.cons x, r)
        | none => faultAt (c :: rest)
      | [] => .error (.malformed (opening.length + 1))
    else (stringRest opening bound rest).map fun (q, r) => (q.consSent halves c rest, r)

def quotedRest (rest : Text) : Except ReadError (Quoted × Text) :=
  stringRest halves rest rest rest

end

def wholePart? (t : Text) : Option (Text × Text) :=
  match t with
  | '0' :: rest => some (['0'], rest)
  | c :: _ => if c.isDigit then some (t.span (·.isDigit)) else none
  | [] => none

def fraction (t : Text) : Option Text × Text :=
  match t with
  | '.' :: rest =>
    let (digits, rest') := rest.span (·.isDigit)
    if digits.isEmpty then (none, t) else (some digits, rest')
  | _ => (none, t)

def unsignedNumber (negative : Bool) (whole t : Text) : Except ReadError (Json × Text) :=
  match wholePart? t with
  | none => faultAt whole
  | some (digits, rest) =>
    let (frac?, rest) := fraction rest
    let (power?, rest) := Decimal.power rest
    if frac?.isNone ∧ power?.isNone then
      if digits.length > digitLimit then .error (.tooManyDigits digits.length)
      else
        let n : Int := Decimal.natOfDigits digits
        .ok (.int (if negative then -n else n), rest)
    else
      let frac := frac?.getD []
      let x := Decimal.toFloat ⟨Decimal.natOfDigits (digits ++ frac), power?.getD 0 - frac.length⟩
      .ok (.float (if negative then -x else x), rest)

def namedValues : List (Text × Json) :=
  [("null", .null), ("true", .bool true), ("false", .bool false), ("NaN", .float (0.0 / 0.0)),
    ("Infinity", .float (1.0 / 0.0)), ("-Infinity", .float (-1.0 / 0.0))]

def scalar (t : Text) : Except ReadError (Json × Text) :=
  match namedValues.findSome? fun (name, v) => (Text.behind? name t).map (v, ·) with
  | some found => .ok found
  | none =>
    match t with
    | '-' :: rest => unsignedNumber true t rest
    | _ => unsignedNumber false t t

def withField (key : Quoted) (v : Json) (before : List (Text × Json)) : List (Text × Json) :=
  match key.points? with
  | some points => setField key.text (.underTorn points v) before
  | none => setField key.text v before

section

variable (halves : List (Nat × Nat))

mutual

/-- A value at the front of a text. The first count bounds the number of values and fields, the second one
the arrays and objects that may still be opened. -/
def value : Nat → Nat → Text → Except ReadError (Json × Text)
  | 0, _, t => faultAt t
  | n + 1, depth, t =>
    match t, depth with
    | '"' :: rest, _ => (quotedRest halves rest).map fun (q, r) => (q.toJson, r)
    | '[' :: _, 0 => .error (.tooDeep true)
    | '[' :: rest, depth + 1 =>
      match skipGap rest with
      | ']' :: rest' => .ok (.arr [], rest')
      | rest' => items n depth [] rest'
    | '\x7b' :: _, 0 => .error (.tooDeep false)
    | '\x7b' :: rest, depth + 1 =>
      match skipGap rest with
      | '\x7d' :: rest' => .ok (.obj [], rest')
      | rest' => fields n depth [] rest'
    | _, _ => scalar t

def items : Nat → Nat → List Json → Text → Except ReadError (Json × Text)
  | 0, _, _, t => faultAt t
  | n + 1, depth, before, t =>
    match value n depth t with
    | .error e => .error e
    | .ok (v, rest) =>
      match skipGap rest with
      | ',' :: rest' => items n depth (v :: before) (skipGap rest')
      | ']' :: rest' => .ok (.arr (v :: before).reverse, rest')
      | rest' => faultAt rest'

def fields : Nat → Nat → List (Text × Json) → Text → Except ReadError (Json × Text)
  | 0, _, _, t => faultAt t
  | n + 1, depth, before, t =>
    match t with
    | '"' :: rest =>
      match quotedRest halves rest with
      | .error e => .error e
      | .ok (key, rest) =>
        match skipGap rest with
        | ':' :: rest' =>
          match value n depth (skipGap rest') with
          | .error e => .error e
          | .ok (v, rest) =>
            match skipGap rest with
            | ',' :: rest' => fields n depth (withField key v before) (skipGap rest')
            | '\x7d' :: rest' => .ok (.obj (withField key v before), rest')
            | rest' => faultAt rest'
        | rest' => faultAt rest'
    | _ => faultAt t

end

end

def readSent [Depth] (s : Sent) : Except ReadError Json :=
  match value s.halves (2 * s.text.length + 2) Depth.levels (skipGap s.text) with
  | .error e => .error e
  | .ok (v, rest) => if (skipGap rest).isEmpty then .ok v else faultAt (skipGap rest)

def read [Depth] (t : Text) : Except ReadError Json :=
  readSent ⟨t, []⟩

end DdlAtlas.Json
