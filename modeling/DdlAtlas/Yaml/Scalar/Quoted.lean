import DdlAtlas.Json.Reader
import DdlAtlas.Yaml.Scalar.Plain

/-! The texts of scalars between quotes. Lines are joined as in scalars without quotes. Between single quotes
a quote is written twice; between double quotes a backslash begins an escape. -/

namespace DdlAtlas.Yaml.Quoted

open Json (Quoted hexDigit?)

def shortEscape? : Char → Option Char
  | '0' => some '\x00'
  | 'a' => some '\x07'
  | 'b' => some '\x08'
  | 't' | '\t' => some '\t'
  | 'n' => some '\n'
  | 'v' => some '\x0b'
  | 'f' => some '\x0c'
  | 'r' => some '\r'
  | 'e' => some '\x1b'
  | ' ' => some ' '
  | '"' => some '"'
  | '\\' => some '\\'
  | '/' => some '/'
  | 'N' => some '\u0085'
  | '_' => some '\u00a0'
  | 'L' => some '\u2028'
  | 'P' => some '\u2029'
  | _ => none

def hexWidth? : Char → Option Nat
  | 'x' => some 2
  | 'u' => some 4
  | 'U' => some 8
  | _ => none

def hexNumber? : Nat → Nat → Text → Option Nat
  | 0, n, _ => some n
  | width + 1, n, c :: rest => (hexDigit? c).bind fun d => hexNumber? width (n * 16 + d) rest
  | _ + 1, _, [] => none

def moreBreaks : Text → Place → Except Fault (Text × Place)
  | [], p => .ok ([], p)
  | _ :: bound, p =>
    if p.atSeparator then .error (.malformed (.scanning .quoted))
    else
      let q := p.skip isSpace
      match q.break? with
      | some (c, r) => (moreBreaks bound r).map fun (cs, r) => (c :: cs, r)
      | none => .ok ([], q)

inductive Piece
  | text (t : Text)
  | half (point : Nat)

def Piece.before (piece : Piece) (q : Quoted) : Quoted :=
  match piece with
  | .text t => t.foldr Quoted.cons q
  | .half point => q.tear point

def Piece.ofPoint (n : Nat) : Except Fault Piece :=
  if 0x7fffffff < n then .error .escapeTooLarge
  else if 0x10ffff < n then .error .escapeOutOfRange
  else if 0xd800 ≤ n ∧ n < 0xe000 then .ok (.half n)
  else .ok (.text [Char.ofNat n])

def escape (p : Place) : Except Fault (Piece × Place) :=
  match p.rest with
  | [] => .error (.malformed (.scanning .doubleQuoted))
  | c :: rest =>
    match shortEscape? c, hexWidth? c with
    | some x, _ => .ok (.text [x], p.next)
    | none, some width =>
      match hexNumber? width 0 rest with
      | none => .error (.malformed (.scanning .doubleQuoted))
      | some n => (Piece.ofPoint n).map (·, p.forward (width + 1))
    | none, none =>
      if isBreak c then
        (moreBreaks p.rest p.next).map fun (breaks, q) => (.text breaks, q)
      else .error (.malformed (.scanning .doubleQuoted))

def gap (p : Place) : Except Fault (Piece × Place) :=
  let (spaces, q) := p.span isSpace
  match q.break? with
  | none => .ok (.text spaces, q)
  | some (first, q) =>
    (moreBreaks q.rest q).map fun (others, r) => (.text (Plain.folded first others), r)

/-- The text up to the closing quote, and the place behind it; a text as long as the rest bounds the
number of pieces. -/
def upTo (quote : Char) : Text → Place → Except Fault (Quoted × Place)
  | [], _ => .error (.malformed (.scanning .quoted))
  | _ :: bound, p =>
    match p.rest with
    | [] => .error (.malformed (.scanning .quoted))
    | c :: rest =>
      if c = quote then
        if c = '\'' ∧ rest.head? = some '\'' then
          (upTo quote bound (p.forward 2)).map fun (q, r) => (q.cons c, r)
        else .ok (.empty, p.next)
      else
        let piece := if isGap c then gap p
          else if c = '\\' ∧ quote = '"' then escape p.next
          else .ok (.text [c], p.next)
        match piece with
        | .error e => .error e
        | .ok (piece, q) => (upTo quote bound q).map fun (t, r) => (piece.before t, r)

def read (quote : Char) (p : Place) : Except Fault (Quoted × Place) :=
  upTo quote p.rest p.next

end DdlAtlas.Yaml.Quoted
