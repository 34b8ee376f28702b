import DdlAtlas.Yaml.Fault

/-! Places in the text of a settings file, and the characters that matter there. Lines end at a line feed, at
a next-line mark, which counts as a line feed, and at the two separators of lines and paragraphs. -/

namespace DdlAtlas.Yaml

def isBreak (c : Char) : Bool :=
  c == '\n' || c == '\u0085' || c == '\u2028' || c == '\u2029'

def isSpace (c : Char) : Bool :=
  c == ' ' || c == '\t'

def isGap (c : Char) : Bool :=
  isSpace c || isBreak c

def isAllowed (c : Char) : Bool :=
  isGap c || (' ' ≤ c && c ≤ '~') || ('\u00a0' ≤ c && c.toNat != 0xfffe && c.toNat != 0xffff)

/-- A place in a text: how many characters and lines stand before it, its column, and the rest of the
text. -/
structure Place where
  index : Nat
  line : Nat
  column : Nat
  rest : Text

namespace Place

def start (t : Text) : Place :=
  ⟨0, 0, 0, t⟩

def orderMark : Char := '\ufeff'

def next (p : Place) : Place :=
  match p.rest with
  | [] => p
  | c :: rest =>
    if isBreak c then ⟨p.index + 1, p.line + 1, 0, rest⟩
    else ⟨p.index + 1, p.line, if c = orderMark then p.column else p.column + 1, rest⟩

def forward : Nat → Place → Place
  | 0, p => p
  | n + 1, p => p.next.forward n

def span (keep : Char → Bool) (p : Place) : Text × Place :=
  let t := p.rest.takeWhile keep
  (t, p.forward t.length)

def skip (keep : Char → Bool) (p : Place) : Place :=
  (p.span keep).2

def head? (p : Place) : Option Char :=
  p.rest.head?

def atEnd (p : Place) : Bool :=
  p.rest.isEmpty

def atGap (p : Place) : Bool :=
  p.head?.all isGap

def atLineEnd (p : Place) : Bool :=
  p.head?.all isBreak

def break? (p : Place) : Option (Char × Place) :=
  match p.rest with
  | c :: _ => if isBreak c then some (if c = '\u0085' then '\n' else c, p.next) else none
  | [] => none

def pastBreak (p : Place) : Place :=
  match p.break? with
  | some (_, q) => q
  | none => p

def atTriple (mark : Text) (p : Place) : Bool :=
  (Text.behind? mark p.rest).any fun rest => rest.head?.all isGap

def atSeparator (p : Place) : Bool :=
  p.atTriple "---" || p.atTriple "..."

def skipComment (p : Place) : Place :=
  if p.head? = some '#' then p.skip (!isBreak ·) else p

def pastLine (part : Lexeme) (p : Place) : Except Fault Place :=
  let q := (p.skip (· == ' ')).skipComment
  if q.atLineEnd then .ok q.pastBreak else .error (.malformed (.scanning part))

end Place

end DdlAtlas.Yaml
