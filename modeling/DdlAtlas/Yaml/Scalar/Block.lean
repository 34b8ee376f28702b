import DdlAtlas.Yaml.Place

/-! The texts of scalars in blocks of lines behind a bar or an angle. Behind an angle a line feed between two
lines that begin with a word is a space. Signs behind the mark say what becomes of the last line feeds, and
a digit how far the lines are indented. -/

namespace DdlAtlas.Yaml.Block

/-- What becomes of the line feeds at the end: they are left out, one stays, or all stay. -/
inductive Ending
  | strip
  | clip
  | keep
deriving DecidableEq, Repr

structure Header where
  ending : Ending
  indent : Option Nat
deriving DecidableEq, Repr

def ending? : Option Char → Option Ending
  | some '+' => some .keep
  | some '-' => some .strip
  | _ => none

def indentAt (p : Place) : Except Fault (Option Nat × Place) :=
  match p.rest with
  | c :: _ =>
    if c = '0' then .error (.malformed (.scanning .blockScalar))
    else if c.isDigit then .ok (some (c.toNat - '0'.toNat), p.next)
    else .ok (none, p)
  | [] => .ok (none, p)

def Header.read (p : Place) : Except Fault (Header × Place) := do
  let (header, q) ← match ending? p.head? with
    | some ending => do
      let (indent, q) ← indentAt p.next
      pure ((⟨ending, indent⟩ : Header), q)
    | none => do
      let (indent, q) ← indentAt p
      match indent, ending? q.head? with
      | some n, some ending => pure ((⟨ending, some n⟩ : Header), q.next)
      | indent, _ => pure ((⟨.clip, indent⟩ : Header), q)
  if q.head?.all (fun c => c == ' ' || isBreak c) then
    return (header, ← q.pastLine .blockScalar)
  else throw (.malformed (.scanning .blockScalar))

def leadingBreaks : Text → Nat → Place → Text × Nat × Place
  | [], most, p => ([], most, p)
  | _ :: bound, most, p =>
    match p.rest with
    | ' ' :: _ => leadingBreaks bound (max most p.next.column) p.next
    | _ =>
      match p.break? with
      | some (c, q) =>
        let (cs, most, r) := leadingBreaks bound most q
        (c :: cs, most, r)
      | none => ([], most, p)

def indented (indent : Nat) (p : Place) : Place :=
  p.forward ((p.rest.take (indent - p.column)).takeWhile (· == ' ')).length

def breaks (indent : Nat) : Text → Place → Text × Place
  | [], p => ([], p)
  | _ :: bound, p =>
    let q := indented indent p
    match q.break? with
    | some (c, r) =>
      let (cs, r) := breaks indent bound r
      (c :: cs, r)
    | none => ([], q)

def startsWord (p : Place) : Bool :=
  !p.head?.any isSpace

/-- The lines of a block at its indentation, the line feeds at its end, and the place behind. What stands
before the next line is given: line breaks, and those that precede them. A text as long as the rest bounds
the number of lines. -/
def lines (isFolded : Bool) (indent : Nat) : Text → Text → Place → Text × Text × Text × Place
  | [], before, p => ([], [], before, p)
  | _ :: bound, before, p =>
    let (line, q) := p.span (!isBreak ·)
    let (final, q) := match q.break? with
      | some (c, r) => ([c], r)
      | none => ([], q)
    let (others, r) := breaks indent q.rest q
    if r.column = indent ∧ !r.atEnd then
      let joint : Text :=
        if isFolded && final == ['\n'] && startsWord p && startsWord r then
          (if others.isEmpty then [' '] else [])
        else final
      let (more, final, rest, s) := lines isFolded indent bound others r
      (before ++ (line ++ (joint ++ more)), final, rest, s)
    else (before ++ line, final, others, r)

def read (isFolded : Bool) (outer : Int) (p : Place) : Except Fault (Text × Place) := do
  let (header, p) ← Header.read p.next
  let least := max 1 (outer + 1).toNat
  let (before, indent, q) := match header.indent with
    | some n =>
      let indent := least + n - 1
      let (before, q) := breaks indent p.rest p
      (before, indent, q)
    | none =>
      let (before, most, q) := leadingBreaks p.rest 0 p
      (before, max least most, q)
  let (text, final, others, r) :=
    if q.column = indent ∧ !q.atEnd then lines isFolded indent q.rest before q
    else ([], [], before, q)
  return (match header.ending with
    | .strip => text
    | .clip => text ++ final
    | .keep => .concat [text, final, others], r)

end DdlAtlas.Yaml.Block
