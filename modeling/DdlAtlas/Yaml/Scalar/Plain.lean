import DdlAtlas.Yaml.Place

/-! The texts of scalars without quotes. Such a scalar may go on over several lines, which are joined by
spaces; it ends at a comment, at a colon before a gap, where the lines stand too far left, and between
brackets also at the marks of the brackets. -/

namespace DdlAtlas.Yaml.Plain

def isMark (c : Char) : Bool :=
  c == ',' || c == '?' || c == '[' || c == ']' || c == '\x7b' || c == '\x7d'

def isMarkBehindColon (c : Char) : Bool :=
  c != '?' && isMark c

def run (inBrackets : Bool) : Text → Text
  | [] => []
  | c :: rest =>
    if isGap c || (inBrackets && isMark c) then []
    else if c = ':' ∧ rest.head?.all (fun d => isGap d || (inBrackets && isMarkBehindColon d)) then []
    else c :: run inBrackets rest

def moreBreaks : Text → Place → Text × Bool × Place
  | [], p => ([], false, p)
  | _ :: bound, p =>
    match p.rest with
    | ' ' :: _ => moreBreaks bound p.next
    | _ =>
      match p.break? with
      | none => ([], false, p)
      | some (c, q) =>
        if q.atSeparator then ([c], true, q)
        else
          let (cs, separated, r) := moreBreaks bound q
          (c :: cs, separated, r)

def folded (first : Char) (others : Text) : Text :=
  (if first ≠ '\n' then [first] else if others.isEmpty then [' '] else []) ++ others

/-- What stands between two words of a scalar: spaces, or line breaks with spaces. Nothing stands there if
the scalar has ended. -/
structure Between where
  text : Text
  crossed : Bool
  place : Place

def Between.read (p : Place) : Between :=
  let (spaces, q) := p.span (· == ' ')
  match q.break? with
  | none => ⟨spaces, false, q⟩
  | some (first, q) =>
    if q.atSeparator then ⟨[], true, q⟩
    else
      let (others, separated, r) := moreBreaks q.rest q
      ⟨if separated then [] else folded first others, true, r⟩

/-- The words of a scalar behind what stands before them, whether the last line break was crossed behind
them, and the place behind. A text as long as the rest bounds the number of words. -/
def words (inBrackets : Bool) (least : Int) : Text → Between → Text × Bool × Place
  | [], b => ([], b.crossed, b.place)
  | _ :: bound, b =>
    let word := if b.place.head? = some '#' then [] else run inBrackets b.place.rest
    if word.isEmpty then ([], b.crossed, b.place)
    else
      let behind := Between.read (b.place.forward word.length)
      let ends := behind.text.isEmpty || behind.place.head? == some '#'
        || (!inBrackets && decide ((behind.place.column : Int) < least))
      let (more, crossed, q) :=
        if ends then ([], behind.crossed, behind.place) else words inBrackets least bound behind
      (b.text ++ (word ++ more), crossed, q)

def read (inBrackets : Bool) (least : Int) (p : Place) : Text × Bool × Place :=
  words inBrackets least p.rest ⟨[], false, p⟩

end DdlAtlas.Yaml.Plain
