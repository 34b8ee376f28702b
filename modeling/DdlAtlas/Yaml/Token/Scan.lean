import DdlAtlas.Yaml.Scalar.Block
import DdlAtlas.Yaml.Scalar.Quoted
import DdlAtlas.Yaml.Token.Name

/-! Cutting a settings file into tokens. That a scalar is a key shows only at the colon behind it; so the
places where a key may have begun are kept, one for every level of brackets, and the token that announces
the key is put in front of it later. A key has to stand on one line and may have at most 1024 characters. -/

namespace DdlAtlas.Yaml

/-- A place where a key may have begun: the number of tokens before it, and whether a key has to begin
there. -/
structure MaybeKey where
  token : Nat
  required : Bool
  place : Place

/-- A text that is cut into tokens up to a place: the tokens, the latest first, and their number; the number
of open brackets; the column of the block and those of the blocks around it; whether a key may begin; and
where keys may have begun, by the number of open brackets. -/
structure Scan where
  place : Place
  tokens : List Token
  count : Nat
  brackets : Nat
  indent : Int
  outer : List Int
  keyAllowed : Bool
  keys : List (Nat × MaybeKey)

namespace Scan

def start (t : Text) : Scan :=
  ⟨.start t, [], 0, 0, -1, [], true, []⟩

def add (s : Scan) (t : Token) : Scan :=
  { s with tokens := t :: s.tokens, count := s.count + 1 }

def insert (s : Scan) (number : Nat) (t : Token) : Scan :=
  let later := s.count - number
  { s with tokens := s.tokens.take later ++ t :: s.tokens.drop later, count := s.count + 1 }

def moveTo (s : Scan) (p : Place) : Scan :=
  { s with place := p }

def allowKey (s : Scan) (allowed : Bool) : Scan :=
  { s with keyAllowed := allowed }

def isStale (s : Scan) (k : MaybeKey) : Bool :=
  k.place.line != s.place.line || 1024 < s.place.index - k.place.index

def withoutStale (s : Scan) : Except Fault Scan :=
  let (stale, fresh) := s.keys.partition fun k => s.isStale k.2
  if stale.any (·.2.required) then .error (.malformed (.scanning .simpleKey)) else .ok { s with keys := fresh }

def maybeKey? (s : Scan) : Option MaybeKey :=
  (s.keys.find? (·.1 == s.brackets)).map (·.2)

def withoutKey (s : Scan) : Except Fault Scan :=
  if s.maybeKey?.any (·.required) then .error (.malformed (.scanning .simpleKey))
  else .ok { s with keys := s.keys.filter (·.1 != s.brackets) }

def saveKey (s : Scan) : Except Fault Scan :=
  if !s.keyAllowed then .ok s
  else s.withoutKey.map fun s =>
    let required := s.brackets == 0 && s.indent == (s.place.column : Int)
    { s with keys := (s.brackets, ⟨s.count, required, s.place⟩) :: s.keys }

def closeBlocks (column : Int) : List Int → Scan → Scan
  | [], s => s
  | around :: outer, s =>
    if s.brackets = 0 ∧ column < s.indent then
      closeBlocks column outer { s.add .blockEnd with indent := around, outer }
    else s

def unwind (s : Scan) (column : Int) : Scan :=
  closeBlocks column s.outer s

def enter (s : Scan) (column : Nat) : Bool × Scan :=
  if s.indent < (column : Int) then
    (true, { s with indent := column, outer := s.indent :: s.outer })
  else (false, s)

def enterWith (s : Scan) (t : Token) : Scan :=
  match s.enter s.place.column with
  | (true, s) => s.add t
  | (false, s) => s

def skipGaps : Text → Bool → Place → Bool × Place
  | [], crossed, p => (crossed, p)
  | _ :: bound, crossed, p =>
    let q := (p.skip (· == ' ')).skipComment
    match q.break? with
    | some (_, r) => skipGaps bound true r
    | none => (crossed, q)

def toToken (s : Scan) : Scan :=
  let p := if s.place.index = 0 ∧ s.place.head? = some Place.orderMark then s.place.next else s.place
  let (crossed, q) := skipGaps p.rest false p
  { s with place := q, keyAllowed := s.keyAllowed || (crossed && s.brackets == 0) }

def finish (s : Scan) : Except Fault Scan :=
  ((s.unwind (-1)).withoutKey).map fun s => ({ s with keys := [] }.allowKey false).add .textEnd

def documentMark (s : Scan) (t : Token) (behind : Place) : Except Fault Scan :=
  ((s.unwind (-1)).withoutKey).map fun s => ((s.allowKey false).moveTo behind).add t

def openBracket (s : Scan) (t : Token) : Except Fault Scan :=
  s.saveKey.map fun s =>
    (({ s with brackets := s.brackets + 1 }.allowKey true).moveTo s.place.next).add t

def closeBracket (s : Scan) (t : Token) : Except Fault Scan :=
  s.withoutKey.map fun s =>
    (({ s with brackets := s.brackets - 1 }.allowKey false).moveTo s.place.next).add t

def comma (s : Scan) : Except Fault Scan :=
  (s.allowKey true).withoutKey.map fun s => (s.moveTo s.place.next).add .comma

def entry (s : Scan) : Except Fault Scan :=
  if s.brackets = 0 ∧ !s.keyAllowed then .error (.malformed (.misplaced .entry))
  else
    let s := if s.brackets = 0 then s.enterWith .listStart else s
    (s.allowKey true).withoutKey.map fun s => (s.moveTo s.place.next).add .entry

def explicitKey (s : Scan) : Except Fault Scan :=
  if s.brackets = 0 ∧ !s.keyAllowed then .error (.malformed (.misplaced .key))
  else
    let s := if s.brackets = 0 then s.enterWith .mappingStart else s
    (s.allowKey (s.brackets == 0)).withoutKey.map fun s => (s.moveTo s.place.next).add .key

/-- The token of a key in front of what has turned out to be one, and before it the start of a block if the
key begins one. -/
def announceKey (s : Scan) (k : MaybeKey) : Scan :=
  let s := { s with keys := s.keys.filter (·.1 != s.brackets) }.insert k.token .key
  if s.brackets ≠ 0 then s
  else match s.enter k.place.column with
    | (true, s) => s.insert k.token .mappingStart
    | (false, s) => s

def value (s : Scan) : Except Fault Scan :=
  match s.maybeKey? with
  | some k =>
    let s := (s.announceKey k).allowKey false
    .ok ((s.moveTo s.place.next).add .value)
  | none =>
    if s.brackets = 0 ∧ !s.keyAllowed then .error (.malformed (.misplaced .value))
    else
      let s := if s.brackets = 0 then s.enterWith .mappingStart else s
      (s.allowKey (s.brackets == 0)).withoutKey.map fun s => (s.moveTo s.place.next).add .value

def keyPart (s : Scan) (found : Except Fault (Token × Place)) : Except Fault Scan := do
  let s ← s.saveKey
  let (t, p) ← found
  return ((s.allowKey false).moveTo p).add t

def quoted (s : Scan) (quote : Char) : Except Fault Scan :=
  s.keyPart <| (Quoted.read quote s.place).map fun (q, p) => (.scalar ⟨q.text, q.torn, false⟩, p)

def block (s : Scan) (isFolded : Bool) : Except Fault Scan := do
  let s ← (s.allowKey true).withoutKey
  let (text, p) ← Block.read isFolded s.indent s.place
  return (s.moveTo p).add (.scalar ⟨text, false, false⟩)

def plain (s : Scan) : Except Fault Scan :=
  s.saveKey.map fun s =>
    let (text, crossed, p) := Plain.read (s.brackets != 0) (s.indent + 1) s.place
    ((s.allowKey crossed).moveTo p).add (.scalar ⟨text, false, true⟩)

def isMark (c : Char) : Bool :=
  "-?:,[]\x7b\x7d#&*!|>'\"%@\x60".toList.contains c

def startsPlain (s : Scan) (c : Char) (rest : Text) : Bool :=
  let beforeWord := rest.head?.any (!isGap ·)
  !(isGap c || isMark c) ||
    (beforeWord && (c == '-' || (s.brackets == 0 && (c == '?' || c == ':'))))

def tokenAt (s : Scan) (c : Char) (rest : Text) : Except Fault Scan :=
  let gapBehind := rest.head?.all isGap
  let p := s.place
  if c = '%' ∧ p.column = 0 then
    match Directive.read p with
    | .ok (d, q) => s.documentMark (.directive d) q
    | .error e => ((s.unwind (-1)).withoutKey).bind fun _ => .error e
  else if p.column = 0 ∧ p.atTriple "---" then s.documentMark .documentStart (p.forward 3)
  else if p.column = 0 ∧ p.atTriple "..." then s.documentMark .documentEnd (p.forward 3)
  else if c = '[' then s.openBracket .bracketOpen
  else if c = '\x7b' then s.openBracket .braceOpen
  else if c = ']' then s.closeBracket .bracketClose
  else if c = '\x7d' then s.closeBracket .braceClose
  else if c = ',' then s.comma
  else if c = '-' ∧ gapBehind then s.entry
  else if c = '?' ∧ (s.brackets ≠ 0 ∨ gapBehind) then s.explicitKey
  else if c = ':' ∧ (s.brackets ≠ 0 ∨ gapBehind) then s.value
  else if c = '*' then s.keyPart ((anchorName .alias p).map fun (name, q) => (.alias name, q))
  else if c = '&' then s.keyPart ((anchorName .anchor p).map fun (name, q) => (.anchor name, q))
  else if c = '!' then s.keyPart ((TagName.read p).map fun (name, q) => (.tag name, q))
  else if c = '|' ∧ s.brackets = 0 then s.block false
  else if c = '>' ∧ s.brackets = 0 then s.block true
  else if c = '\'' ∨ c = '"' then s.quoted c
  else if s.startsPlain c rest then s.plain
  else .error (.malformed (.scanning .next))

/-- One step: to the next token and behind it. Keys that come too far on the way are given up, before the
token and behind it. -/
def step (s : Scan) : Except Fault Scan := do
  let s ← s.toToken.withoutStale
  let s := s.unwind s.place.column
  let s ← match s.place.rest with
    | [] => s.finish
    | c :: rest => s.tokenAt c rest
  s.withoutStale

/-- The tokens that are settled, in order, when a fault is met: those before the first key that may have
begun, for nothing behind it can be used before the key is known. -/
def settled (s : Scan) : List Token :=
  let first := s.keys.foldl (fun n k => min n k.2.token) s.count
  (s.tokens.drop (s.count - first)).reverse

def run : Nat → Scan → List Token
  | 0, s => s.settled ++ [.fault (.malformed (.scanning .next))]
  | n + 1, s =>
    match s.step with
    | .error e => s.settled ++ [.fault e]
    | .ok next => if next.tokens.head? = some .textEnd then next.tokens.reverse else run n next

end Scan

def Token.ofText (t : Text) : List Token :=
  (Scan.start t).run (t.length + 1)

end DdlAtlas.Yaml
