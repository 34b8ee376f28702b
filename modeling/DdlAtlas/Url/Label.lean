import DdlAtlas.Text.Quoted
import DdlAtlas.Url.LabelTable
import DdlAtlas.Url.Punycode

/-! The labels of host names in letters of any script. A label is checked letter by letter; a few letters
may stand only beside certain others, and a label with letters that are written from right to left has to
keep to one direction. A label that is accepted is written in ASCII behind a mark. -/

namespace DdlAtlas.Url

inductive LabelFault
  | noLabel
  | empty
  | nothingEncoded
  | hyphenEncoded
  | notEncoded
  | notComposed
  | hyphenPair
  | hyphenAtEdge
  | markInFront
  | tooLong
  | letter (c : Char) (position : Nat) (label : Text)
  | joiner (c : Char) (position : Nat) (label : Text)
  | neighbour (c : Char) (position : Nat) (label : Text)
  | firstDirection (label : Text)
  | direction (position : Nat) (leftward : Bool)
  | mixedNumerals
  | lastDirection
deriving DecidableEq, Repr

def codePointName (c : Char) : Text :=
  "U+" ++ (Text.hexDigits 4 c.toNat).map Char.toUpper

def LabelFault.message : LabelFault → Text
  | .noLabel => "Empty domain"
  | .empty => "Empty Label"
  | .nothingEncoded => "Malformed A-label, no Punycode eligible content found"
  | .hyphenEncoded => "A-label must not end with a hyphen"
  | .notEncoded => "Invalid A-label"
  | .notComposed => "Label must be in Normalization Form C"
  | .hyphenPair => "Label has disallowed hyphens in 3rd and 4th position"
  | .hyphenAtEdge => "Label must not start or end with a hyphen"
  | .markInFront => "Label begins with an illegal combining character"
  | .tooLong => "Label too long"
  | .letter c position label =>
    .concat ["Codepoint ", codePointName c, " at position ", .ofNat position, " of ",
      Text.quoted label, " not allowed"]
  | .joiner c position label =>
    .concat ["Joiner ", codePointName c, " not allowed at position ", .ofNat position, " in ",
      Text.quoted label]
  | .neighbour c position label =>
    .concat ["Codepoint ", codePointName c, " not allowed at position ", .ofNat position, " in ",
      Text.quoted label]
  | .firstDirection label =>
    .concat ["First codepoint in label ", Text.quoted label,
      " must be directionality L, R or AL"]
  | .direction position leftward =>
    .concat ["Invalid direction for codepoint at position ", .ofNat position, " in a ",
      if leftward then "right-to-left" else "left-to-right", " label"]
  | .mixedNumerals => "Can not mix numeral types in a right-to-left label"
  | .lastDirection => "Label ends with illegal codepoint directionality"

inductive Direction
  | rightward
  | leftward
  | digit
  | arabicDigit
  | neutral
  | undirected
deriving DecidableEq, Repr

def isArabicDigit (c : Char) : Bool :=
  '\u0660' ≤ c && c ≤ '\u0669'

def isEasternDigit (c : Char) : Bool :=
  '\u06f0' ≤ c && c ≤ '\u06f9'

def neutralChars : Text :=
  "-\u00b7\u02b9\u02ba\u02c6\u02c7\u02c8\u02c9\u02ca\u02cb\u02cc\u02cd\u02ce\u02cf\u02ec\u0375\u200c\u200d\u2e2f\u30fb\ua67f\ua788"

def directionOf (c : Char) : Direction :=
  if c.isDigit || isEasternDigit c then .digit
  else if isArabicDigit c || (0x10d30 ≤ c.toNat && c.toNat ≤ 0x10d39) then .arabicDigit
  else if neutralChars.contains c || ('\ua717' ≤ c && c ≤ '\ua71f') then .neutral
  else if undirectedEdges.contains c then .undirected
  else if leftwardEdges.contains c then .leftward
  else .rightward

/-- The first fault in the directions of a leftward label from a position on, where the kind of its digits
may be known already. -/
def leftwardFault? : Nat → Option Direction → List Direction → Option LabelFault
  | _, _, [] => none
  | position, digits, d :: rest =>
    if d = .rightward then some (.direction position true)
    else if d = .digit ∨ d = .arabicDigit then
      if digits.any (· != d) then some .mixedNumerals
      else leftwardFault? (position + 1) (some d) rest
    else leftwardFault? (position + 1) digits rest

def Direction.endsLeftward (d : Direction) : Bool :=
  d == .leftward || d == .digit || d == .arabicDigit

def directionFault? (label : Text) : Option LabelFault :=
  let ds := label.map directionOf
  let isTurned := fun d => d == Direction.leftward || d == Direction.arabicDigit
  if !ds.any isTurned then none
  else match ds.head? with
    | some .leftward =>
      (leftwardFault? 1 none ds).orElse fun _ =>
        if (ds.reverse.dropWhile (· == .undirected)).head?.any (·.endsLeftward) then none
        else some .lastDirection
    | some .rightward => some (.direction ((ds.takeWhile (!isTurned ·)).length + 1) false)
    | _ => some (.firstDirection label)

structure Neighbours where
  before : Option Char
  behind : Option Char

/-- Whether a character that needs certain others beside it has them; none for all other characters. -/
def suits? (label : Text) (n : Neighbours) (c : Char) : Option Bool :=
  if c = '\u00b7' then some (n.before == some 'l' && n.behind == some 'l')
  else if c = '\u0375' then some (n.behind.any greekEdges.contains)
  else if c = '\u05f3' ∨ c = '\u05f4' then some (n.before.any hebrewEdges.contains)
  else if c = '\u30fb' then some (label.any japaneseEdges.contains)
  else if isArabicDigit c then some (!label.any isEasternDigit)
  else if isEasternDigit c then some (!label.any isArabicDigit)
  else none

def isJoiner (c : Char) : Bool :=
  c == '\u200c' || c == '\u200d'

def letterFault? (label : Text) : Nat → Option Char → Text → Option LabelFault
  | _, _, [] => none
  | position, before, c :: rest =>
    if labelEdges.contains c then letterFault? label (position + 1) (some c) rest
    else if isJoiner c then
      if before.any viramaEdges.contains then letterFault? label (position + 1) (some c) rest
      else some (.joiner c position label)
    else match suits? label ⟨before, rest.head?⟩ c with
      | some true => letterFault? label (position + 1) (some c) rest
      | some false => some (.neighbour c position label)
      | none => some (.letter c position label)

def isDecomposed (letter mark : Char) : Bool :=
  (composedPairs.find? (·.1 == mark.toNat)).any (·.2.contains letter.toNat)

def hasDecomposed : Text → Bool
  | a :: b :: rest => isDecomposed a b || hasDecomposed (b :: rest)
  | _ => false

def labelFault? (label : Text) : Option LabelFault :=
  if label.isEmpty then some .empty
  else if hasDecomposed label then some .notComposed
  else if (label.drop 2).take 2 = "--".toList then some .hyphenPair
  else if label.head? = some '-' ∨ label.getLast? = some '-' then some .hyphenAtEdge
  else if label.head?.any markEdges.contains then some .markInFront
  else (letterFault? label 1 none label).orElse fun _ => directionFault? label

def asciiMark : Text := "xn--"

def asciiLabelFault? (label : Text) : Option LabelFault :=
  let small := label.map Char.toLower
  match Text.behind? asciiMark small with
  | none => labelFault? small
  | some [] => some .nothingEncoded
  | some encoded =>
    if encoded.getLast? = some '-' then some .hyphenEncoded
    else match Punycode.decode? encoded with
      | none => some .notEncoded
      | some decoded => labelFault? decoded

def isLabelPoint (c : Char) : Bool :=
  c == '.' || c == '\u3002' || c == '\uff0e' || c == '\uff61'

def labelsOf (name : Text) : List Text × Bool :=
  let labels := Text.cells '.' (name.map fun c => if isLabelPoint c then '.' else c)
  if labels.getLast? = some [] then (labels.dropLast, true) else (labels, false)

def asciiNameFault? (name : Text) : Option LabelFault :=
  if name.isEmpty then some .noLabel else (labelsOf name).1.findSome? asciiLabelFault?

def asciiLabel (label : Text) : Except LabelFault Text :=
  let isAscii := label.all (·.val < 128)
  match if isAscii then asciiLabelFault? label else labelFault? label with
  | some fault => .error fault
  | none =>
    let written := if isAscii then label else asciiMark ++ Punycode.encode label
    if 63 < written.length then .error .tooLong else .ok written

def asciiName? (name : Text) : Option Text :=
  let (labels, closed) := labelsOf name
  match labels.mapM asciiLabel with
  | .error _ => none
  | .ok written =>
    let written := Text.join "." written ++ Text.whenSet closed "."
    if written.length ≤ (if closed then 254 else 253) then some written else none

end DdlAtlas.Url
