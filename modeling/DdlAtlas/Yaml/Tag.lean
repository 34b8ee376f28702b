import DdlAtlas.Pattern.Search
import DdlAtlas.Text.Basic

/-! What a node stands for, which its tag says. A scalar without quotes and without a tag has the tag that
its spelling tells: a truth value, a decimal fraction, a whole number in one of five bases, null, a date,
or else a text. -/

namespace DdlAtlas.Yaml

inductive Tag
  | null
  | bool
  | int
  | float
  | moment
  | binary
  | text
  | list
  | pairs
  | orderedMap
  | mapping
  | set
  | merge
  | standIn
  | other (name : Text)
deriving DecidableEq, Repr

namespace Tag

open Pattern

def digit : Pattern :=
  one Char.isDigit

def anyOf (t : Text) (c : Char) : Bool :=
  t.contains c

def isDigitOrBar (c : Char) : Bool :=
  c.isDigit || c == '_'

def sign : Pattern :=
  optional (one (anyOf "+-"))

def digits12 : Pattern :=
  seq digit (optional digit)

def digits2 : Pattern :=
  seq digit digit

def sixties : Pattern :=
  let group := sequence [exactly ":", optional (one (anyOf "012345")), digit]
  seq group (many group)

def truthSpellings : List (Text × Bool) :=
  [("yes", true), ("Yes", true), ("YES", true), ("no", false), ("No", false), ("NO", false),
    ("true", true), ("True", true), ("TRUE", true), ("false", false), ("False", false),
    ("FALSE", false), ("on", true), ("On", true), ("ON", true), ("off", false), ("Off", false),
    ("OFF", false)]

def truthOf? (t : Text) : Option Bool :=
  (truthSpellings.find? (·.1 == t.map Char.toLower)).map (·.2)

def nullSpellings : List Text :=
  [[], "~", "null", "Null", "NULL"]

def exponentPart : Pattern :=
  optional (sequence [one (anyOf "eE"), one (anyOf "+-"), digit, greedy Char.isDigit])

def fractionShape : Pattern :=
  choice (sequence [sign, digit, greedy isDigitOrBar, exactly ".", greedy isDigitOrBar, exponentPart])
    [sequence [exactly ".", digit, greedy isDigitOrBar, exponentPart]]

def sixtiesFractionShape : Pattern :=
  sequence [sign, digit, greedy isDigitOrBar, sixties, exactly ".", greedy isDigitOrBar]

def infinityShape : Pattern :=
  sequence [sign, exactly ".", choice (exactly "inf") [exactly "Inf", exactly "INF"]]

def notNumberSpellings : List Text :=
  [".nan", ".NaN", ".NAN"]

def binaryShape : Pattern :=
  sequence [sign, exactly "0b", run1 (anyOf "01_")]

def octalShape : Pattern :=
  sequence [sign, exactly "0", run1 (anyOf "01234567_")]

def decimalShape : Pattern :=
  sequence [sign, alt (exactly "0") (seq (one (anyOf "123456789")) (greedy isDigitOrBar))]

def hexShape : Pattern :=
  sequence [sign, exactly "0x", run1 (anyOf "0123456789abcdefABCDEF_")]

def sixtiesShape : Pattern :=
  sequence [sign, one (anyOf "123456789"), greedy isDigitOrBar, sixties]

def momentShape : Pattern :=
  let year := sequence [digit, digit, digit, digit, exactly "-"]
  let zone := optional <| sequence [greedy (anyOf " \t"),
    alt (exactly "Z") (sequence [one (anyOf "+-"), digits12,
      optional (sequence [exactly ":", digits2])])]
  choice (sequence [year, digits2, exactly "-", digits2, textEnd])
    [sequence [year, digits12, exactly "-", digits12, alt (one (anyOf "Tt")) (run1 (anyOf " \t")),
      digits12, exactly ":", digits2, exactly ":", digits2,
      optional (seq (exactly ".") (greedy Char.isDigit)), zone]]

def withoutFinalBreak (t : Text) : Text :=
  match t.reverse with
  | '\n' :: c :: rest => (c :: rest).reverse
  | _ => t

def fits (p : Pattern) (t : Text) : Bool :=
  ((seq p textEnd).match? t).isSome

def ofSpelling (text : Text) : Tag :=
  let t := withoutFinalBreak text
  if truthSpellings.any (·.1 == t) then .bool
  else if [fractionShape, sixtiesFractionShape, infinityShape].any (fits · t)
      || notNumberSpellings.contains t then .float
  else if [binaryShape, octalShape, decimalShape, hexShape, sixtiesShape].any (fits · t) then .int
  else if t = "<<" then .merge
  else if nullSpellings.contains t then .null
  else if fits momentShape t then .moment
  else if t = "=" then .standIn
  else .text

def isCollection (tag : Tag) : Bool :=
  [Tag.list, .pairs, .orderedMap, .mapping, .set].contains tag

def front : Text := "tag:yaml.org,2002:"

def named : List (Text × Tag) :=
  [("null", .null), ("bool", .bool), ("int", .int), ("float", .float), ("timestamp", .moment),
    ("binary", .binary), ("str", .text), ("seq", .list), ("omap", .orderedMap), ("pairs", .pairs),
    ("map", .mapping), ("set", .set), ("merge", .merge), ("value", .standIn)]

def ofName (name : Text) : Tag :=
  ((Text.behind? front name).bind fun rest => (named.find? (·.1 == rest)).map (·.2)).getD (.other name)

def unknown? : Tag → Option Text
  | .merge => some (front ++ "merge")
  | .standIn => some (front ++ "value")
  | .other name => some name
  | _ => none

end Tag

end DdlAtlas.Yaml
