import DdlAtlas.Yaml.Disorder

/-! Why a settings file has no value. Most files that are at fault are malformed; the others are well formed
but hold an escape, a number or a date that stands for nothing. -/

namespace DdlAtlas.Yaml

inductive DatePart
  | year (n : Nat)
  | month
  | day
  | hour
  | minute
  | second
deriving DecidableEq, Repr

inductive Fault
  | malformed (disorder : Disorder)
  | tooDeep
  | escapeTooLarge
  | escapeOutOfRange
  | emptyNumber
  | notInt (base : Nat) (given : Text)
  | tooManyDigits (count : Nat)
  | notFloat (given : Text)
  | notTruth (given : Text)
  | notMoment
  | notSpelled
  | outOfRange (part : DatePart)
  | offset (minutes : Int)
deriving DecidableEq, Repr

def DatePart.message : DatePart → Text
  | .year n => .concat ["year ", .ofNat n, " is out of range"]
  | .month => "month must be in 1..12"
  | .day => "day is out of range for month"
  | .hour => "hour must be in 0..23"
  | .minute => "minute must be in 0..59"
  | .second => "second must be in 0..59"

/-- A stretch of time in whole days and the seconds behind them, of which only those are written that are
not zero. -/
def spanText (minutes : Int) : Text :=
  let days := Int.fdiv minutes 1440
  let seconds := Int.fmod minutes 1440 * 60
  let parts : List Text :=
    (if days = 0 then [] else ["days=" ++ Text.ofInt days]) ++
      (if seconds = 0 then [] else ["seconds=" ++ Text.ofInt seconds])
  .concat ["datetime.timedelta(", if parts.isEmpty then "0" else Text.join ", " parts, ")"]

def Fault.message : Fault → Text
  | .malformed disorder => disorder.message
  | .tooDeep => "maximum recursion depth exceeded while calling a Python object"
  | .escapeTooLarge => "Python int too large to convert to C int"
  | .escapeOutOfRange => "chr() arg not in range(0x110000)"
  | .emptyNumber => "string index out of range"
  | .notInt base given =>
    .concat ["invalid literal for int() with base ", .ofNat base, ": ", (Text.quoted given).take 200]
  | .tooManyDigits count =>
    .concat ["Exceeds the limit (4300 digits) for integer string conversion: value has ",
      .ofNat count, " digits; use sys.set_int_max_str_digits() to increase the limit"]
  | .notFloat given => "could not convert string to float: " ++ Text.quoted given
  | .notTruth given => Text.quoted given
  | .notMoment => "'NoneType' object has no attribute 'groupdict'"
  | .notSpelled => "expected string or bytes-like object, got 'list'"
  | .outOfRange part => part.message
  | .offset minutes =>
    .concat ["offset must be a timedelta strictly between -timedelta(hours=24) and ",
      "timedelta(hours=24), not ", spanText minutes, "."]

end DdlAtlas.Yaml
