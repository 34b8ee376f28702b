import DdlAtlas.Decimal

/-! Moments in time, counted from the start of 1970 in universal time, and their calendar dates. -/

namespace DdlAtlas

structure Moment where
  seconds : Int
  micros : Nat
deriving DecidableEq, Repr

structure Date where
  year : Int
  month : Nat
  day : Nat
deriving DecidableEq, Repr

/-- The date a number of days behind the start of 1970. Years are counted from March on, so that a leap
day ends its year, and in eras of four hundred years, which all have the same length. -/
def Date.ofDays (days : Int) : Date :=
  let shifted := days + 719468
  let era := Int.fdiv shifted 146097
  let dayOfEra := (shifted - era * 146097).toNat
  let yearOfEra := (dayOfEra - dayOfEra / 1460 + dayOfEra / 36524 - dayOfEra / 146096) / 365
  let dayOfYear := dayOfEra - (365 * yearOfEra + yearOfEra / 4 - yearOfEra / 100)
  let marchMonth := (5 * dayOfYear + 2) / 153
  let month := if marchMonth < 10 then marchMonth + 3 else marchMonth - 9
  { year := (yearOfEra : Int) + era * 400 + (if month ≤ 2 then 1 else 0)
    month
    day := dayOfYear - (153 * marchMonth + 2) / 5 + 1 }

def Text.digits (width n : Nat) : Text :=
  Text.padLeft width '0' (Text.ofNat n)

namespace Moment

def ofMicros (n : Int) : Moment :=
  ⟨Int.fdiv n 1000000, (Int.fmod n 1000000).toNat⟩

def sizeOf (x : Float) : Nat × Nat :=
  let b := Decimal.Binary.ofBits x.toBits.toNat
  let (num, den) := Decimal.quotient 2 b.power
  (num * b.significand, den)

def signedAs (x : Float) (n : Nat) : Int :=
  if Nat.pow 2 63 ≤ x.toBits.toNat then -n else n

def wholePart (x : Float) : Int :=
  let (num, den) := sizeOf x
  signedAs x (num / den)

def nearestWhole (x : Float) : Int :=
  let (num, den) := sizeOf x
  let below := num / den
  let left := num % den
  signedAs x (if den < 2 * left ∨ (den = 2 * left ∧ below % 2 = 1) then below + 1 else below)

def ofSeconds (x : Float) : Moment :=
  let whole := wholePart x
  .ofMicros (whole * 1000000 + nearestWhole ((x - Float.ofInt whole) * 1000000.0))

def rounded (m : Moment) : Moment :=
  .ofSeconds (Float.ofInt m.seconds + 1e-9 * Float.ofNat (m.micros * 1000))

def date (m : Moment) : Date :=
  .ofDays (Int.fdiv m.seconds 86400)

def secondOfDay (m : Moment) : Nat :=
  (Int.fmod m.seconds 86400).toNat

def dateText (m : Moment) : Text :=
  let d := m.date
  .concat [Text.digits 4 d.year.toNat, "-", Text.digits 2 d.month, "-", Text.digits 2 d.day]

def clockText (m : Moment) : Text :=
  let s := m.secondOfDay
  .concat [Text.digits 2 (s / 3600), ":", Text.digits 2 (s / 60 % 60)]

def isoText (m : Moment) : Text :=
  .concat [m.dateText, "T", m.clockText, ":", Text.digits 2 (m.secondOfDay % 60),
    .whenSet (m.micros != 0) ('.' :: Text.digits 6 m.micros), "+00:00"]

def shortText (m : Moment) : Text :=
  .concat [m.dateText, " ", m.clockText]

end Moment

end DdlAtlas
