import DdlAtlas.Json.Reader
import DdlAtlas.Yaml.Place
import DdlAtlas.Yaml.Tag

/-! The dates and times that scalars spell, and what can be wrong with them. An offset from universal time
is checked first, and then the parts from the year on. -/

namespace DdlAtlas.Yaml

structure Clock where
  hour : Nat
  minute : Nat
  second : Nat
  offset : Option Int

structure Spelled where
  year : Nat
  month : Nat
  day : Nat
  clock : Option Clock

def digitsAt? (least most : Nat) (t : Text) : Option (Nat × Text) :=
  let digits := (t.take most).takeWhile Char.isDigit
  if least ≤ digits.length then some (Decimal.natOfDigits digits, t.drop digits.length) else none

def past? (mark : Char) (t : Text) : Option Text :=
  Text.behind? [mark] t

def offset? (t : Text) : Option (Option Int) :=
  match t.dropWhile isSpace with
  | [] => if t.isEmpty then some none else none
  | ['Z'] => some (some 0)
  | sign :: rest =>
    if sign ≠ '+' ∧ sign ≠ '-' then none
    else do
      let (hours, rest) ← digitsAt? 1 2 rest
      let (minutes, rest) ← match rest with
        | [] => some (0, [])
        | _ => (past? ':' rest).bind (digitsAt? 2 2)
      let total : Int := hours * 60 + minutes
      if rest.isEmpty then some (some (if sign = '-' then -total else total)) else none

def behindDate? (t : Text) : Option Text :=
  match t with
  | 'T' :: rest | 't' :: rest => some rest
  | _ => if t.head?.any isSpace then some (t.dropWhile isSpace) else none

def Clock.ofText? (t : Text) : Option Clock := do
  let rest ← behindDate? t
  let (hour, rest) ← digitsAt? 1 2 rest
  let (minute, rest) ← (past? ':' rest).bind (digitsAt? 2 2)
  let (second, rest) ← (past? ':' rest).bind (digitsAt? 2 2)
  let rest := match rest with
    | '.' :: more => more.dropWhile Char.isDigit
    | rest => rest
  return ⟨hour, minute, second, ← offset? rest⟩

def Spelled.ofText? (t : Text) : Option Spelled := do
  let (year, rest) ← digitsAt? 4 4 t
  let (month, rest) ← (past? '-' rest).bind (digitsAt? 1 2)
  let (day, rest) ← (past? '-' rest).bind (digitsAt? 1 2)
  let clock ← match rest with
    | [] => some none
    | _ => (Clock.ofText? rest).map some
  return ⟨year, month, day, clock⟩

def isLeap (year : Nat) : Bool :=
  year % 4 == 0 && (year % 100 != 0 || year % 400 == 0)

def daysIn (year month : Nat) : Nat :=
  if month = 2 then (if isLeap year then 29 else 28)
  else if [4, 6, 9, 11].contains month then 30
  else 31

def Clock.fault? (c : Clock) : Option DatePart :=
  if 23 < c.hour then some .hour
  else if 59 < c.minute then some .minute
  else if 59 < c.second then some .second
  else none

def Spelled.fault? (d : Spelled) : Option Fault :=
  let offset := (d.clock.bind (·.offset)).getD 0
  if 1440 ≤ offset.natAbs then some (.offset offset)
  else if d.year = 0 then some (.outOfRange (.year 0))
  else if d.month = 0 ∨ 12 < d.month then some (.outOfRange .month)
  else if d.day = 0 ∨ daysIn d.year d.month < d.day then some (.outOfRange .day)
  else (d.clock.bind (·.fault?)).map .outOfRange

def momentFault? (t : Text) : Option Fault :=
  match Spelled.ofText? (Tag.withoutFinalBreak t) with
  | some d => d.fault?
  | none => some .notMoment

end DdlAtlas.Yaml
