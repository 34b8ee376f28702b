import DdlAtlas.Json.Reader
import DdlAtlas.Text.Numeral

/-! Numbers written as text. A whole number may have blanks around it, a sign, zeros in front, single
underscores between its digits and zeros behind a point. A fraction may leave out the digits on one side of
its point, have a power of ten, or be spelled as infinite or as no number. -/

namespace DdlAtlas.Settings

/-- A whole number in plain digits, without zeros in front. Its sign counts among the digits it may
have at most. -/
def plainInt? (t : Text) : Option Int :=
  let (negative, body) := match t with
    | '-' :: rest => (true, rest)
    | rest => (false, rest)
  match Json.wholePart? body with
  | some (digits, []) =>
    if t.length ≤ Json.digitLimit then
      some (if negative then -(Decimal.natOfDigits digits : Int) else Decimal.natOfDigits digits)
    else none
  | _ => none

/-- The text without the zeros in front of a number, of which one stays before a point or the end. Of
underscores alone the last one stays, and a minus sign may stand behind the zeros. -/
def withoutLeadingZeros : Text → Option Text
  | '0' :: rest =>
    let zeros := '0' :: rest.takeWhile fun c => c == '0' || c == '_'
    match rest.dropWhile fun c => c == '0' || c == '_' with
    | [] => some (zeros.drop (zeros.length - 1))
    | '.' :: more => some (zeros.drop (zeros.length - 1) ++ '.' :: more)
    | c :: more => if c.isDigit || c == '-' then some (c :: more) else none
  | c :: rest => if c.isDigit then some (c :: rest) else none
  | [] => none

def beforeZeroFraction (t : Text) : Option Text :=
  match t.span (· != '.') with
  | (whole, _ :: zeros) => if !zeros.isEmpty && zeros.all (· == '0') then some whole else none
  | (_, []) => some t

def withoutBars (t : Text) : Option Text :=
  if Text.startsWith t "_" || Text.endsWith t "_" || Text.hasPart "__" t then none
  else some (Text.without '_' t)

def plainDigits? (t : Text) : Option Text :=
  ((withoutLeadingZeros t).bind beforeZeroFraction).bind withoutBars

def freeInt? (t : Text) : Option Int :=
  match Text.withoutMargins t with
  | '+' :: rest => if rest.head? = some '-' then none else signedFree rest
  | rest => signedFree rest
where
  signedFree : Text → Option Int
    | '-' :: rest => (plainDigits? rest).bind fun digits => plainInt? ('-' :: digits)
    | rest => (plainDigits? rest).bind plainInt?

def intOfText? (t : Text) : Option Int :=
  (plainInt? t).orElse fun _ => freeInt? t

def startsTooLong (t : Text) : Bool :=
  match (Text.behind? "-" t).getD t with
  | '0' :: _ => false
  | body => Json.digitLimit < t.length - body.length + (body.takeWhile (·.isDigit)).length

def floatOfText? (t : Text) : Option Float :=
  (Decimal.spelled? (Text.withoutMargins t)).orElse fun _ => (withoutBars t).bind Decimal.spelled?

def floatOfInt? (n : Int) : Option Float :=
  let x := Decimal.toFloat ⟨n.natAbs, 0⟩
  if x.isInf then none else some (if n < 0 then -x else x)

def intOfFloat? (x : Float) : Option Int :=
  let b := Decimal.Binary.ofBits (x.toBits.toNat % Nat.pow 2 63)
  if x.isNaN || x.isInf || x.floor != x then none
  else
    let (num, den) := Decimal.quotient 2 b.power
    let n : Int := b.significand * num / den
    some (if x < 0.0 then -n else n)

end DdlAtlas.Settings
