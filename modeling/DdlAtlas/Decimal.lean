import DdlAtlas.Text.Basic

/-! Between decimals and double-precision numbers. A decimal is read to the nearest double. A double is
written with the fewest digits that read back to it, and of two such decimals with the nearer one, a
tie going to the even digit. A fraction that is written as a word may leave out the digits on one side of its
point and have a power of ten behind them, or be a name of infinity or of no number, in letters of any size. -/

namespace DdlAtlas

structure Decimal where
  digits : Nat
  exponent : Int
deriving DecidableEq, Repr

namespace Decimal

def width (n : Nat) : Nat :=
  (Nat.repr n).length

/-- The double nearest to a decimal. Beyond the range of doubles it is infinite or zero. -/
def toFloat (d : Decimal) : Float :=
  if d.digits = 0 then 0.0
  else if (width d.digits : Int) + d.exponent > 310 then Float.ofBits 0x7ff0000000000000
  else if (width d.digits : Int) + d.exponent < -330 then 0.0
  else Float.ofScientific d.digits (decide (d.exponent < 0)) d.exponent.natAbs

/-- A positive double as `significand · 2 ^ power`; `halved` says that the doubles below it lie twice
as close as those above. -/
structure Binary where
  significand : Nat
  power : Int
  halved : Bool
deriving DecidableEq, Repr

def Binary.ofBits (bits : Nat) : Binary :=
  let fraction : Nat := bits % Nat.pow 2 52
  let biased : Nat := bits / Nat.pow 2 52 % Nat.pow 2 11
  if biased = 0 then ⟨fraction, -1074, false⟩
  else ⟨Nat.pow 2 52 + fraction, (biased : Int) - 1075, fraction = 0 ∧ 1 < biased⟩

def quotient (base : Nat) (power : Int) : Nat × Nat :=
  if power < 0 then (1, Nat.pow base power.natAbs) else (Nat.pow base power.natAbs, 1)

/-- The decimals of one power of ten near a double, by exact arithmetic: `value`, `low` and `high` are
the double and the ends of the interval that reads back to it, in quarters of a unit of its last
place; `scale` turns a multiple of the power of ten into these quarters. -/
structure Grid where
  value : Nat
  low : Nat
  high : Nat
  closed : Bool
  num : Nat
  den : Nat

def Binary.grid (b : Binary) (exponent : Int) : Grid :=
  let (tenNum, tenDen) := quotient 10 exponent
  let (twoNum, twoDen) := quotient 2 (b.power - 2)
  { value := 4 * b.significand
    low := 4 * b.significand - (if b.halved then 1 else 2)
    high := 4 * b.significand + 2
    closed := b.significand % 2 = 0
    num := tenNum * twoDen
    den := tenDen * twoNum }

def Grid.readsBack (g : Grid) (n : Nat) : Bool :=
  let x := n * g.num
  if g.closed then g.low * g.den ≤ x && x ≤ g.high * g.den
  else g.low * g.den < x && x < g.high * g.den

def Grid.nearest? (g : Grid) : Option Nat :=
  let target := g.value * g.den
  let below := target / g.num
  let toBelow := target - below * g.num
  let toAbove := (below + 1) * g.num - target
  let upFirst := toAbove < toBelow ∨ (toAbove = toBelow ∧ below % 2 = 1)
  let order := if upFirst then [below + 1, below] else [below, below + 1]
  -- the nearer one can fall outside the interval, on the side where the doubles lie closer
  order.find? g.readsBack

def Binary.magnitude (b : Binary) : Int :=
  let (num, den) := quotient 2 b.power
  let num := num * b.significand
  let guess : Int := (width num : Int) - width den
  let (tenNum, tenDen) := quotient 10 guess
  if den * tenNum ≤ num * tenDen then guess else guess - 1

def shortest (b : Binary) : Decimal :=
  let top := b.magnitude
  ((List.range 17).findSome? fun (i : Nat) =>
    ((b.grid (top - i)).nearest?).map fun n => Decimal.mk n (top - i)).getD ⟨0, 0⟩

def trimZeros : Nat → Decimal → Decimal
  | 0, d => d
  | steps + 1, d =>
    if d.digits ≠ 0 ∧ d.digits % 10 = 0 then trimZeros steps ⟨d.digits / 10, d.exponent + 1⟩ else d

/-- The layout of a positive decimal: in positions while the point falls within sixteen digits or
behind at most three zeros, else with an exponent of at least two digits. A whole number keeps
one zero behind the point. -/
def layout (d : Decimal) : Text :=
  let d := trimZeros (width d.digits) d
  let digits := Text.ofNat d.digits
  let point := (digits.length : Int) + d.exponent
  if point ≤ -4 ∨ 16 < point then
    let power := point - 1
    .concat [digits.take 1, .whenSet (1 < digits.length) ".", digits.drop 1, "e",
      if power < 0 then "-" else "+", .padLeft 2 '0' (.ofNat power.natAbs)]
  else if point ≤ 0 then .concat ["0.", List.replicate point.natAbs '0', digits]
  else if digits.length ≤ point.toNat then
    .concat [digits, List.replicate (point.toNat - digits.length) '0', ".0"]
  else .concat [digits.take point.toNat, ".", digits.drop point.toNat]

def textOfBits (bits : Nat) : Text :=
  if bits = 0 then "0.0" else layout (shortest (.ofBits bits))

def natOfDigits (digits : Text) : Nat :=
  digits.foldl (fun n c => n * 10 + (c.toNat - '0'.toNat)) 0

def power (t : Text) : Option Int × Text :=
  match t with
  | e :: rest =>
    if e = 'e' ∨ e = 'E' then
      let (negative, unsigned) := match rest with
        | '-' :: r => (true, r)
        | '+' :: r => (false, r)
        | r => (false, r)
      let (digits, rest') := unsigned.span (·.isDigit)
      if digits.isEmpty then (none, t)
      else
        let n : Int := natOfDigits digits
        (some (if negative then -n else n), rest')
    else (none, t)
  | [] => (none, t)

def namedFloats : List (Text × Float) :=
  [("inf", 1.0 / 0.0), ("infinity", 1.0 / 0.0), ("nan", 0.0 / 0.0)]

def unsignedSpelled? (t : Text) : Option Float :=
  match namedFloats.find? (·.1 == t.map Char.toLower) with
  | some (_, x) => some x
  | none =>
    let (whole, rest) := t.span (·.isDigit)
    let (frac, rest) := match rest with
      | '.' :: more => more.span (·.isDigit)
      | more => ([], more)
    let (power?, rest) := power rest
    if (whole ++ frac).isEmpty || !rest.isEmpty then none
    else some (toFloat ⟨natOfDigits (whole ++ frac), power?.getD 0 - frac.length⟩)

def spelled? : Text → Option Float
  | '-' :: rest => (unsignedSpelled? rest).map (- ·)
  | '+' :: rest => unsignedSpelled? rest
  | t => unsignedSpelled? t

end Decimal

def Text.ofFloat (x : Float) : Text :=
  if x.isNaN then "nan"
  else
    let bits := x.toBits.toNat
    let sign : Text := if Nat.pow 2 63 ≤ bits then "-" else []
    if x.isInf then sign ++ "inf" else sign ++ Decimal.textOfBits (bits % Nat.pow 2 63)

end DdlAtlas
