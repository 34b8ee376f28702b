import DdlAtlas.Text.Basic

/-! Host names in letters of any script, written in ASCII. The ASCII letters come first; behind a hyphen the
others follow in the order of their code points, each as the number of steps from the one before, in digits
of base 36 whose thresholds adapt to what has been written. -/

namespace DdlAtlas.Punycode

def digitChar (d : Nat) : Char :=
  if d < 26 then Char.ofNat (97 + d) else Char.ofNat (22 + d)

def digitValue? (c : Char) : Option Nat :=
  if c.isLower then some (c.toNat - 97)
  else if c.isUpper then some (c.toNat - 65)
  else if c.isDigit then some (c.toNat - 22)
  else none

/-- The threshold of a digit, counted from one: at a digit below it a number ends. -/
def threshold (place bias : Nat) : Nat :=
  max 1 (min 26 (36 * place - bias))

def scaled : Nat → Nat → Nat × Nat
  | 0, delta => (delta, 0)
  | steps + 1, delta =>
    if 455 < delta then
      let (rest, divisions) := scaled steps (delta / 35)
      (rest, divisions + 1)
    else (delta, 0)

def adapted (delta : Nat) (first : Bool) (length : Nat) : Nat :=
  let damped := if first then delta / 700 else delta / 2
  let (rest, divisions) := scaled delta (damped + damped / length)
  divisions * 36 + 36 * rest / (rest + 38)

def digits (bias : Nat) : Nat → Nat → Nat → Text
  | 0, _, n => [digitChar (n % 36)]
  | count + 1, place, n =>
    let t := threshold place bias
    if n < t then [digitChar n]
    else digitChar (t + (n - t) % (36 - t)) :: digits bias count (place + 1) ((n - t) / (36 - t))

/-- A label while its letters are written: what is written, the steps since the last letter, the bias, and
how many letters are placed. -/
structure Writing where
  written : Text
  delta : Nat
  bias : Nat
  placed : Nat

def Writing.at (w : Writing) (basic point : Nat) (c : Char) : Writing :=
  if c.toNat < point then { w with delta := w.delta + 1 }
  else if c.toNat = point then
    ⟨w.written ++ digits w.bias (w.delta + 1) 1 w.delta, 0,
      adapted w.delta (w.placed == basic) (w.placed + 1), w.placed + 1⟩
  else w

def Writing.along (label : Text) (basic : Nat) : Writing → Nat → List Nat → Writing
  | w, _, [] => w
  | w, next, point :: rest =>
    let w := { w with delta := w.delta + (point - next) * (w.placed + 1) }
    let w := label.foldl (fun w c => w.at basic point c) w
    Writing.along label basic { w with delta := w.delta + 1 } (point + 1) rest

def encode (label : Text) : Text :=
  let basic := label.filter (·.val < 128)
  let points := ((label.filter (128 ≤ ·.val)).map Char.toNat).eraseDups.mergeSort
  let w := Writing.along label basic.length ⟨[], 0, 72, basic.length⟩ 128 points
  basic ++ Text.whenSet (!basic.isEmpty) "-" ++ w.written

def number? (bias : Nat) : Nat → Nat → Text → Option (Nat × Text)
  | _, _, [] => none
  | place, weight, c :: rest =>
    match digitValue? c with
    | none => none
    | some d =>
      let t := threshold place bias
      if d < t then some (d * weight, rest)
      else (number? bias (place + 1) (weight * (36 - t)) rest).map fun (n, r) => (d * weight + n, r)

def placed? : Nat → Text → Nat → Nat → Nat → Bool → Text → Option Text
  | _, label, _, _, _, _, [] => some label
  | 0, _, _, _, _, _, _ => none
  | count + 1, label, point, place, bias, first, t =>
    (number? bias 1 1 t).bind fun (delta, rest) =>
      let length := label.length + 1
      let point := point + (place + delta) / length
      let place := (place + delta) % length
      if h : point.isValidChar then
        let label := label.take place ++ Char.ofNatAux point h :: label.drop place
        placed? count label point (place + 1) (adapted delta first length) false rest
      else none

def decode? (t : Text) : Option Text :=
  let back := t.reverse.takeWhile (· != '-')
  let basic := t.take (t.length - back.length - 1)
  placed? (t.length + 1) basic 128 0 72 true back.reverse

end DdlAtlas.Punycode
