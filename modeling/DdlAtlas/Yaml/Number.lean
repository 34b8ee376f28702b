import DdlAtlas.Decimal
import DdlAtlas.Text.Letter
import DdlAtlas.Text.Numeral
import DdlAtlas.Yaml.Fault

/-! The numbers that scalars spell. Underscores do not count. A whole number may be in base two, eight or
sixteen, or in base sixty with colons between its digits; a fraction may be in base sixty too. -/

namespace DdlAtlas.Yaml

def wordIn (base : Nat) (t : Text) : Except Fault Int :=
  match Text.intOfWord? base t with
  | some n => .ok n
  | none =>
    let count := Text.digitCount t
    if base = 10 ∧ Text.mostDigits < count then .error (.tooManyDigits count)
    else .error (.notInt base t)

def unsignedInt (t : Text) : Except Fault Int :=
  match t with
  | [] => .error .emptyNumber
  | '0' :: 'b' :: digits => wordIn 2 digits
  | '0' :: 'x' :: digits => wordIn 16 digits
  | '0' :: _ => wordIn 8 t
  | _ =>
    if t.contains ':' then
      ((Text.cells ':' t).mapM (wordIn 10)).map fun ds => ds.foldl (fun n d => n * 60 + d) 0
    else wordIn 10 t

def intOf (t : Text) : Except Fault Int :=
  let (negative, body) := Text.splitSign (Text.without '_' t)
  (unsignedInt body).map fun n => if negative then -n else n

def decimalFloat (t : Text) : Except Fault Float :=
  match Decimal.spelled? (Text.plainWord t) with
  | some x => .ok x
  | none => .error (.notFloat t)

def sumOfSixties (digits : List Float) : Float :=
  (digits.foldl (fun (sum, weight) d => (sum + d * Float.ofNat weight, weight * 60)) (0.0, 1)).1

def unsignedFloat (t : Text) : Except Fault Float :=
  if t = ".inf" then .ok (1.0 / 0.0)
  else if t = ".nan" then .ok (0.0 / 0.0)
  else if t.contains ':' then
    ((Text.cells ':' t).mapM decimalFloat).map fun ds => sumOfSixties ds.reverse
  else decimalFloat t

def floatOf (t : Text) : Except Fault Float :=
  let spelling := Text.lower (Text.without '_' t)
  if spelling.isEmpty then .error .emptyNumber
  else
    let (negative, body) := Text.splitSign spelling
    (unsignedFloat body).map fun x => if negative then -x else x

end DdlAtlas.Yaml
