import DdlAtlas.Yaml.Disorder

/-! Bytes that are written as text. Four characters of an alphabet of 64 stand for three bytes; at the end
two or three of them stand for one or two bytes and are filled up to four with equals signs. Other
characters are passed over, and so is all that follows the end. -/

namespace DdlAtlas.Yaml

def digit64? (c : Char) : Option Nat :=
  if 'A' ≤ c ∧ c ≤ 'Z' then some (c.toNat - 'A'.toNat)
  else if 'a' ≤ c ∧ c ≤ 'z' then some (c.toNat - 'a'.toNat + 26)
  else if c.isDigit then some (c.toNat - '0'.toNat + 52)
  else if c = '+' then some 62
  else if c = '/' then some 63
  else none

/-- Where a reader stands among four characters: how many of them are read, the bits that are left of them,
and how many equals signs have followed. -/
structure Quartet where
  count : Nat
  bits : Nat
  signs : Nat

def Quartet.start : Quartet :=
  ⟨0, 0, 0⟩

def Quartet.step (q : Quartet) (d : Nat) : List UInt8 × Quartet :=
  match q.count with
  | 0 => ([], ⟨1, d, 0⟩)
  | 1 => ([UInt8.ofNat (q.bits * 4 + d / 16)], ⟨2, d % 16, 0⟩)
  | 2 => ([UInt8.ofNat (q.bits * 16 + d / 4)], ⟨3, d % 4, 0⟩)
  | _ => ([UInt8.ofNat (q.bits * 64 + d)], .start)

def bytesFrom (groups : Nat) (q : Quartet) : Text → Except BinaryDisorder (List UInt8)
  | [] =>
    if q.count = 0 then .ok [] else if q.count = 1 then .error (.single groups) else .error .padding
  | c :: rest =>
    if c = '=' then
      if q.count < 2 then bytesFrom groups q rest
      else if 4 ≤ q.count + q.signs + 1 then .ok []
      else bytesFrom groups { q with signs := q.signs + 1 } rest
    else match digit64? c with
      | none => bytesFrom groups q rest
      | some d =>
        let (bytes, next) := q.step d
        (bytesFrom (if q.count = 3 then groups + 1 else groups) next rest).map (bytes ++ ·)

def bytesOf (t : Text) : Except BinaryDisorder (List UInt8) :=
  if t.any Text.beyondAscii then .error (.notAscii t) else bytesFrom 0 .start t

end DdlAtlas.Yaml
