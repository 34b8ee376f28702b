import DdlAtlas.Json.Reader
import DdlAtlas.Text.Utf8

/-! The text of bytes that hold a data value. A mark of the byte order at the front tells the form of the
characters. Without one, since a value begins with a character of ASCII, zeros among the first bytes tell that
every character takes two or four bytes, and in which order; other bytes take the usual form. In every form
half of a surrogate pair can be written, though no text holds one. -/

namespace DdlAtlas.Json

structure WideForm where
  width : Nat
  highFirst : Bool
deriving DecidableEq, Repr

inductive ByteForm
  | wide (form : WideForm)
  | usual
deriving DecidableEq, Repr

def byteMarks : List (List UInt8 × ByteForm) :=
  [([0x00, 0x00, 0xfe, 0xff], .wide ⟨4, true⟩), ([0xff, 0xfe, 0x00, 0x00], .wide ⟨4, false⟩),
    ([0xfe, 0xff], .wide ⟨2, true⟩), ([0xff, 0xfe], .wide ⟨2, false⟩), ([0xef, 0xbb, 0xbf], .usual)]

def ByteForm.ofZeros : List UInt8 → ByteForm
  | [a, b] =>
    if a = 0 then .wide ⟨2, true⟩ else if b = 0 then .wide ⟨2, false⟩ else .usual
  | a :: b :: c :: d :: _ =>
    if a = 0 then .wide ⟨if b = 0 then 4 else 2, true⟩
    else if b = 0 then .wide ⟨if c = 0 ∧ d = 0 then 4 else 2, false⟩
    else .usual
  | _ => .usual

def ByteForm.of (bytes : List UInt8) : ByteForm × List UInt8 :=
  match byteMarks.find? fun (mark, _) => mark.isPrefixOf bytes with
  | some (mark, form) => (form, bytes.drop mark.length)
  | none => (.ofZeros bytes, bytes)

def numberOf (bytes : List UInt8) : Nat :=
  bytes.foldl (fun n b => n * 256 + b.toNat) 0

/-- The units of bytes behind those of a unit that has begun, the latest first, unless the last one is cut. -/
def WideForm.units (form : WideForm) (begun : List UInt8) : List UInt8 → Option (List Nat)
  | [] => if begun.isEmpty then some [] else none
  | b :: rest =>
    let begun := b :: begun
    if begun.length = form.width then
      let unit := numberOf (if form.highFirst then begun.reverse else begun)
      (form.units [] rest).map (unit :: ·)
    else form.units begun rest

def joinHalves : List Nat → List Nat
  | high :: low :: rest =>
    if 0xd800 ≤ high ∧ high < 0xdc00 ∧ 0xdc00 ≤ low ∧ low < 0xe000 then
      (0x10000 + (high - 0xd800) * 0x400 + (low - 0xdc00)) :: joinHalves rest
    else high :: joinHalves (low :: rest)
  | units => units

def WideForm.points? (form : WideForm) (bytes : List UInt8) : Option (List Nat) :=
  (form.units [] bytes).bind fun units =>
    if form.width = 2 then some (joinHalves units)
    else if units.all (· < 0x110000) then some units
    else none

def partialOf? (b : Nat) : Option Text.Partial :=
  if b = 0xed then some ⟨13, 2, 0x80, 0xbf⟩ else Text.partialOf? b

/-- The code points of bytes in the usual form, behind those of a character that has begun. -/
def usualPoints? : Option Text.Partial → List UInt8 → Option (List Nat)
  | none, [] => some []
  | some _, [] => none
  | none, b :: rest =>
    if b.toNat < 0x80 then (usualPoints? none rest).map (b.toNat :: ·)
    else match partialOf? b.toNat with
      | some p => usualPoints? (some p) rest
      | none => none
  | some p, b :: rest =>
    if p.least ≤ b.toNat ∧ b.toNat ≤ p.most then
      let bits := p.bits * 64 + (b.toNat - 0x80)
      if p.left = 1 then (usualPoints? none rest).map (bits :: ·)
      else usualPoints? (some ⟨bits, p.left - 1, 0x80, 0xbf⟩) rest
    else none

def ByteForm.points? (bytes : List UInt8) : ByteForm → Option (List Nat)
  | .wide form => form.points? bytes
  | .usual => usualPoints? none bytes

def sent? (bytes : List UInt8) : Option Sent :=
  let (form, rest) := ByteForm.of bytes
  (form.points? rest).map .ofPoints

end DdlAtlas.Json
