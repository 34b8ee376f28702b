import DdlAtlas.Text.Basic

/-! Text as bytes. Writing gives each character its one to four bytes. Reading with replacement never fails:
every longest front of a character that no further byte completes becomes one replacement character. Strict
reading stops there instead. -/

namespace DdlAtlas.Text

def charBytes (c : Char) : List UInt8 :=
  let n := c.toNat
  let tail (unit : Nat) : UInt8 := UInt8.ofNat (0x80 + n / unit % 64)
  if n < 0x80 then [UInt8.ofNat n]
  else if n < 0x800 then [UInt8.ofNat (0xc0 + n / 64), tail 1]
  else if n < 0x10000 then [UInt8.ofNat (0xe0 + n / 4096), tail 64, tail 1]
  else [UInt8.ofNat (0xf0 + n / 262144), tail 4096, tail 64, tail 1]

def toBytes (t : Text) : List UInt8 :=
  t.flatMap charBytes

/-- A character of which some bytes are read: its bits so far, the number of bytes still to come, and
the range of the next one. -/
structure Partial where
  bits : Nat
  left : Nat
  least : Nat
  most : Nat

def partialOf? (b : Nat) : Option Partial :=
  if 0xc2 ≤ b ∧ b ≤ 0xdf then some ⟨b - 0xc0, 1, 0x80, 0xbf⟩
  else if b = 0xe0 then some ⟨0, 2, 0xa0, 0xbf⟩
  else if b = 0xed then some ⟨13, 2, 0x80, 0x9f⟩
  else if 0xe1 ≤ b ∧ b ≤ 0xef then some ⟨b - 0xe0, 2, 0x80, 0xbf⟩
  else if b = 0xf0 then some ⟨0, 3, 0x90, 0xbf⟩
  else if b = 0xf4 then some ⟨4, 3, 0x80, 0x8f⟩
  else if 0xf1 ≤ b ∧ b ≤ 0xf3 then some ⟨b - 0xf0, 3, 0x80, 0xbf⟩
  else none

def replacement : Char := '\ufffd'

def firstByte (b : Nat) : Text × Option Partial :=
  if b < 0x80 then ([Char.ofNat b], none)
  else match partialOf? b with
    | some p => ([], some p)
    | none => ([replacement], none)

def nextByte (p : Partial) (b : Nat) : Text × Option Partial :=
  if p.least ≤ b ∧ b ≤ p.most then
    let bits := p.bits * 64 + (b - 0x80)
    if p.left = 1 then ([Char.ofNat bits], none) else ([], some ⟨bits, p.left - 1, 0x80, 0xbf⟩)
  else
    let (read, begun) := firstByte b
    (replacement :: read, begun)

def ofBytesFrom : Option Partial → List UInt8 → Text
  | none, [] => []
  | some _, [] => [replacement]
  | begun, b :: rest =>
    let (read, begun') := match begun with
      | none => firstByte b.toNat
      | some p => nextByte p b.toNat
    read ++ ofBytesFrom begun' rest

def ofBytes (bytes : List UInt8) : Text :=
  ofBytesFrom none bytes

inductive ByteReason
  | first
  | next
  | cut
deriving DecidableEq, Repr

structure ByteFault where
  position : Nat
  bytes : List UInt8
  reason : ByteReason
deriving DecidableEq, Repr

def ByteReason.message : ByteReason → Text
  | .first => "invalid start byte"
  | .next => "invalid continuation byte"
  | .cut => "unexpected end of data"

def ByteFault.message (f : ByteFault) : Text :=
  .concat ["'utf-8' codec can't decode ",
    match f.bytes with
    | [b] =>
      .concat ["byte 0x", padLeft 2 '0' (Nat.toDigits 16 b.toNat), " in position ",
        .ofNat f.position]
    | bytes =>
      .concat ["bytes in position ", .ofNat f.position, "-",
        .ofNat (f.position + bytes.length - 1)],
    ": ", f.reason.message]

/-- The text of bytes behind a position and the first bytes of a character. An end inside a character is
counted from its first byte. -/
def readBytesFrom (position : Nat) (held : List UInt8) :
    Option Partial → List UInt8 → Except ByteFault Text
  | none, [] => .ok []
  | some _, [] => .error ⟨0, held, .cut⟩
  | none, b :: rest =>
    if b.toNat < 0x80 then (readBytesFrom (position + 1) [] none rest).map (Char.ofNat b.toNat :: ·)
    else match partialOf? b.toNat with
      | some p => readBytesFrom position [b] (some p) rest
      | none => .error ⟨position, [b], .first⟩
  | some p, b :: rest =>
    if p.least ≤ b.toNat ∧ b.toNat ≤ p.most then
      let bits := p.bits * 64 + (b.toNat - 0x80)
      if p.left = 1 then
        (readBytesFrom (position + held.length + 1) [] none rest).map (Char.ofNat bits :: ·)
      else readBytesFrom position (held ++ [b]) (some ⟨bits, p.left - 1, 0x80, 0xbf⟩) rest
    else .error ⟨position, held, .next⟩

def readBytes (bytes : List UInt8) : Except ByteFault Text :=
  readBytesFrom 0 [] none bytes

end DdlAtlas.Text
