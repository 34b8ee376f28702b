import DdlAtlas.Json.Reader
import DdlAtlas.Pattern.Search
import DdlAtlas.Text.Basic

/-! Addresses of machines as numbers: four decimal numbers with points between them, or eight hexadecimal
ones with colons, where two colons in a row stand for the zeros that are left out. -/

namespace DdlAtlas.Url

open Pattern in
def numericShape : Pattern :=
  let digits := run1 Char.isDigit
  let any := one fun c => c != '\n'
  sequence [digits, any, digits, any, digits, any, digits, textEnd]

def isOctet (t : Text) : Bool :=
  !t.isEmpty && t.all Char.isDigit && t.length ≤ 3 && (t == ['0'] || t.head? != some '0')
    && Decimal.natOfDigits t ≤ 255

def isIpv4 (t : Text) : Bool :=
  let cells := Text.cells '.' t
  cells.length == 4 && cells.all isOctet

def isHextet (t : Text) : Bool :=
  !t.isEmpty && t.length ≤ 4 && t.all (Json.hexDigit? · |>.isSome)

def ipv6Parts? (t : Text) : Option (List Text) :=
  let parts := Text.cells ':' t
  let last := parts.getLastD []
  if parts.length < 3 then none
  else if !last.contains '.' then some parts
  else if isIpv4 last then some (parts.dropLast ++ [['0'], ['0']])
  else none

/-- The parts before and behind the only gap, which is an empty part that is neither first nor last. An
empty part at an end has to stand beside the gap. -/
def besideGap? (parts : List Text) : Option (List Text) :=
  let inner := (parts.drop 1).dropLast
  let before := (parts.take 1) ++ inner.takeWhile (!·.isEmpty)
  let behind := parts.drop (before.length + 1)
  let front := if before.head? == some [] then before.drop 1 else before
  let back := if behind.getLast? == some [] then behind.dropLast else behind
  if (inner.filter (·.isEmpty)).length != 1 then none
  else if front.length < before.length && !front.isEmpty then none
  else if back.length < behind.length && !back.isEmpty then none
  else if 7 < front.length + back.length then none
  else some (front ++ back)

def isIpv6Number (t : Text) : Bool :=
  match ipv6Parts? t with
  | none => false
  | some parts =>
    if 9 < parts.length then false
    else if ((parts.drop 1).dropLast).any (·.isEmpty) then (besideGap? parts).any (·.all isHextet)
    else parts.length == 8 && parts.all isHextet

/-- An address of the longer kind, possibly with the name of a zone behind a percent sign. -/
def isIpv6 (t : Text) : Bool :=
  match t.span (· != '%') with
  | (number, []) => isIpv6Number number
  | (number, _ :: zone) => !zone.isEmpty && !zone.contains '%' && isIpv6Number number

end DdlAtlas.Url
