/-! A text is the list of its characters, so that every scan over it is a recursion on data. Lengths
and cuts count characters. Large sets of characters are given by the edges of their ranges: a character is in
the set when an odd number of edges lie at or below it. -/

namespace DdlAtlas

abbrev Text := List Char

instance : Coe String Text := ⟨String.toList⟩

namespace Text

def concat (parts : List Text) : Text :=
  parts.flatten

def join (separator : Text) : List Text → Text
  | [] => []
  | [t] => t
  | t :: rest => t ++ separator ++ join separator rest

def cells (separator : Char) : Text → List Text
  | [] => [[]]
  | c :: rest =>
    if c = separator then [] :: cells separator rest
    else (cells separator rest).modifyHead (c :: ·)

def behind? : Text → Text → Option Text
  | [], t => some t
  | p :: part, c :: rest => if p = c then behind? part rest else none
  | _ :: _, [] => none

def startsWith (t part : Text) : Bool :=
  (behind? part t).isSome

def endsWith (t part : Text) : Bool :=
  startsWith t.reverse part.reverse

def hasPart (part : Text) : Text → Bool
  | [] => part.isEmpty
  | c :: rest => startsWith (c :: rest) part || hasPart part rest

def without (c : Char) (t : Text) : Text :=
  t.filter (· != c)

def whenSet (flag : Bool) (t : Text) : Text :=
  if flag then t else []

def ofNat (n : Nat) : Text :=
  (Nat.repr n).toList

def ofInt (n : Int) : Text :=
  if n < 0 then '-' :: ofNat n.natAbs else ofNat n.natAbs

def padRight (width : Nat) (t : Text) : Text :=
  t ++ List.replicate (width - t.length) ' '

def padLeft (width : Nat) (fill : Char) (t : Text) : Text :=
  List.replicate (width - t.length) fill ++ t

def le : Text → Text → Bool
  | [], _ => true
  | _ :: _, [] => false
  | a :: s, b :: t => if a = b then le s t else decide (a < b)

def sorted (ts : List Text) : List Text :=
  ts.mergeSort le

def distinct (ts : List Text) : List Text :=
  ts.foldl (fun seen t => if seen.contains t then seen else seen ++ [t]) []

/-- The ascending edges of a union of ranges: the first opens a range, the second closes it. -/
structure EdgeTable where
  edges : Array Nat

def EdgeTable.countBetween (t : EdgeTable) (n : Nat) : Nat → Nat → Nat → Nat
  | 0, lo, _ => lo
  | steps + 1, lo, hi =>
    if lo < hi then
      let mid := (lo + hi) / 2
      if t.edges.getD mid 0 ≤ n then t.countBetween n steps (mid + 1) hi
      else t.countBetween n steps lo mid
    else lo

def EdgeTable.countUpTo (t : EdgeTable) (n : Nat) : Nat :=
  t.countBetween n t.edges.size 0 t.edges.size

def EdgeTable.contains (t : EdgeTable) (c : Char) : Bool :=
  t.countUpTo c.toNat % 2 == 1

def EdgeTable.rangeStart (t : EdgeTable) (c : Char) : Nat :=
  t.edges.getD (t.countUpTo c.toNat - 1) 0

end Text

end DdlAtlas
