import DdlAtlas.Json.Writer

/-! Where a value cannot be written as bytes: at the halves of surrogate pairs, which have none. A value
without such a place is whole. -/

namespace DdlAtlas.Json

structure Tear where
  position : Nat
  halves : List Nat
deriving DecidableEq, Repr

def Tear.ofPoints (behind : Nat) (points : List Nat) : Tear :=
  let front := points.takeWhile (!isHalf ·)
  ⟨behind + 1 + (front.flatMap fun n => writeChar false (charOf n)).length,
    (points.drop front.length).takeWhile isHalf⟩

def Tear.upToKey (behind : Nat) (key : Text) (v : Json) : Except Tear Nat :=
  match v.tornKey? with
  | some points => .error (.ofPoints behind points)
  | none => .ok (behind + (quote false key).length)

mutual

/-- The first tear in a value that is written behind a number of characters, or the number of characters up
to its end. -/
def upToTear (behind : Nat) : Json → Except Tear Nat
  | .arr items => (itemsUpToTear (behind + 1) items).map (· + 1)
  | .obj fields => (fieldsUpToTear (behind + 1) fields).map (· + 1)
  | .torn points => .error (.ofPoints behind points)
  | .underTorn _ v => upToTear behind v
  | v => .ok (behind + (writeScalar false v).length)

def itemsUpToTear (behind : Nat) : List Json → Except Tear Nat
  | [] => .ok behind
  | [v] => upToTear behind v
  | v :: w :: rest => (upToTear behind v).bind fun n => itemsUpToTear (n + 1) (w :: rest)

def fieldsUpToTear (behind : Nat) : List (Text × Json) → Except Tear Nat
  | [] => .ok behind
  | [(k, v)] => (Tear.upToKey behind k v).bind fun n => upToTear (n + 1) v
  | (k, v) :: f :: rest =>
    (Tear.upToKey behind k v).bind fun n =>
      (upToTear (n + 1) v).bind fun n => fieldsUpToTear (n + 1) (f :: rest)

end

def tear? (v : Json) : Option Tear :=
  match upToTear 0 v with
  | .error tear => some tear
  | .ok _ => none

end DdlAtlas.Json
