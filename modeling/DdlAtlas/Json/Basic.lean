import DdlAtlas.Text.Basic

/-! Values of the data format in which requests, answers and settings are exchanged. Whole numbers and
doubles are kept apart, and the fields of an object stay in the order in which they were first set. A text
that holds half of a surrogate pair is torn: it is a value of its own, made of code points, but it stands
for no text. A field under a torn key has these code points with its value, and a text with stand-ins in the
place of the key. -/

namespace DdlAtlas

inductive Json
  | null
  | bool (b : Bool)
  | int (n : Int)
  | float (x : Float)
  | str (t : Text)
  | torn (points : List Nat)
  | underTorn (key : List Nat) (v : Json)
  | arr (items : List Json)
  | obj (fields : List (Text × Json))
deriving Inhabited

namespace Json

def isHalf (point : Nat) : Bool :=
  0xd800 ≤ point && point < 0xe000

def standIn : Char := '\ufffd'

def charOf (point : Nat) : Char :=
  if isHalf point then standIn else Char.ofNat point

def tornKey? : Json → Option (List Nat)
  | .underTorn key _ => some key
  | _ => none

/-- The fields with one of them set. A field that is there already keeps its place. -/
def setField (key : Text) (value : Json) : List (Text × Json) → List (Text × Json)
  | [] => [(key, value)]
  | (k, v) :: rest =>
    if k = key ∧ v.tornKey? = value.tornKey? then (k, value) :: rest
    else (k, v) :: setField key value rest

def field? (key : Text) (fields : List (Text × Json)) : Option Json :=
  (fields.find? fun f => f.1 == key && f.2.tornKey?.isNone).map (·.2)

def get? (v : Json) (key : Text) : Option Json :=
  match v with
  | .obj fields => field? key fields
  | _ => none

/-- A value that counts as absent: null, false, a zero, or something empty. -/
def isVoid : Json → Bool
  | .null => true
  | .bool b => !b
  | .int n => n == 0
  | .float x => x == 0.0
  | .str t => t.isEmpty
  | .torn points => points.isEmpty
  | .underTorn .. => false
  | .arr items => items.isEmpty
  | .obj fields => fields.isEmpty

mutual

def allScalars (p : Json → Bool) : Json → Bool
  | .underTorn key v => p (.torn key) && v.allScalars p
  | .arr items => allItems p items
  | .obj fields => allFields p fields
  | v => p v

def allItems (p : Json → Bool) : List Json → Bool
  | [] => true
  | v :: rest => v.allScalars p && allItems p rest

def allFields (p : Json → Bool) : List (Text × Json) → Bool
  | [] => true
  | (_, v) :: rest => v.allScalars p && allFields p rest

end

def isFinite (v : Json) : Bool :=
  v.allScalars fun
    | .float x => x.isFinite
    | _ => true

def isWhole (v : Json) : Bool :=
  v.allScalars fun
    | .torn _ => false
    | _ => true

def ofText? : Option Text → Json
  | some t => .str t
  | none => .null

def ofTexts (ts : List Text) : Json :=
  .arr (ts.map .str)

end Json

end DdlAtlas
