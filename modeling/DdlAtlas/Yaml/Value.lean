import DdlAtlas.Json.Basic

/-! The values of settings files: those of the data format, and bytes, sets, dates and pairs, which only a
settings file can write. Of dates, of pairs and of torn texts nothing more is told. The keys of a mapping
may be any values. -/

namespace DdlAtlas.Yaml

inductive Value
  | null
  | bool (b : Bool)
  | int (n : Int)
  | float (x : Float)
  | str (t : Text)
  | torn
  | bytes (given : List UInt8)
  | other
  | list (items : List Value)
  | set (items : List Value)
  | mapping (fields : List (Value × Value))
deriving Inhabited

namespace Value

def keyOf (key : Text) (v : Json) : Value :=
  if v.tornKey?.isSome then .torn else .str key

mutual

def ofJson : Json → Value
  | .null => .null
  | .bool b => .bool b
  | .int n => .int n
  | .float x => .float x
  | .str t => .str t
  | .torn _ => .torn
  | .underTorn _ v => ofJson v
  | .arr items => .list (ofItems items)
  | .obj fields => .mapping (ofFields fields)

def ofItems : List Json → List Value
  | [] => []
  | v :: rest => ofJson v :: ofItems rest

def ofFields : List (Text × Json) → List (Value × Value)
  | [] => []
  | (k, v) :: rest => (keyOf k v, ofJson v) :: ofFields rest

end

def isText (t : Text) : Value → Bool
  | .str s => s == t
  | _ => false

def field? (fields : List (Value × Value)) (key : Text) : Option Value :=
  (fields.reverse.find? (·.1.isText key)).map (·.2)

def isVoid : Value → Bool
  | .null => true
  | .bool b => !b
  | .int n => n == 0
  | .float x => x == 0.0
  | .str t => t.isEmpty
  | .bytes given => given.isEmpty
  | .torn | .other => false
  | .list items | .set items => items.isEmpty
  | .mapping fields => fields.isEmpty

end Value

end DdlAtlas.Yaml
