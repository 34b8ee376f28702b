import DdlAtlas.Decimal
import DdlAtlas.Json.Basic

/-! Writing data values: on one line, or over indented lines with every character outside ASCII
escaped. -/

namespace DdlAtlas.Json

def hex4 (n : Nat) : Text :=
  Text.padLeft 4 '0' (Nat.toDigits 16 n)

def unitEscape (c : Char) : Text :=
  let n := c.toNat
  if n < 0x10000 then "\\u" ++ hex4 n
  else
    let m := n - 0x10000
    .concat ["\\u", hex4 (0xd800 + m / 0x400), "\\u", hex4 (0xdc00 + m % 0x400)]

def writeChar (ascii : Bool) (c : Char) : Text :=
  if c = '"' then "\\\""
  else if c = '\\' then "\\\\"
  else if c = '\n' then "\\n"
  else if c = '\r' then "\\r"
  else if c = '\t' then "\\t"
  else if c = '\x08' then "\\b"
  else if c = '\x0c' then "\\f"
  else if c.val < 32 ∨ (ascii ∧ 127 ≤ c.val) then unitEscape c
  else [c]

def quote (ascii : Bool) (t : Text) : Text :=
  '"' :: t.flatMap (writeChar ascii) ++ ['"']

def writeFloat (x : Float) : Text :=
  if x.isNaN then "NaN"
  else if x.isInf then (if x < 0.0 then "-Infinity" else "Infinity")
  else Text.ofFloat x

def writeScalar (ascii : Bool) : Json → Text
  | .null => "null"
  | .bool true => "true"
  | .bool false => "false"
  | .int n => .ofInt n
  | .float x => writeFloat x
  | .str t => quote ascii t
  | .torn points => quote ascii (points.map charOf)
  | .underTorn .. => []
  | .arr _ => "[]"
  | .obj _ => "\x7b\x7d"

mutual

def compact : Json → Text
  | .underTorn _ v => compact v
  | .arr items => '[' :: compactItems items ++ [']']
  | .obj fields => '\x7b' :: compactFields fields ++ ['\x7d']
  | v => writeScalar false v

def compactItems : List Json → Text
  | [] => []
  | [v] => compact v
  | v :: w :: rest => compact v ++ ',' :: compactItems (w :: rest)

def compactFields : List (Text × Json) → Text
  | [] => []
  | [(k, v)] => quote false k ++ ':' :: compact v
  | (k, v) :: f :: rest => quote false k ++ ':' :: (compact v ++ ',' :: compactFields (f :: rest))

end

def newLine (depth : Nat) : Text :=
  '\n' :: List.replicate (2 * depth) ' '

mutual

def indented (depth : Nat) : Json → Text
  | .underTorn _ v => indented depth v
  | .arr (v :: items) =>
    .concat ["[", newLine (depth + 1), indentedItems (depth + 1) (v :: items), newLine depth, "]"]
  | .obj (f :: fields) =>
    .concat ["\x7b", newLine (depth + 1), indentedFields (depth + 1) (f :: fields),
      newLine depth, "\x7d"]
  | v => writeScalar true v

def indentedItems (depth : Nat) : List Json → Text
  | [] => []
  | [v] => indented depth v
  | v :: w :: rest =>
    indented depth v ++ ',' :: (newLine depth ++ indentedItems depth (w :: rest))

def indentedFields (depth : Nat) : List (Text × Json) → Text
  | [] => []
  | [(k, v)] => quote true k ++ ':' :: ' ' :: indented depth v
  | (k, v) :: f :: rest =>
    quote true k ++ ':' :: ' ' ::
      (indented depth v ++ ',' :: (newLine depth ++ indentedFields depth (f :: rest)))

end

end DdlAtlas.Json
