import DdlAtlas.Text.Basic

/-! Paths in normal form: a root, which is empty for a relative path, and the parts behind it. Empty parts
and single points vanish; double points stay, since what they lead to depends on the folders. -/

namespace DdlAtlas

structure Path where
  root : Text
  parts : List Text
deriving DecidableEq, Repr

namespace Path

/-- The root in front of a text: two slashes are a root of their own, any other number is one. -/
def rootOf (t : Text) : Text :=
  match (t.takeWhile (· == '/')).length with
  | 0 => []
  | 2 => "//"
  | _ => "/"

def ofText (t : Text) : Path :=
  ⟨rootOf t, (Text.cells '/' t).filter fun part => part != [] && part != ['.']⟩

def toText (p : Path) : Text :=
  if p.root.isEmpty && p.parts.isEmpty then "." else p.root ++ Text.join "/" p.parts

def extend (p : Path) (t : Text) : Path :=
  let q := ofText t
  if q.root.isEmpty then ⟨p.root, p.parts ++ q.parts⟩ else q

def name (p : Path) : Text :=
  p.parts.getLastD []

/-- The name of a file before and from the point of its suffix on. A point at either end of a name
starts no suffix. -/
def splitSuffix (name : Text) : Text × Text :=
  let back := name.reverse.takeWhile (· != '.')
  let stem := name.take (name.length - back.length - 1)
  if back.length = name.length || back.isEmpty || stem.isEmpty then (name, [])
  else (stem, '.' :: back.reverse)

def stem (name : Text) : Text :=
  (splitSuffix name).1

def suffix (name : Text) : Text :=
  (splitSuffix name).2

end Path

end DdlAtlas
