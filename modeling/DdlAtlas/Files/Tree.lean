import DdlAtlas.Files.Moment
import DdlAtlas.Files.Path
import DdlAtlas.Text.Utf8

/-! Files and folders as a value, below a root folder that is always there. A path without a root of its own
is followed from the working folder. A path is followed part by part: every part but the last has to be a
folder, and no part may be longer than 255 bytes. -/

namespace DdlAtlas

structure File where
  bytes : List UInt8
  modified : Moment

inductive Node
  | file (f : File)
  | folder

/-- Files and folders by their parts below the root, and the parts of the working folder. -/
structure Tree where
  working : List Text
  entries : List (List Text × Node)

inductive Destination
  | nowhere
  | tooLong
  | file (f : File)
  | folder (parts : List Text)

namespace Tree

def at? (t : Tree) (parts : List Text) : Option Node :=
  if parts.isEmpty then some .folder else (t.entries.find? (·.1 == parts)).map (·.2)

def byteCount (name : Text) : Nat :=
  (Text.toBytes name).length

def follow (t : Tree) (here : List Text) : List Text → Destination
  | [] =>
    match t.at? here with
    | none => .nowhere
    | some (.file f) => .file f
    | some .folder => .folder here
  | part :: rest =>
    match t.at? here with
    | some .folder =>
      if part = ".." then t.follow here.dropLast rest
      else if 255 < byteCount part then .tooLong
      else t.follow (here ++ [part]) rest
    | _ => .nowhere

def start (t : Tree) (p : Path) : List Text :=
  if p.root.isEmpty then t.working else []

/-- Where a path leads. A path with a NUL in it leads nowhere, and the whole text of a path may not reach
4096 bytes. -/
def find (t : Tree) (p : Path) : Destination :=
  if p.parts.any (·.contains '\x00') then .nowhere
  else if 4096 ≤ byteCount p.toText then .tooLong
  else t.follow (t.start p) p.parts

def filesIn (t : Tree) (parts : List Text) : List (Text × File) :=
  t.entries.filterMap fun (place, node) =>
    match node with
    | .file f => if place.dropLast == parts && place != [] then some (place.getLastD [], f) else none
    | .folder => none

def placeFrom (here : List Text) : List Text → List Text
  | [] => here
  | part :: rest => placeFrom (if part = ".." then here.dropLast else here ++ [part]) rest

def place (t : Tree) (p : Path) : List Text :=
  placeFrom (t.start p) p.parts

def put (t : Tree) (place : List Text) (node : Node) : Tree :=
  { t with entries := t.entries.filter (·.1 != place) ++ [(place, node)] }

def addFolder (t : Tree) (place : List Text) : Tree :=
  if (t.at? place).isSome then t else t.put place .folder

def addFolders (t : Tree) (here : List Text) : List Text → Tree
  | [] => t
  | part :: rest =>
    if part = ".." then t.addFolders here.dropLast rest
    else (t.addFolder (here ++ [part])).addFolders (here ++ [part]) rest

def makeFolder (t : Tree) (p : Path) : Tree :=
  t.addFolders (t.start p) p.parts

def write (t : Tree) (p : Path) (f : File) : Tree :=
  (t.addFolders (t.start p) p.parts.dropLast).put (t.place p) (.file f)

def remove (t : Tree) (p : Path) : Tree :=
  { t with entries := t.entries.filter fun e => !(t.place p).isPrefixOf e.1 }

def ofWorking (working : List Text) : Tree :=
  (⟨working, []⟩ : Tree).addFolders [] working

end Tree

end DdlAtlas
