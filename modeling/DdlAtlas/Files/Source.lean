import DdlAtlas.Files.Tree
import DdlAtlas.Json.Basic
import DdlAtlas.Schema.Assembly
import DdlAtlas.Text.Lines
import DdlAtlas.Text.Quoted

/-! Schema files: the files of a folder that have the suffix of schema files, and the reading of one of them
by its name. A name may not lead out of its folder, and a file may not be larger than a limit. -/

namespace DdlAtlas

inductive SourceError
  | invalidName (name : Text)
  | missing (path : Text)
  | tooLarge (path : Text) (size : Nat) (limit : Int)
  | nameTooLong (path : Text)
  | yearOutOfRange (year : Int)
  | unreadable (error : Sql.DeclarationError)
deriving DecidableEq, Repr

def SourceError.message : SourceError → Text
  | .invalidName name => "Invalid schema name: " ++ Text.quoted name
  | .missing path => "Schema file not found: " ++ path
  | .tooLarge path size limit =>
    .concat ["Schema file too large: ", path, " (", .ofNat size, " bytes, limit ", .ofInt limit, ")"]
  | .nameTooLong path => "[Errno 36] File name too long: " ++ Text.quoted path
  | .yearOutOfRange year => .concat ["year ", .ofInt year, " is out of range"]
  | .unreadable e => e.message

structure Source where
  name : Text
  filename : Text
  path : Text
  size : Nat
  modified : Moment
deriving DecidableEq, Repr

namespace Source

def toJson (s : Source) : Json :=
  .obj [("name", .str s.name), ("filename", .str s.filename), ("path", .str s.path),
    ("size", .int s.size), ("modified", .str s.modified.isoText)]

def ofFile (folder : Path) (filename : Text) (f : File) : Except SourceError Source :=
  let modified := f.modified.rounded
  let year := modified.date.year
  if 1 ≤ year ∧ year ≤ 9999 then
    .ok { name := Path.stem filename
          filename
          path := ((Path.ofText folder.name).extend filename).toText
          size := f.bytes.length
          modified }
  else .error (.yearOutOfRange year)

/-- The schema files directly in a folder, by their names; the case of the suffix does not matter. A
folder that is not there has none, which is worth a note. -/
def scan (t : Tree) (folder extension : Text) : Except SourceError (List Source × List Note) :=
  let path := Path.ofText folder
  match t.find path with
  | .folder parts =>
    let named := (t.filesIn parts).filter fun f =>
      Text.lower (Path.suffix f.1) == Text.lower extension
    let sorted := named.mergeSort fun f g => Text.le f.1 g.1
    (sorted.mapM fun f => ofFile path f.1 f.2).map (·, [])
  | .tooLong => .error (.nameTooLong path.toText)
  | .file _ | .nowhere => .ok ([], [.folderMissing path.toText])

def isName (name : Text) : Bool :=
  name != [] && name != "." && name != ".." && !name.contains '/' && !name.contains '\\'

/-- The name of the file for the name of a schema: the suffix is added unless it is there already, in any
case. -/
def filenameOf (name extension : Text) : Text :=
  if Text.endsWith (Text.lower name) (Text.lower extension) then name else name ++ extension

def resolve (folder name extension : Text) : Except SourceError Path :=
  if isName name then .ok ((Path.ofText folder).extend (filenameOf name extension))
  else .error (.invalidName name)

def decode (bytes : List UInt8) : Text :=
  Text.unifyReturns (Text.ofBytes bytes)

def readPath (t : Tree) (path : Path) (limit : Int) : Except SourceError Text :=
  match t.find path with
  | .file f =>
    if (f.bytes.length : Int) > limit then
      .error (.tooLarge path.toText f.bytes.length limit)
    else .ok (decode f.bytes)
  | .tooLong => .error (.nameTooLong path.toText)
  | .folder _ | .nowhere => .error (.missing path.toText)

def read (t : Tree) (folder name : Text) (limit : Int) (extension : Text) :
    Except SourceError Text :=
  (resolve folder name extension).bind fun path => readPath t path limit

def schemaOf (text : Text) : Except SourceError (Schema × List Note) :=
  (Schema.read text).mapError .unreadable

def extract (t : Tree) (folder name : Text) (limit : Int) (extension : Text) :
    Except SourceError (Schema × List Note) :=
  (read t folder name limit extension).bind fun text =>
    (schemaOf text).map fun (s, notes) =>
      (s, notes ++ [.extracted name s.totals.tables s.totals.policies])

end Source

end DdlAtlas
