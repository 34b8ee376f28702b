import DdlAtlas.Files.Tree
import DdlAtlas.Settings.Validation
import DdlAtlas.Text.Quoted
import DdlAtlas.Yaml.Node.Reader

/-! Settings from a file. The file is the one that is named, or the one that the environment names, or the
one at the usual place; without any of them the defaults hold. -/

namespace DdlAtlas

inductive SettingsError
  | missing (path : Text)
  | isFolder (path : Text)
  | nameTooLong (path : Text)
  | notText (fault : Text.ByteFault)
  | unreadable (fault : Yaml.Fault)
  | blank (path : Text)
  | invalid (path : Text) (violations : List Violation)
deriving DecidableEq, Repr

def SettingsError.message : SettingsError → Text
  | .missing path => "Config file not found: " ++ path
  | .isFolder path => "[Errno 21] Is a directory: " ++ Text.quoted path
  | .nameTooLong path => "[Errno 36] File name too long: " ++ Text.quoted path
  | .notText fault => fault.message
  | .unreadable fault => fault.message
  | .blank path => "Empty configuration file: " ++ path
  | .invalid path violations =>
    .concat ["Invalid configuration in ", path, ": ", .ofNat violations.length,
      if violations.length = 1 then " validation error" else " validation errors",
      " for AppConfig"]

namespace Settings

def ofFile (e : Environment) (t : Tree) (path : Path) : Except SettingsError Settings :=
  match t.find path with
  | .nowhere => .error (.missing path.toText)
  | .tooLong => .error (.nameTooLong path.toText)
  | .folder _ => .error (.isFolder path.toText)
  | .file f =>
    match Text.readBytes f.bytes with
    | .error fault => .error (.notText fault)
    | .ok text =>
      match Yaml.read (Text.unifyReturns text) with
      | .error fault => .error (.unreadable fault)
      | .ok v =>
        if v.isVoid then .error (.blank path.toText)
        else (check e v).mapError (.invalid path.toText)

def usualPath : Path :=
  .ofText "config/schemascope.yaml"

def ofEnvironment (e : Environment) : Settings :=
  let s := Settings.default e
  match Environment.given? e.databaseFolder with
  | some folder => { s with sources := { s.sources with directory := folder } }
  | none => s

def namedPath? (e : Environment) (named : Option Text) : Option Path :=
  ((Environment.given? named).orElse fun _ => Environment.given? e.settingsPath).map .ofText

/-- The settings from the first file that is named, or at the usual place, or the defaults. -/
def load (e : Environment) (t : Tree) (named : Option Text) : Except SettingsError Settings :=
  match namedPath? e named with
  | some path => ofFile e t path
  | none =>
    match t.find usualPath with
    | .nowhere => .ok (ofEnvironment e)
    | _ => ofFile e t usualPath

end Settings

end DdlAtlas
