import DdlAtlas.Command.Run

/-! The command line. The files that a run looks at are read into a tree, the run is worked out on it, and
what it prints is printed. -/

namespace DdlAtlas.Console

def momentOf (t : IO.FS.SystemTime) : Moment :=
  .ofMicros (t.sec * 1000000 + t.nsec.toNat / 1000)

def nodeAt (path : String) : IO (Option Node) := do
  try
    let m ← (← IO.FS.realPath path).metadata
    match m.type with
    | .dir => return some .folder
    | .file =>
      let bytes ← IO.FS.readBinFile path
      return some (.file ⟨bytes.toList, momentOf m.modified⟩)
    | _ => return none
  catch _ => return none

def namesIn (path : String) : IO (List String) := do
  try
    return (← (← IO.FS.realPath path).readDir).toList.map (·.fileName)
  catch _ => return []

def withPath (t : Tree) (p : Path) : IO Tree := do
  match ← nodeAt (String.ofList p.toText) with
  | some (.file f) => return t.write p f
  | some .folder => return t.makeFolder p
  | none => return t

def withFolder (t : Tree) (p : Path) : IO Tree := do
  let names ← namesIn (String.ofList p.toText)
  names.foldlM (fun t name => withPath t (p.extend name.toList)) (← withPath t p)

def environment : IO Environment := do
  let names := ["CHAT_API_KEY", "ANTHROPIC_API_KEY", "CLAUDE_API_KEY", "CHAT_MODEL",
    "SCHEMASCOPE_CONFIG", "SCHEMASCOPE_DATABASE_DIR"]
  let values ← names.mapM fun name => do
    return (name.toList, (← IO.getEnv name).map String.toList)
  return .ofLookup fun name => (values.lookup name).join

def treeFor (e : Environment) (words : List Text) : IO Tree := do
  let here := Path.ofText (← IO.currentDir).toString.toList
  let t := Tree.ofWorking here.parts
  match Command.Invocation.read words with
  | .error _ => return t
  | .ok i =>
    let t ← withPath t (i.settingsPath e)
    let r := i.reach e t
    let t ← r.files.foldlM withPath t
    r.folders.foldlM withFolder t

def now : IO Moment := do
  try
    return momentOf (← (← IO.FS.realPath "/proc/self").metadata).modified
  catch _ => return .ofMicros 0

def serviceLine (s : Command.Service) : Text :=
  Command.line ["Error: no listener for ", s.host, ":", .ofInt s.port]

end DdlAtlas.Console

open DdlAtlas Console in
def main (args : List String) : IO UInt32 := do
  let words := args.map String.toList
  let e ← environment
  let outcome := Command.run e (← treeFor e words) (← now) false words
  let errors := outcome.complaint ++ Text.concat (outcome.services.map serviceLine)
  (← IO.getStdout).putStr (String.ofList outcome.printed)
  (← IO.getStderr).putStr (String.ofList errors)
  return if outcome.services.isEmpty then UInt32.ofNat outcome.exit else 1
