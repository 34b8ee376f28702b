import DdlAtlas.Command.Help
import DdlAtlas.Text.Numeral
import DdlAtlas.Text.Quoted

/-! The words of a command line. Options of the program stand before the task and options of a task behind
it. A long option may be shortened as long as it stays unique, and its value may follow an equals sign. A
double hyphen is no value of an option, and behind it nothing is an option. -/

namespace DdlAtlas.Command

inductive Key
  | help
  | config
  | verbose
  | json
  | host
  | port
deriving DecidableEq, Repr

namespace Key

def long : Key → Text
  | .help => "--help"
  | .config => "--config"
  | .verbose => "--verbose"
  | .json => "--json"
  | .host => "--host"
  | .port => "--port"

def short? : Key → Option Text
  | .help => some "-h"
  | .verbose => some "-v"
  | _ => none

def takesValue : Key → Bool
  | .config | .host | .port => true
  | _ => false

def isNamed (name : Text) (k : Key) : Bool :=
  k.long == name || k.short? == some name

def names (k : Key) : Text :=
  Text.join "/" (k.short?.toList ++ [k.long])

end Key

inductive Refusal
  | ambiguous (word : Text) (names : List Text)
  | unknown (words : List Text)
  | missing (name : Text)
  | withoutValue (key : Key)
  | withValue (key : Key) (value : Text)
  | notWhole (key : Key) (value : Text)
  | noTask (name : Text)
deriving DecidableEq, Repr

def Refusal.message : Refusal → Text
  | .ambiguous word names =>
    .concat ["ambiguous option: ", word, " could match ", Text.join ", " names]
  | .unknown words => "unrecognized arguments: " ++ Text.join " " words
  | .missing name => "the following arguments are required: " ++ name
  | .withoutValue key => .concat ["argument ", key.names, ": expected one argument"]
  | .withValue key value =>
    .concat ["argument ", key.names, ": ignored explicit argument ", Text.quoted value]
  | .notWhole key value =>
    .concat ["argument ", key.names, ": invalid int value: ", Text.quoted value]
  | .noTask name =>
    .concat ["argument cmd: invalid choice: ", Text.quoted name, " (choose from ",
      Text.join ", " (Topic.tasks.map fun t => Text.quoted t.name), ")"]

inductive Usage
  | help (topic : Topic)
  | refused (topic : Topic) (refusal : Refusal)
deriving DecidableEq, Repr

def Topic.complaint (t : Topic) (r : Refusal) : Text :=
  .concat [t.usage, t.call, ": error: ", r.message, "\n"]

def Topic.keys : Topic → List Key
  | .program => [.help, .config, .verbose]
  | .list | .context | .warnings => [.help]
  | .parse => [.help, .json]
  | .serve => [.help, .host, .port]

def Topic.takesTarget : Topic → Bool
  | .parse | .context | .warnings => true
  | _ => false

inductive Word
  | plain
  | separator
  | option (key : Key) (value : Option Text)
  | unknown
  | ambiguous (names : List Text)
deriving DecidableEq, Repr

def splitAtEquals (t : Text) : Text × Option Text :=
  match t.span (· != '=') with
  | (name, _ :: value) => (name, some value)
  | (name, []) => (name, none)

def isNegativeNumber : Text → Bool
  | '-' :: rest =>
    let rest := if rest.getLast? = some '\n' then rest.dropLast else rest
    let (whole, more) := rest.span Text.isDigit
    match more with
    | [] => !whole.isEmpty
    | '.' :: frac => !frac.isEmpty && frac.all Text.isDigit
    | _ => false
  | _ => false

/-- The options that a shortened name may mean, with the value that comes with it. -/
def meanings (known : List Key) (t : Text) : List (Key × Option Text) :=
  if Text.startsWith t "--" then
    let (name, value) := splitAtEquals t
    (known.filter fun k => Text.startsWith k.long name).map (·, value)
  else
    (known.filter fun k => k.short? == some (t.take 2)).map (·, some (t.drop 2))

def Word.of (known : List Key) (t : Text) : Word :=
  let (name, value) := splitAtEquals t
  if t = "--" then .separator
  else if !Text.startsWith t "-" || t = "-" then .plain
  else match known.find? (Key.isNamed t) with
    | some k => .option k none
    | none =>
    match value.bind fun v => (known.find? (Key.isNamed name)).map (·, v) with
    | some (k, v) => .option k (some v)
    | none =>
    match meanings known t with
    | [(k, v)] => .option k v
    | k :: l :: more => .ambiguous ((k :: l :: more).map (·.1.long))
    | [] => if isNegativeNumber t || t.contains ' ' then .plain else .unknown

structure Found where
  config : Option Text
  verbose : Bool
  json : Bool
  host : Option Text
  port : Option Int
  target : Option Text
  surplus : List Text
deriving DecidableEq, Repr

namespace Found

def nothing : Found :=
  ⟨none, false, false, none, none, none, []⟩

def withSurplus (f : Found) (extra : List Text) : Found :=
  { f with surplus := f.surplus ++ extra }

end Found

def setValue (topic : Topic) (f : Found) (k : Key) (v : Text) : Except Usage Found :=
  match k with
  | .config => .ok { f with config := some v }
  | .host => .ok { f with host := some v }
  | .port =>
    match Text.intOfWord? 10 v with
    | some n => .ok { f with port := some n }
    | none => .error (.refused topic (.notWhole k v))
  | _ => .error (.refused topic (.withValue k v))

def setFlag (topic : Topic) (f : Found) (k : Key) : Except Usage Found :=
  match k with
  | .help => .error (.help topic)
  | .verbose => .ok { f with verbose := true }
  | .json => .ok { f with json := true }
  | _ => .error (.refused topic (.withoutValue k))

def cluster (topic : Topic) (k : Key) : Text → Except Usage (List Key)
  | [] => .ok []
  | c :: rest =>
    match topic.keys.find? fun k => k.short? == some ['-', c] with
    | some next => (cluster topic next rest).map (next :: ·)
    | none => .error (.refused topic (.withValue k (c :: rest)))

def setFlags (topic : Topic) (f : Found) (k : Key) (long : Bool) (tail : Option Text) :
    Except Usage Found :=
  match tail with
  | none => setFlag topic f k
  | some letters =>
    if long || letters.isEmpty then .error (.refused topic (.withValue k letters))
    else (cluster topic k letters).bind fun ks => (k :: ks).foldlM (setFlag topic) f

def ambiguity? (topic : Topic) (words : List Text) : Option Usage :=
  (words.takeWhile (· != "--".toList)).findSome? fun t =>
    match Word.of topic.keys t with
    | .ambiguous names => some (.refused topic (.ambiguous t names))
    | _ => none

def valueOf (topic : Topic) (k : Key) (value : Option Text) (rest : List Text) :
    Except Usage (Text × List Text) :=
  match value, rest with
  | some v, _ => .ok (v, rest)
  | none, v :: more =>
    if Word.of topic.keys v = .plain then .ok (v, more)
    else .error (.refused topic (.withoutValue k))
  | none, [] => .error (.refused topic (.withoutValue k))

/-- What the words of a task say, of which the count bounds the number. -/
def readWords (topic : Topic) : Nat → Found → List Text → Except Usage Found
  | 0, f, _ => .ok f
  | _, f, [] => .ok f
  | n + 1, f, t :: rest =>
    let free := topic.takesTarget && f.target.isNone
    match Word.of topic.keys t with
    | .ambiguous names => .error (.refused topic (.ambiguous t names))
    | .unknown => readWords topic n (f.withSurplus [t]) rest
    | .separator =>
      if free then
        match rest with
        | [] => .ok f
        | target :: more => .ok ({ f with target := some target }.withSurplus more)
      else .ok (f.withSurplus (t :: rest))
    | .plain =>
      if free then
        match rest with
        | ['-', '-'] :: more => .ok ({ f with target := some t }.withSurplus more)
        | _ => readWords topic n { f with target := some t } rest
      else readWords topic n (f.withSurplus [t]) rest
    | .option k value =>
      if k.takesValue then
        match valueOf topic k value rest with
        | .error e => .error e
        | .ok (v, more) =>
          match setValue topic f k v with
          | .ok f => readWords topic n f more
          | .error e => .error e
      else
        match setFlags topic f k (Text.startsWith t "--") value with
        | .ok f => readWords topic n f rest
        | .error e => .error e

def readTask (topic : Topic) (words : List Text) : Except Usage Found :=
  match ambiguity? topic words with
  | some e => .error e
  | none => readWords topic words.length .nothing words

inductive Task
  | list
  | parse (target : Text) (asJson : Bool)
  | context (target : Text)
  | warnings (target : Text)
  | serve (host : Option Text) (port : Option Int)
deriving DecidableEq, Repr

structure Invocation where
  config : Option Text
  verbose : Bool
  task : Task
deriving DecidableEq, Repr

def Task.of? (f : Found) : Topic → Option Task
  | .program => none
  | .list => some .list
  | .parse => f.target.map (.parse · f.json)
  | .context => f.target.map .context
  | .warnings => f.target.map .warnings
  | .serve => some (.serve f.host f.port)

def Task.read (name : Text) (words : List Text) : Except Usage (Task × List Text) :=
  match Topic.tasks.find? (·.name == name) with
  | none => .error (.refused .program (.noTask name))
  | some topic =>
    match readTask topic words with
    | .error e => .error e
    | .ok f =>
      match Task.of? f topic with
      | some task => .ok (task, f.surplus)
      | none => .error (.refused topic (.missing "target"))

def Invocation.readFrom : Nat → Found → List Text → Except Usage Invocation
  | 0, _, _ => .error (.refused .program (.missing "cmd"))
  | _, _, [] => .error (.refused .program (.missing "cmd"))
  | n + 1, f, t :: rest =>
    match Word.of Topic.program.keys t with
    | .ambiguous names => .error (.refused .program (.ambiguous t names))
    | .separator =>
      .error (.refused .program (if rest.isEmpty then .missing "cmd" else .noTask t))
    | .unknown => readFrom n (f.withSurplus [t]) rest
    | .plain =>
      match Task.read t rest with
      | .error e => .error e
      | .ok (task, surplus) =>
        match f.surplus ++ surplus with
        | [] => .ok ⟨f.config, f.verbose, task⟩
        | words => .error (.refused .program (.unknown words))
    | .option k value =>
      if k.takesValue then
        match valueOf .program k value rest with
        | .error e => .error e
        | .ok (v, more) =>
          match setValue .program f k v with
          | .ok f => readFrom n f more
          | .error e => .error e
      else
        match setFlags .program f k (Text.startsWith t "--") value with
        | .ok f => readFrom n f rest
        | .error e => .error e

def Invocation.read (words : List Text) : Except Usage Invocation :=
  match ambiguity? .program words with
  | some e => .error e
  | none => readFrom words.length .nothing words

end DdlAtlas.Command
