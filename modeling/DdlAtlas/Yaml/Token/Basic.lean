import DdlAtlas.Yaml.Fault

/-! The tokens of a settings file: its words and marks, and the starts and ends of blocks, which only the
indentation tells. -/

namespace DdlAtlas.Yaml

structure TagName where
  handle : Option Text
  rest : Text
deriving DecidableEq, Repr

inductive Directive
  | version (major : Nat)
  | tag (handle meaning : Text)
  | other
deriving DecidableEq, Repr

structure Word where
  text : Text
  torn : Bool
  plain : Bool
deriving DecidableEq, Repr

/-- A token. The last one of a text is its end, or a fault behind which nothing is read. -/
inductive Token
  | directive (d : Directive)
  | documentStart
  | documentEnd
  | listStart
  | mappingStart
  | blockEnd
  | bracketOpen
  | bracketClose
  | braceOpen
  | braceClose
  | entry
  | comma
  | key
  | value
  | alias (name : Text)
  | anchor (name : Text)
  | tag (name : TagName)
  | scalar (word : Word)
  | textEnd
  | fault (f : Fault)
deriving DecidableEq, Repr

def Token.name : Token → Text
  | .directive _ => "<directive>"
  | .documentStart => "<document start>"
  | .documentEnd => "<document end>"
  | .listStart => "<block sequence start>"
  | .mappingStart => "<block mapping start>"
  | .blockEnd => "<block end>"
  | .bracketOpen => "["
  | .bracketClose => "]"
  | .braceOpen => "\x7b"
  | .braceClose => "\x7d"
  | .entry => "-"
  | .comma => ","
  | .key => "?"
  | .value => ":"
  | .alias _ => "<alias>"
  | .anchor _ => "<anchor>"
  | .tag _ => "<tag>"
  | .scalar _ => "<scalar>"
  | .textEnd | .fault _ => "<stream end>"

end DdlAtlas.Yaml
