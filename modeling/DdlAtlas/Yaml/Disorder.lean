import DdlAtlas.Text.Quoted

/-! What is out of order in a malformed settings file. The wording tells the first thing to be told: what was
being read when something came that cannot stand there, or else what came. -/

namespace DdlAtlas.Yaml

inductive Kind
  | scalar
  | list
  | mapping
deriving DecidableEq, Repr

def Kind.name : Kind → Text
  | .scalar => "scalar"
  | .list => "sequence"
  | .mapping => "mapping"

inductive Lexeme
  | simpleKey
  | next
  | directive
  | alias
  | anchor
  | tag
  | blockScalar
  | doubleQuoted
  | quoted
deriving DecidableEq, Repr

def Lexeme.name : Lexeme → Text
  | .simpleKey => "a simple key"
  | .next => "for the next token"
  | .directive => "a directive"
  | .alias => "an alias"
  | .anchor => "an anchor"
  | .tag => "a tag"
  | .blockScalar => "a block scalar"
  | .doubleQuoted => "a double-quoted scalar"
  | .quoted => "a quoted scalar"

inductive Phrase
  | directive
  | tag
  | node
  | blockNode
  | flowNode
  | blockList
  | blockMapping
  | flowList
  | flowMapping
deriving DecidableEq, Repr

def Phrase.name : Phrase → Text
  | .directive => "a directive"
  | .tag => "a tag"
  | .node => "a node"
  | .blockNode => "a block node"
  | .flowNode => "a flow node"
  | .blockList => "a block collection"
  | .blockMapping => "a block mapping"
  | .flowList => "a flow sequence"
  | .flowMapping => "a flow mapping"

inductive Mark
  | entry
  | key
  | value
deriving DecidableEq, Repr

def Mark.name : Mark → Text
  | .entry => "sequence entries"
  | .key => "mapping keys"
  | .value => "mapping values"

inductive Collection
  | mapping
  | orderedMap
  | pairs
deriving DecidableEq, Repr

def Collection.name : Collection → Text
  | .mapping => "a mapping"
  | .orderedMap => "an ordered map"
  | .pairs => "pairs"

inductive BinaryDisorder
  | notAscii (given : Text)
  | single (groups : Nat)
  | padding
deriving DecidableEq, Repr

def BinaryDisorder.message : BinaryDisorder → Text
  | .notAscii given => "failed to convert base64 data into ascii: " ++ Text.asciiMessage given
  | .single groups =>
    .concat ["failed to decode base64 data: Invalid base64-encoded string: number of data characters (",
      .ofNat (4 * groups + 1), ") cannot be 1 more than a multiple of 4"]
  | .padding => "failed to decode base64 data: Incorrect padding"

inductive Disorder
  | character (c : Char)
  | scanning (part : Lexeme)
  | misplaced (mark : Mark)
  | parsing (part : Phrase)
  | secondVersion
  | otherVersion
  | secondHandle (handle : Text)
  | noStart (found : Text)
  | secondDocument
  | unknownAlias (name : Text)
  | secondAnchor (name : Text)
  | unfit (wanted found : Kind)
  | constructing (collection : Collection)
  | binary (disorder : BinaryDisorder)
  | unknownTag (name : Text)
deriving DecidableEq, Repr

def Disorder.message : Disorder → Text
  | .character c =>
    .concat ["unacceptable character #x", Text.hexDigits 4 c.toNat, ": special characters are not allowed"]
  | .scanning part => "while scanning " ++ part.name
  | .misplaced mark => mark.name ++ " are not allowed here"
  | .parsing part => "while parsing " ++ part.name
  | .secondVersion => "found duplicate YAML directive"
  | .otherVersion => "found incompatible YAML document (version 1.* is required)"
  | .secondHandle handle => "duplicate tag handle " ++ Text.quoted handle
  | .noStart found => "expected '<document start>', but found " ++ Text.quoted found
  | .secondDocument => "expected a single document in the stream"
  | .unknownAlias name => "found undefined alias " ++ Text.quoted name
  | .secondAnchor name => .concat ["found duplicate anchor ", Text.quoted name, "; first occurrence"]
  | .unfit wanted found =>
    .concat ["expected a ", wanted.name, " node, but found ", found.name]
  | .constructing collection => "while constructing " ++ collection.name
  | .binary disorder => disorder.message
  | .unknownTag name => "could not determine a constructor for the tag " ++ Text.quoted name

end DdlAtlas.Yaml
