import DdlAtlas.Text.Lines
import DdlAtlas.Yaml.Node.Basic
import DdlAtlas.Yaml.Token.Basic
import DdlAtlas.Yaml.Token.Scan

/-! Putting the tokens of a settings file together to nodes. An anchor names a node for the aliases behind
it. A collection may hold an alias for itself; the tokens are then read several times, and the alias stands
for the collection that the reading before has put together. -/

namespace DdlAtlas.Yaml

/-- What is left of the tokens, the nodes that have names, those of the reading before, whether one of these
was asked for, and the meanings of the handles of tags. -/
structure Reading where
  tokens : List Token
  anchors : List (Text × Node)
  former : List (Text × Node)
  recursive : Bool
  handles : List (Text × Text)

abbrev Reads (α : Type) := StateT Reading (Except Fault) α

namespace Reads

def fail {α : Type} (f : Fault) : Reads α :=
  throw f

def failAt {α : Type} (part : Phrase) : Reads α :=
  fail (.malformed (.parsing part))

def peek : Reads Token := do
  match (← get).tokens with
  | .fault f :: _ => fail f
  | t :: _ => return t
  | [] => fail (.malformed (.scanning .next))

def pass : Reads Unit :=
  modify fun r => { r with tokens := r.tokens.drop 1 }

def sees (ts : List Token) : Reads Bool := do
  return ts.contains (← peek)

def passIf (t : Token) : Reads Bool := do
  if ← sees [t] then
    pass
    return true
  else return false

end Reads

open Reads

structure Properties where
  anchor : Option Text
  tag : Option Text

def TagName.full (name : TagName) : Reads Text := do
  match name.handle with
  | none => return name.rest
  | some handle =>
    match (← get).handles.find? (·.1 == handle) with
    | some (_, meaning) => return meaning ++ name.rest
    | none => failAt .node

def Properties.read : Reads Properties := do
  match ← peek with
  | .anchor anchor =>
    pass
    match ← peek with
    | .tag name =>
      pass
      return ⟨some anchor, some (← name.full)⟩
    | _ => return ⟨some anchor, none⟩
  | .tag name =>
    pass
    match ← peek with
    | .anchor anchor =>
      pass
      return ⟨some anchor, some (← name.full)⟩
    | _ => return ⟨none, some (← name.full)⟩
  | _ => return ⟨none, none⟩

namespace Properties

def isEmpty (p : Properties) : Bool :=
  p.anchor.isNone && p.tag.isNone

def given? (p : Properties) : Option Text :=
  p.tag.filter (· != "!".toList)

def collectionTag (p : Properties) (usual : Tag) : Tag :=
  (p.given?.map Tag.ofName).getD usual

/-- The node of a word. The spelling counts for words without quotes and for those whose tag leaves it
open. -/
def nodeOf (p : Properties) (w : Word) : Node :=
  let tag := match p.given? with
    | some name => Tag.ofName name
    | none => if w.plain || p.tag.isSome then Tag.ofSpelling w.text else .text
  .scalar tag w.text w.torn

def claim (p : Properties) (n : Node) : Reads Unit := do
  match p.anchor with
  | none => return
  | some name =>
    if (← get).anchors.any (·.1 == name) then fail (.malformed (.secondAnchor name))
    else modify fun r => { r with anchors := (name, n) :: r.anchors }

def settle (p : Properties) (n : Node) : Reads Node := do
  match p.anchor with
  | none => return n
  | some name =>
    modify fun r => { r with anchors := (name, n) :: r.anchors.filter (·.1 != name) }
    return n

end Properties

def aliasNode (name : Text) : Reads Node := do
  let r ← get
  match r.anchors.lookup name with
  | some (.begun tag isList) =>
    set { r with recursive := true }
    return (r.former.lookup name).getD (.begun tag isList)
  | some n => return n
  | none => fail (.malformed (.unknownAlias name))

inductive Position
  | bracketed
  | block
  | behindKey
deriving DecidableEq, Repr

def Position.phrase : Position → Phrase
  | .bracketed => .flowNode
  | .block | .behindKey => .blockNode

def depthLimit : Nat := 488

mutual

/-- The node at the next token; the counts bound the number of steps and the depth. -/
def node : Nat → Nat → Position → Reads Node
  | 0, _, position => failAt position.phrase
  | _, 0, _ => fail .tooDeep
  | n + 1, depth + 1, position => do
    match ← peek with
    | .alias name =>
      pass
      aliasNode name
    | _ =>
      let p ← Properties.read
      -- a collection is claimed before its items are read, as an alias among them can mean the collection itself
      let list (items : Reads (List Node)) : Reads Node := do
        let tag := p.collectionTag .list
        p.claim (.begun tag true)
        p.settle (.ofItems tag (← items))
      let mapping (fields : Reads (List (Node × Node))) : Reads Node := do
        let tag := p.collectionTag .mapping
        p.claim (.begun tag false)
        p.settle (.ofFields tag (← fields))
      let isBlock := position != .bracketed
      match ← peek, isBlock with
      | .entry, _ =>
        if position = .behindKey then list (looseEntries n depth)
        else if p.isEmpty then failAt position.phrase
        else
          p.claim (p.nodeOf ⟨[], false, true⟩)
          return p.nodeOf ⟨[], false, true⟩
      | .scalar w, _ =>
        pass
        p.claim (p.nodeOf w)
        return p.nodeOf w
      | .bracketOpen, _ =>
        pass
        list (bracketItems n depth true)
      | .braceOpen, _ =>
        pass
        mapping (braceFields n depth true)
      | .listStart, true =>
        pass
        list (entries n depth)
      | .mappingStart, true =>
        pass
        mapping (fields n depth)
      | _, _ =>
        if p.isEmpty then failAt position.phrase
        else
          p.claim (p.nodeOf ⟨[], false, true⟩)
          return p.nodeOf ⟨[], false, true⟩

def nodeUnless : Nat → Nat → Position → List Token → Reads Node
  | 0, _, position, _ => failAt position.phrase
  | n + 1, depth, position, ends => do
    if ← sees ends then return .nothing else node n depth position

def valueUnless : Nat → Nat → Position → List Token → Reads Node
  | 0, _, position, _ => failAt position.phrase
  | n + 1, depth, position, ends => do
    if ← passIf .value then nodeUnless n depth position ends else return .nothing

def entries : Nat → Nat → Reads (List Node)
  | 0, _ => failAt .blockList
  | n + 1, depth => do
    if ← passIf .entry then
      let item ← nodeUnless n depth .block [.entry, .blockEnd]
      return item :: (← entries n depth)
    else if ← passIf .blockEnd then return []
    else failAt .blockList

def looseEntries : Nat → Nat → Reads (List Node)
  | 0, _ => failAt .blockList
  | n + 1, depth => do
    if ← passIf .entry then
      let item ← nodeUnless n depth .block [.entry, .key, .value, .blockEnd]
      return item :: (← looseEntries n depth)
    else return []

def fields : Nat → Nat → Reads (List (Node × Node))
  | 0, _ => failAt .blockMapping
  | n + 1, depth => do
    if ← passIf .key then
      let key ← nodeUnless n depth .behindKey [.key, .value, .blockEnd]
      let value ← valueUnless n depth .behindKey [.key, .value, .blockEnd]
      return (key, value) :: (← fields n depth)
    else if ← passIf .blockEnd then return []
    else failAt .blockMapping

def bracketItems : Nat → Nat → Bool → Reads (List Node)
  | 0, _, _ => failAt .flowList
  | n + 1, depth, first => do
    if ← passIf .bracketClose then return []
    let parted ← if first then pure true else passIf .comma
    if !parted then failAt .flowList
    else if ← passIf .key then
      let key ← nodeUnless n (depth - 1) .bracketed [.value, .comma, .bracketClose]
      let value ← valueUnless n (depth - 1) .bracketed [.comma, .bracketClose]
      return .ofFields .mapping [(key, value)] :: (← bracketItems n depth false)
    else if ← passIf .bracketClose then return []
    else
      let item ← node n depth .bracketed
      return item :: (← bracketItems n depth false)

def braceFields : Nat → Nat → Bool → Reads (List (Node × Node))
  | 0, _, _ => failAt .flowMapping
  | n + 1, depth, first => do
    if ← passIf .braceClose then return []
    let parted ← if first then pure true else passIf .comma
    if !parted then failAt .flowMapping
    else if ← passIf .key then
      let key ← nodeUnless n depth .bracketed [.value, .comma, .braceClose]
      let value ← valueUnless n depth .bracketed [.comma, .braceClose]
      return (key, value) :: (← braceFields n depth false)
    else if ← passIf .braceClose then return []
    else
      let key ← node n depth .bracketed
      return (key, .nothing) :: (← braceFields n depth false)

end

def usualHandles : List (Text × Text) :=
  [("!", "!"), ("!!", Tag.front)]

def directives : Nat → Bool → List (Text × Text) → Reads (List (Text × Text))
  | 0, _, _ => failAt .directive
  | n + 1, versioned, handles => do
    match ← peek with
    | .directive d =>
      pass
      match d with
      | .version major =>
        if versioned then fail (.malformed .secondVersion)
        else if major ≠ 1 then fail (.malformed .otherVersion)
        else directives n true handles
      | .tag handle meaning =>
        if handles.any (·.1 == handle) then fail (.malformed (.secondHandle handle))
        else directives n versioned ((handle, meaning) :: handles)
      | .other => directives n versioned handles
    | _ => return handles

def openDocument (bound : Nat) : Reads Unit := do
  let handles ← directives bound false []
  if ← passIf .documentStart then modify fun r => { r with handles := handles ++ usualHandles }
  else fail (.malformed (.noStart (← peek).name))

def closeDocument : Nat → Reads Unit
  | 0 => return
  | n + 1 => do if ← passIf .documentEnd then closeDocument n

def document (bound : Nat) : Reads (Option Node) := do
  match ← peek with
  | .textEnd => return none
  | .directive _ | .documentStart =>
    openDocument bound
    let empty ← match ← peek with
      | .directive _ | .documentStart | .documentEnd | .textEnd => pure true
      | _ => pure false
    let n ← if empty then pure .nothing else node bound depthLimit .block
    ending n
  | _ => ending (← node bound depthLimit .block)
where
  ending (n : Node) : Reads (Option Node) := do
    closeDocument bound
    if ← sees [.textEnd] then return some n
    else
      openDocument bound
      fail (.malformed .secondDocument)

/-- The node that tokens stand for, if there is one, by the named nodes of the reading before; the count
bounds how often they are read again. -/
def Node.ofTokensAfter (ts : List Token) : Nat → List (Text × Node) → Except Fault (Option Node)
  | count, former =>
    match (document (3 * ts.length + 4)).run ⟨ts, [], former, false, usualHandles⟩ with
    | .error fault => .error fault
    | .ok (n, r) =>
      match count with
      | 0 => .ok n
      | count + 1 => if r.recursive then ofTokensAfter ts count r.anchors else .ok n

/-- The node that the tokens of a text stand for, if there is one. A collection inside itself is shown to
four levels, and nothing that is made of it looks further. -/
def Node.ofTokens (ts : List Token) : Except Fault (Option Node) :=
  ofTokensAfter ts 4 []

def read (t : Text) : Except Fault Value :=
  match t.find? (!isAllowed ·) with
  | some c => .error (.malformed (.character c))
  | none =>
    match Node.ofTokens (Token.ofText t) with
    | .error fault => .error fault
    | .ok none => .ok .null
    | .ok (some n) => n.value

end DdlAtlas.Yaml
