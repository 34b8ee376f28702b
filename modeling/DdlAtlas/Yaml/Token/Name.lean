import DdlAtlas.Json.Reader
import DdlAtlas.Text.Utf8
import DdlAtlas.Yaml.Place
import DdlAtlas.Yaml.Token.Basic

/-! Reading the names in a settings file: anchors and aliases, tags, and the lines of directives. -/

namespace DdlAtlas.Yaml

def isNameChar (c : Char) : Bool :=
  c.isAlphanum || c == '-' || c == '_'

def nameAt (part : Lexeme) (p : Place) : Except Fault (Text × Place) :=
  match p.span isNameChar with
  | ([], _) => .error (.malformed (.scanning part))
  | found => .ok found

def anchorName (part : Lexeme) (p : Place) : Except Fault (Text × Place) := do
  let (name, q) ← nameAt part p.next
  if q.atGap || q.head?.any "?:,]\x7d%@\x60".toList.contains then return (name, q)
  else throw (.malformed (.scanning part))

namespace TagName

inductive Bearer
  | tag
  | directive
deriving DecidableEq, Repr

def Bearer.scanning : Bearer → Fault
  | .tag => .malformed (.scanning .tag)
  | .directive => .malformed (.scanning .directive)

def Bearer.parsing : Bearer → Fault
  | .tag => .malformed (.parsing .tag)
  | .directive => .malformed (.parsing .directive)

def isAddressChar (c : Char) : Bool :=
  c.isAlphanum || "-;/?:@&=+$,_.!~*'()[]".toList.contains c

def escapes (bearer : Bearer) : Text → Place → Except Fault (List UInt8 × Place)
  | [], p => .ok ([], p)
  | _ :: bound, p =>
    match p.rest with
    | '%' :: high :: low :: _ =>
      match Json.hexDigit? high, Json.hexDigit? low with
      | some h, some l =>
        (escapes bearer bound (p.forward 3)).map fun (bytes, q) => (UInt8.ofNat (h * 16 + l) :: bytes, q)
      | _, _ => .error bearer.scanning
    | '%' :: _ => .error bearer.scanning
    | _ => .ok ([], p)

def address (bearer : Bearer) : Text → Place → Except Fault (Text × Place)
  | [], p => .ok ([], p)
  | _ :: bound, p => do
    let (word, q) := p.span isAddressChar
    let (bytes, r) ← escapes bearer q.rest q
    if word.isEmpty && bytes.isEmpty then return ([], p)
    else if Text.toBytes (Text.ofBytes bytes) = bytes then
      let (more, s) ← address bearer bound r
      return (word ++ (Text.ofBytes bytes ++ more), s)
    else throw bearer.scanning

def addressAt (bearer : Bearer) (p : Place) : Except Fault (Text × Place) := do
  match ← address bearer p.rest p with
  | ([], _) => throw bearer.parsing
  | found => return found

/-- A handle at a place: an exclamation mark, or a name between two of them. Before a space the first one
alone is the handle. -/
def handleAt (bearer : Bearer) (p : Place) : Except Fault (Text × Place) :=
  let (name, q) := p.next.span isNameChar
  match p.rest, q.head? with
  | '!' :: ' ' :: _, _ => .ok ("!", p.next)
  | '!' :: _, some '!' => .ok (.concat ["!", name, "!"], q.next)
  | _, _ => .error bearer.scanning

def isClosed (p : Place) : Bool :=
  p.head?.all fun c => c == ' ' || isBreak c

def read (p : Place) : Except Fault (TagName × Place) := do
  let (name, q) ← match p.rest with
    | _ :: '<' :: _ => do
      let (rest, q) ← addressAt .tag (p.forward 2)
      if q.head? = some '>' then pure ((⟨none, rest⟩ : TagName), q.next) else throw Bearer.tag.parsing
    | _ =>
      if p.next.atGap then pure ((⟨none, "!"⟩ : TagName), p.next)
      else do
        let isNamed := (p.next.rest.takeWhile fun c => c != ' ' && !isBreak c).contains '!'
        let (handle, q) ← if isNamed then handleAt .tag p else pure ((['!'] : Text), p.next)
        let (rest, q) ← addressAt .tag q
        pure ((⟨some handle, rest⟩ : TagName), q)
  if isClosed q then return (name, q) else throw Bearer.tag.scanning

end TagName

namespace Directive

def disorder : Fault :=
  .malformed (.scanning .directive)

def number (p : Place) : Except Fault (Nat × Place) :=
  match p.span Char.isDigit with
  | ([], _) => .error disorder
  | (digits, q) =>
    if digits.length ≤ Json.digitLimit then .ok (Decimal.natOfDigits digits, q)
    else .error (.tooManyDigits digits.length)

def versionAt (p : Place) : Except Fault (Directive × Place) := do
  let (major, q) ← number (p.skip (· == ' '))
  if q.head? = some '.' then
    let (_, r) ← number q.next
    if TagName.isClosed r then return (.version major, r) else throw disorder
  else throw disorder

def tagAt (p : Place) : Except Fault (Directive × Place) := do
  let (handle, q) ← TagName.handleAt .directive (p.skip (· == ' '))
  if q.head? = some ' ' then
    let (meaning, r) ← TagName.addressAt .directive (q.skip (· == ' '))
    if TagName.isClosed r then return (.tag handle meaning, r) else throw disorder
  else throw disorder

def read (p : Place) : Except Fault (Directive × Place) := do
  let (name, q) ← nameAt .directive p.next
  if !TagName.isClosed q then throw disorder
  let (d, r) ←
    if name = "YAML" then versionAt q
    else if name = "TAG" then tagAt q
    else pure (.other, q.skip (!isBreak ·))
  return (d, ← r.pastLine .directive)

end Directive

end DdlAtlas.Yaml
