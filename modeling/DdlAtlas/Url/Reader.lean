import DdlAtlas.Text.Numeral
import DdlAtlas.Url.Basic
import DdlAtlas.Url.Escape
import DdlAtlas.Url.Label
import DdlAtlas.Url.Network

/-! Reading web addresses into normal form. An address is cut at its marks; the parts are then checked and
written as they are sent: schemes and hosts in small letters, characters that may not stand in a part
escaped, single and double points in the path worked out. -/

namespace DdlAtlas.Url

structure Draft where
  scheme : Text
  authority : Text
  path : Text
  query : Option Text
  fragment : Option Text
deriving DecidableEq, Repr

def lengthLimit : Nat := 65536

def cutAt (mark : Char) (t : Text) : Text × Option Text :=
  match t.span (· != mark) with
  | (before, _ :: behind) => (before, some behind)
  | (before, []) => (before, none)

def cutScheme (t : Text) : Text × Text :=
  let (name, rest) := t.span fun c => c.isAlphanum || c == '+' || c == '.' || c == '-'
  match rest with
  | ':' :: rest => if name.head?.all Char.isAlpha then (name, rest) else ([], t)
  | _ => ([], t)

def Draft.ofText (t : Text) : Draft :=
  let (t, fragment) := cutAt '#' t
  let (t, query) := cutAt '?' t
  let (scheme, rest) := cutScheme t
  match Text.behind? "//" rest with
  | some rest => ⟨scheme, rest.takeWhile (· != '/'), rest.dropWhile (· != '/'), query, fragment⟩
  | none => ⟨scheme, [], rest, query, fragment⟩

/-- The user of an authority, which ends at the last at sign, and the rest. -/
def cutUser (authority : Text) : Text × Text :=
  let rest := (authority.reverse.takeWhile (· != '@')).reverse
  (authority.take (authority.length - rest.length - 1), rest)

def bracketed? (t : Text) : Option (Text × Text) :=
  let behind := (t.reverse.takeWhile (· != ']')).reverse
  if t.head? = some '[' ∧ t.contains ']' then some (t.take (t.length - behind.length), behind)
  else none

def cutHost (t : Text) : Text × Text :=
  let (host, rest) := (bracketed? t).getD (t.span (· != ':'))
  (host, (Text.behind? ":" rest).getD rest)

def usualPort? (scheme : Text) : Option Int :=
  if scheme = "http" ∨ scheme = "ws" then some 80
  else if scheme = "https" ∨ scheme = "wss" then some 443
  else if scheme = "ftp" then some 21
  else none

def readPort (scheme given : Text) : Except UrlFault (Option Int) :=
  if given.isEmpty then .ok none
  else match Text.intOfWord? 10 given with
    | none => .error (.port given)
    | some n => .ok (if usualPort? scheme = some n then none else some n)

def isBracketed (t : Text) : Bool :=
  2 ≤ t.length && t.head? == some '[' && t.getLast? == some ']'

def readHost (given : Text) : Except UrlFault Text :=
  if (numericShape.match? given).isSome then
    if isIpv4 given then .ok given else .error (.ipv4 given)
  else if isBracketed given then
    let inner := (given.drop 1).dropLast
    if isIpv6 inner then .ok inner else .error (.ipv6 given)
  else if given.all (·.val < 128) then .ok (escaped hostMarks.contains (Text.lower given))
  else
    match asciiName? (Text.lower given) with
    | some name => .ok name
    | none => .error (.hostName given)

def plainSegments (segments : List Text) : List Text :=
  segments.foldl
    (fun (done : List Text) (segment : Text) =>
      if segment = "." then done
      else if segment = ".." then (if done = [[]] then done else done.dropLast)
      else done ++ [segment])
    []

def plainPath (path : Text) : Text :=
  Text.join "/" (plainSegments (Text.cells '/' path))

def readPath (hasFront : Bool) (path : Text) : Except UrlFault Text :=
  if hasFront then .ok (escaped (isPlainExcept pathMarks) (plainPath path))
  else if Text.startsWith path "//" then .error .slashesInFront
  else if Text.startsWith path ":" then .error .colonInFront
  else .ok (escaped (isPlainExcept pathMarks) path)

def ofDraft (d : Draft) : Except UrlFault Url := do
  let (user, rest) := cutUser d.authority
  let (host, port) := cutHost rest
  let host ← readHost host
  let port ← readPort d.scheme port
  let user := escaped (isPlainExcept userMarks) user
  let hasFront := !(d.scheme.isEmpty && user.isEmpty && host.isEmpty && port.isNone)
  let path ← readPath hasFront d.path
  return ⟨Text.lower d.scheme, user, host, port, path,
    d.query.map (escaped (isPlainExcept queryMarks)),
    d.fragment.map (escaped (isPlainExcept fragmentMarks))⟩

def isUnprintable (c : Char) : Bool :=
  c.val < 32 || c == '\x7f'

def read (t : Text) : Except UrlFault Url :=
  if lengthLimit < t.length then .error .tooLong
  else match t.find? isUnprintable with
    | some c => .error (.unprintable c (t.takeWhile (!isUnprintable ·)).length)
    | none => ofDraft (.ofText t)

def hostFault? (u : Url) : Option LabelFault :=
  if Text.startsWith u.host asciiMark then asciiNameFault? u.host else none

/-- The path and the query that an address leads to from another one, whose path they follow, when it has
no scheme or no host of its own. -/
def joined (base u : Url) : Except UrlFault Url :=
  if u.isAbsolute then .ok u
  else
    let front := if base.target.getLast? = some '/' then base.target else base.target ++ "/"
    let (path, query) := cutAt '?' (front ++ u.target.dropWhile (· == '/'))
    (readPath (!base.scheme.isEmpty || !base.authority.isEmpty) path).map fun path =>
      { base with path, query := query.map (escaped (isPlainExcept queryMarks)) }

end DdlAtlas.Url
