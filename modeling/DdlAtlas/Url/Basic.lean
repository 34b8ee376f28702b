import DdlAtlas.Text.Quoted

/-! Web addresses in their parts, the text of an address, and what can be wrong with one. -/

namespace DdlAtlas

/-- A web address in its parts, in normal form. The parts that are missing differ from empty ones where the
marks in front of them would show. -/
structure Url where
  scheme : Text
  user : Text
  host : Text
  port : Option Int
  path : Text
  query : Option Text
  fragment : Option Text
deriving DecidableEq, Repr

inductive UrlFault
  | tooLong
  | unprintable (c : Char) (position : Nat)
  | port (given : Text)
  | ipv4 (given : Text)
  | ipv6 (given : Text)
  | hostName (given : Text)
  | slashesInFront
  | colonInFront
deriving DecidableEq, Repr

def UrlFault.message : UrlFault → Text
  | .tooLong => "URL too long"
  | .unprintable c position =>
    .concat ["Invalid non-printable ASCII character in URL, ", Text.quoted [c], " at position ",
      .ofNat position, "."]
  | .port given => "Invalid port: " ++ Text.quoted given
  | .ipv4 given => "Invalid IPv4 address: " ++ Text.quoted given
  | .ipv6 given => "Invalid IPv6 address: " ++ Text.quoted given
  | .hostName given => "Invalid IDNA hostname: " ++ Text.quoted given
  | .slashesInFront => "Relative URLs cannot have a path starting with '//'"
  | .colonInFront => "Relative URLs cannot have a path starting with ':'"

namespace Url

def empty : Url :=
  ⟨[], [], [], none, [], none, none⟩

def place (u : Url) : Text :=
  .concat [if u.host.contains ':' then .concat ["[", u.host, "]"] else u.host,
    match u.port with
    | some n => ':' :: Text.ofInt n
    | none => []]

def authority (u : Url) : Text :=
  if u.user.isEmpty then u.place else .concat [u.user, "@", u.place]

def isAbsolute (u : Url) : Bool :=
  !u.scheme.isEmpty && !u.host.isEmpty

def marked (mark : Char) : Option Text → Text
  | some part => mark :: part
  | none => []

def target (u : Url) : Text :=
  (if u.path.isEmpty then ['/'] else u.path) ++ marked '?' u.query

def toText (u : Url) : Text :=
  .concat [if u.scheme.isEmpty then [] else u.scheme ++ ":",
    if u.authority.isEmpty then [] else "//" ++ u.authority,
    u.path, marked '?' u.query, marked '#' u.fragment]

end Url

end DdlAtlas
