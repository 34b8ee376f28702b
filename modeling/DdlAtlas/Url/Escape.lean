import DdlAtlas.Json.Reader
import DdlAtlas.Text.Utf8

/-! Percent escapes: a percent sign and two hexadecimal digits stand for one byte of a text. Escaping leaves
the escapes that are there already as they are. -/

namespace DdlAtlas.Url

def isUnreserved (c : Char) : Bool :=
  c.isAlphanum || c == '-' || c == '.' || c == '_' || c == '~'

def hexByte? (high low : Char) : Option UInt8 :=
  match Json.hexDigit? high, Json.hexDigit? low with
  | some h, some l => some (UInt8.ofNat (h * 16 + l))
  | _, _ => none

def escapeByte (b : UInt8) : Text :=
  '%' :: (Text.padLeft 2 '0' (Nat.toDigits 16 b.toNat)).map Char.toUpper

def escaped (safe : Char → Bool) : Text → Text
  | [] => []
  | '%' :: high :: low :: rest =>
    if (hexByte? high low).isSome then '%' :: high :: low :: escaped safe rest
    else (if safe '%' then ['%'] else escapeByte 37) ++ escaped safe (high :: low :: rest)
  | c :: rest =>
    (if isUnreserved c || safe c then [c] else (Text.charBytes c).flatMap escapeByte)
      ++ escaped safe rest

/-- The text of bytes that are already read, the latest first, and of what follows with its escapes read.
Escapes stand for the text of their bytes together with the ASCII characters beside them. -/
def unescapedFrom (held : List UInt8) : Text → Text
  | [] => Text.ofBytes held.reverse
  | '%' :: high :: low :: rest =>
    match hexByte? high low with
    | some b => unescapedFrom (b :: held) rest
    | none => unescapedFrom (37 :: held) (high :: low :: rest)
  | c :: rest =>
    if c.val < 128 then unescapedFrom (UInt8.ofNat c.toNat :: held) rest
    else Text.ofBytes held.reverse ++ c :: unescapedFrom [] rest

def unescaped (t : Text) : Text :=
  unescapedFrom [] t

def isPlainExcept (others : Text) (c : Char) : Bool :=
  ' ' ≤ c && c ≤ '~' && !others.contains c

def queryMarks : Text := " \"#<>"

def pathMarks : Text := queryMarks ++ "?\x60\x7b\x7d"

def userMarks : Text := pathMarks ++ "/;=@[\\]^|"

def fragmentMarks : Text := " \"<>\x60"

def hostMarks : Text := "!$&'()*+,;=\"\x60\x7b\x7d%|\\"

end DdlAtlas.Url
