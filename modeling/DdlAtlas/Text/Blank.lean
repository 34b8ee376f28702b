import DdlAtlas.Text.Basic

/-! Blanks are the characters that separate words: the ASCII controls from tab to carriage return
and from file separator to unit separator, the plain space, and the space, line and paragraph
separators of all scripts. Trimming, splitting into words and collapsing all use this one set. -/

namespace DdlAtlas.Text

def isBlank (c : Char) : Bool :=
  c == ' ' || ('\x09' ≤ c && c ≤ '\x0d') || ('\x1c' ≤ c && c ≤ '\x1f') || c == '\u0085'
    || c == '\u00a0' || c == '\u1680' || ('\u2000' ≤ c && c ≤ '\u200a') || c == '\u2028'
    || c == '\u2029' || c == '\u202f' || c == '\u205f' || c == '\u3000'

def trimStart (t : Text) : Text :=
  t.dropWhile isBlank

def trimEnd (t : Text) : Text :=
  (t.reverse.dropWhile isBlank).reverse

def trim (t : Text) : Text :=
  trimEnd (trimStart t)

def wordEndsBefore : Text → Bool
  | [] => true
  | c :: _ => isBlank c

/-- The maximal runs of characters that are not blank. -/
def words : Text → List Text
  | [] => []
  | c :: rest =>
    if isBlank c then words rest
    else if wordEndsBefore rest then [c] :: words rest
    else (words rest).modifyHead (c :: ·)

def collapse (t : Text) : Text :=
  join [' '] (words t)

end DdlAtlas.Text
