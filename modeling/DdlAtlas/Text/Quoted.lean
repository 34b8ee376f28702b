import DdlAtlas.Text.Basic
import DdlAtlas.Text.Printable

/-! A text between quotes, for messages. The quotes are single unless the text has single and no double
ones. The quote and the backslash are escaped, and so is every character that cannot be shown. A message on
characters that cannot be written in a code names the first run of them only. -/

namespace DdlAtlas.Text

def quoteFor (t : Text) : Char :=
  if t.contains '\'' && !t.contains '"' then '"' else '\''

def hexDigits (width n : Nat) : Text :=
  padLeft width '0' (Nat.toDigits 16 n)

def codeEscape (c : Char) : Text :=
  let n := c.toNat
  if n < 0x100 then "\\x" ++ hexDigits 2 n
  else if n < 0x10000 then "\\u" ++ hexDigits 4 n
  else "\\U" ++ hexDigits 8 n

def quotedChar (quote c : Char) : Text :=
  if c = quote ∨ c = '\\' then ['\\', c]
  else if c = '\n' then "\\n"
  else if c = '\r' then "\\r"
  else if c = '\t' then "\\t"
  else if isPrintable c then [c]
  else codeEscape c

def quoted (t : Text) : Text :=
  let quote := quoteFor t
  quote :: t.flatMap (quotedChar quote) ++ [quote]

def beyondAscii (c : Char) : Bool :=
  128 ≤ c.val

def codeMessage (code : Text) (position : Nat) (run : List Text) (reason : Text) : Text :=
  .concat ["'", code, "' codec can't encode character",
    match run with
    | [shown] => .concat [" '", shown, "' in position ", .ofNat position]
    | _ => .concat ["s in position ", .ofNat position, "-", .ofNat (position + run.length - 1)],
    ": ", reason]

def asciiMessage (t : Text) : Text :=
  let position := (t.takeWhile (!beyondAscii ·)).length
  let run := (t.drop position).takeWhile beyondAscii
  codeMessage "ascii" position (run.map codeEscape) "ordinal not in range(128)"

end DdlAtlas.Text
