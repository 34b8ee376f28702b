import DdlAtlas.Json.Reader
import DdlAtlas.Json.Tear
import DdlAtlas.Text.Quoted
import DdlAtlas.Url.Reader

/-! Why a chat turn can fail: the settings lack a key, a message is not what it should be, the request
cannot be written or has no proper address, the provider cannot be reached or refuses, or what it streams
is not of the expected shape. -/

namespace DdlAtlas.Chat

inductive Outage
  | connect
  | readTimeout
deriving DecidableEq, Repr

inductive Failure
  | noKey
  | missingField (name : Text)
  | notRecord (kind : Text)
  | address (fault : UrlFault)
  | notAscii (header : Text)
  | notFinite
  | notWhole (tear : Json.Tear)
  | hostName (fault : Url.LabelFault)
  | unknownAddress (given : Text)
  | unreachable (outage : Outage) (reason : Text)
  | refused (status : Nat)
  | deltaKind (kind : Text)
  | tooManyDigits (count : Nat)
  | tooDeep (isArray : Bool)
deriving DecidableEq, Repr

def kindName : Json → Text
  | .null => "NoneType"
  | .bool _ => "bool"
  | .int _ => "int"
  | .float _ => "float"
  | .str _ | .torn _ => "str"
  | .underTorn _ v => kindName v
  | .arr _ => "list"
  | .obj _ => "dict"

def tearMessage (tear : Json.Tear) : Text :=
  Text.codeMessage "utf-8" tear.position (tear.halves.map fun n => "\\u" ++ Json.hex4 n)
    "surrogates not allowed"

def Failure.message : Failure → Text
  | .noKey => "Chat API key not configured"
  | .missingField name => Text.quoted name
  | .notRecord kind =>
    if kind = "str" then "string indices must be integers, not 'str'"
    else if kind = "list" then "list indices must be integers or slices, not str"
    else .concat ["'", kind, "' object is not subscriptable"]
  | .address fault => fault.message
  | .notAscii header => Text.asciiMessage header
  | .notWhole tear => tearMessage tear
  | .notFinite => "Out of range float values are not JSON compliant"
  | .hostName fault => fault.message
  | .unknownAddress given => "unknown url type: " ++ Text.quoted given
  | .unreachable _ reason => reason
  | .refused _ => "Failed to get response from chat provider"
  | .deltaKind kind => .concat ["'", kind, "' object has no attribute 'get'"]
  | .tooManyDigits count =>
    .concat ["Exceeds the limit (4300 digits) for integer string conversion: value has ",
      .ofNat count, " digits; use sys.set_int_max_str_digits() to increase the limit"]
  | .tooDeep isArray =>
    .concat ["maximum recursion depth exceeded while decoding a JSON ",
      if isArray then "array" else "object", " from a unicode string"]

def Failure.status? : Failure → Option Nat
  | .noKey => some 500
  | .refused status => some status
  | _ => none

end DdlAtlas.Chat
