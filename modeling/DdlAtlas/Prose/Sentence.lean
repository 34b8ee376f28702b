import DdlAtlas.Prose.Idiom
import DdlAtlas.Schema.Basic

/-! A policy in one sentence of plain English: who can do what to the rows, under which condition, and
what a new row has to satisfy. -/

namespace DdlAtlas.Prose

def actionOf (command : Text) : Text :=
  if command = "SELECT" then "view"
  else if command = "INSERT" then "create"
  else if command = "UPDATE" then "modify"
  else if command = "DELETE" then "remove"
  else if command = "ALL" then "access"
  else Text.lower command

def roleLabel (role : Text) : Text :=
  let name := Text.lower role
  if name = "public" then "Anyone (including anonymous)"
  else if name = "authenticated" then "Logged-in users"
  else if name = "anon" then "Anonymous users"
  else if name = "service_role" then "Service/backend only"
  else role

/-- The words for a list of roles; no role at all, or the public among them, is anyone. -/
def describeRoles (roles : List Text) : Text :=
  if roles.isEmpty || roles.any (Text.lower · == "public") then "Anyone"
  else Text.join ", " (roles.map roleLabel)

/-- A predicate cut to a length, three points marking the cut. A negative length counts from the
end. -/
def cutTo (limit : Int) (predicate : Text) : Text :=
  if (predicate.length : Int) > limit then
    let kept := if limit < 0 then predicate.length - limit.natAbs else limit.toNat
    predicate.take kept ++ "..."
  else predicate

def describeUsing (predicate : Text) : Text :=
  match (idiom? usingIdioms predicate).bind (·.fragment) with
  | some fragment => fragment
  | none => "condition: " ++ cutTo 60 (Text.trim predicate)

def describeWithCheck? (predicate : Text) : Option Text :=
  match idiom? withCheckIdioms predicate with
  | some i => i.fragment
  | none => some "Validation required"

def subject (p : PolicyClauses) : Text :=
  if p.permissive then
    .concat [describeRoles p.roles, " can ", actionOf p.command, " rows"]
  else .concat ["Restricts who can ", actionOf p.command, " rows"]

def condition (p : PolicyClauses) : Text :=
  match p.using? with
  | none | some [] => []
  | some predicate => " — " ++ describeUsing predicate

def demand (p : PolicyClauses) : Text :=
  match p.withCheck? with
  | none | some [] => []
  | some predicate =>
    if p.command = "SELECT" then []
    else match describeWithCheck? predicate with
      | none | some [] => []
      | some fragment => ". " ++ fragment

def sentence (p : PolicyClauses) : Text :=
  subject p ++ condition p ++ demand p

end DdlAtlas.Prose
