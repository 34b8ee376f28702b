import DdlAtlas.Sql.Nesting
import DdlAtlas.Text.Blank

/-! What every statement is read with. Block comments are removed first, wherever they stand, and leave one
space each; one that is never closed stays. Then every line is cut at the first double hyphen outside the
literals of that line. Names are bare, between double quotes or back quotes, and with or without the name of a
schema in front. -/

namespace DdlAtlas.Sql

def behindBlock? : Text → Option Text
  | [] => none
  | c :: rest => if c = '*' ∧ rest.head? = some '/' then some rest.tail else behindBlock? rest

theorem length_le_of_behindBlock? {t s : Text} (h : behindBlock? t = some s) :
    s.length ≤ t.length := by
  induction t with
  | nil => simp [behindBlock?] at h
  | cons c rest ih =>
    unfold behindBlock? at h
    split at h
    · simp only [Option.some.injEq] at h
      subst h
      simp only [List.length_tail, List.length_cons]
      omega
    · have := ih h
      simp only [List.length_cons]
      omega

def withoutBlocks : Text → Text
  | [] => []
  | c :: rest =>
    if c = '/' ∧ rest.head? = some '*' then
      match _closed : behindBlock? rest.tail with
      | some after => ' ' :: withoutBlocks after
      | none => c :: rest
    else c :: withoutBlocks rest
termination_by t => t.length
decreasing_by
  · have := length_le_of_behindBlock? ‹behindBlock? _ = some _›
    simp only [List.length_tail] at this
    simp only [List.length_cons]
    omega
  · simp

/-- One line up to its comment, read with the quote of the open literal. -/
def lineWithoutComment : Option Char → Text → Text
  | _, [] => []
  | some q, c :: rest => c :: lineWithoutComment (if c = q then none else some q) rest
  | none, c :: rest =>
    if isQuote c then c :: lineWithoutComment (some c) rest
    else if c = '-' ∧ rest.head? = some '-' then []
    else c :: lineWithoutComment none rest

def withoutComments (t : Text) : Text :=
  Text.join ['\n'] ((Text.cells '\n' (withoutBlocks t)).map (lineWithoutComment none))

def unquoted (t : Text) : Text :=
  Text.trim (Text.without '\x60' (Text.without '"' t))

structure QualifiedName where
  schema : Option Text
  name : Text
deriving DecidableEq, Repr

def splitAtLast? (c : Char) : Text → Option (Text × Text)
  | [] => none
  | x :: rest =>
    match splitAtLast? c rest with
    | some (front, back) => some (x :: front, back)
    | none => if x = c then some ([], rest) else none

/-- The name behind the last point, qualified by what stands before it unless that is empty. -/
def QualifiedName.ofText (t : Text) : QualifiedName :=
  match splitAtLast? '.' (unquoted t) with
  | some ([], bare) => ⟨none, bare⟩
  | some (schema, bare) => ⟨some schema, bare⟩
  | none => ⟨none, unquoted t⟩

end DdlAtlas.Sql
