import DdlAtlas.Proofs.Column.Written

/-!
# Written table bodies

A table body is written as columns and constraints in any order, with a comma and a blank between neighbours.
-/

namespace DdlAtlas.Sql

inductive Constraint
  | primaryKey (first : WrittenName) (more : List WrittenName)
  | foreignKey (key : WrittenName) (table : Mention) (referenced : WrittenName)
  | unique (content : Text)
  | check (content : Text)
deriving DecidableEq

namespace Constraint

def written : Constraint → Text
  | .primaryKey first more =>
    .concat ["PRIMARY KEY (", Text.join ", " ((first :: more).map WrittenName.written), ")"]
  | .foreignKey key table referenced =>
    .concat ["FOREIGN KEY (", key.written, ") REFERENCES ", table.written, "(", referenced.written, ")"]
  | .unique content => .concat ["UNIQUE (", content, ")"]
  | .check content => .concat ["CHECK (", content, ")"]

def Proper : Constraint → Prop
  | .primaryKey first more => ∀ n ∈ first :: more, IsIdentifier n.text
  | .foreignKey key table referenced =>
    IsIdentifier key.text ∧ table.Named ∧ IsIdentifier referenced.text
  | .unique content | .check content => Closed content ∧ Unmarked content ∧ Text.Tidy content

instance : (c : Constraint) → Decidable c.Proper
  | .primaryKey first more => List.decidableBAll _ (first :: more)
  | .foreignKey _ _ _ | .unique _ | .check _ => inferInstanceAs (Decidable (_ ∧ _))

end Constraint

inductive TableDeclaration
  | column (d : ColumnDeclaration)
  | constraint (name : Option WrittenName) (c : Constraint)
deriving DecidableEq

def constraintLabel : Option WrittenName → Text
  | none => []
  | some n => .concat ["CONSTRAINT ", n.written, " "]

namespace TableDeclaration

def written : TableDeclaration → Text
  | .column d => d.line
  | .constraint name c => constraintLabel name ++ c.written

def Proper : TableDeclaration → Prop
  | .column d => d.Proper ∧ d.Plain
  | .constraint name c => (∀ n ∈ name, IsIdentifier n.text) ∧ c.Proper

instance : (d : TableDeclaration) → Decidable d.Proper
  | .column _ | .constraint _ _ => inferInstanceAs (Decidable (_ ∧ _))

def line : TableDeclaration → Line
  | .column d => .column d.name.text d.declared
  | .constraint _ (.primaryKey first more) => .primaryKey ((first :: more).map (·.text))
  | .constraint name (.foreignKey key table referenced) =>
    .foreignKey (name.map (·.text)) key.text table.table.text referenced.text
  | .constraint (some _) (.unique _) | .constraint (some _) (.check _) => .otherConstraint
  | .constraint none (.unique _) | .constraint none (.check _) => .reserved

end TableDeclaration

theorem Constraint.Proper.piece {c : Constraint} (h : c.Proper) : Piece c.written := by
  have hword : ∀ {w : Text}, w ≠ [] ∧ w.all isOrdinary = true → Piece w := fun hw =>
    piece_of_ordinary hw.1 hw.2
  have hkeyword : ∀ {u v : Text}, u ≠ [] ∧ u.all isOrdinary = true → v ≠ [] ∧ v.all isOrdinary = true →
      Piece (u ++ ' ' :: v) := fun hu hv => (hword hu).append_space (hword hv)
  cases c with
  | primaryKey first more =>
    have hlist : Piece ('(' :: (Text.join ", " ((first :: more).map WrittenName.written) ++ [')'])) := by
      refine piece_list fun u hu => ?_
      rw [← List.map_cons] at hu
      obtain ⟨n, hn, rfl⟩ := List.mem_map.mp hu
      exact WrittenName.piece_closed (h n hn)
    have hshape : written (.primaryKey first more) = ("PRIMARY" ++ ' ' :: "KEY") ++
        ' ' :: '(' :: (Text.join ", " ((first :: more).map WrittenName.written) ++ [')']) := rfl
    rw [hshape]
    exact (hkeyword (by decide) (by decide)).append_space hlist
  | foreignKey key table referenced =>
    obtain ⟨hkey, htable, hreferenced⟩ := h
    have henclosed : ∀ {n : WrittenName}, IsIdentifier n.text → Piece ('(' :: (n.written ++ [')'])) :=
      fun {n} hn => by
        have hlist : Piece ('(' :: (Text.join ", " [n.written] ++ [')'])) := piece_list fun u hu => by
          obtain rfl := List.mem_singleton.mp hu
          exact WrittenName.piece_closed hn
        exact hlist
    have htarget := (Mention.piece_written htable).append (henclosed hreferenced) (by decide)
    have hkeyPart := (hkeyword (u := "FOREIGN") (v := "KEY") (by decide) (by decide)).append_space
      (henclosed hkey)
    have hreferences : Piece "REFERENCES" := hword (by decide)
    have hall := (hkeyPart.append_space hreferences).append_space htarget
    have hshape : written (.foreignKey key table referenced) =
        (((("FOREIGN" ++ ' ' :: "KEY") ++ ' ' :: '(' :: (key.written ++ [')'])) ++ ' ' :: "REFERENCES") ++
          ' ' :: (table.written ++ '(' :: (referenced.written ++ [')']))) := by
      simp [written, Text.concat]
    rw [hshape]
    exact hall
  | unique content =>
    obtain ⟨hclosed, hunmarked, htidy⟩ := h
    exact Piece.append_space (s := "UNIQUE") (hword (by decide))
      (piece_enclosed hclosed hunmarked htidy)
  | check content =>
    obtain ⟨hclosed, hunmarked, htidy⟩ := h
    exact Piece.append_space (s := "CHECK") (hword (by decide))
      (piece_enclosed hclosed hunmarked htidy)

theorem TableDeclaration.Proper.piece {d : TableDeclaration} (h : d.Proper) : Piece d.written := by
  cases d with
  | column d => exact h.1.piece_line
  | constraint name c =>
    obtain ⟨hname, hproper⟩ := h
    cases name with
    | none => exact hproper.piece
    | some n =>
      have hword : Piece "CONSTRAINT" := piece_of_ordinary (by decide) (by decide)
      have hshape : written (.constraint (some n) c) = ("CONSTRAINT" ++ ' ' :: n.written) ++
          ' ' :: c.written := by
        simp [written, constraintLabel, Text.concat]
      rw [hshape]
      exact (hword.append_space (WrittenName.piece_closed (hname n rfl)).1).append_space hproper.piece

end DdlAtlas.Sql
