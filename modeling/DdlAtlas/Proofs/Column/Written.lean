import DdlAtlas.Proofs.Column.Keyword
import DdlAtlas.Proofs.Name.Written
import DdlAtlas.Proofs.Nesting.Pieces

/-!
# Written columns

A column is written as its name, its type and any clauses in any order. The texts that a declaration is
free to choose are its name, its type, the default values and the conditions; all else is keywords.
-/

namespace DdlAtlas

namespace Sql

structure TypeName where
  word : Text
  more : List Text
  precision : Option (Text × Option Text)
  bounds : Nat
deriving DecidableEq

namespace TypeName

def front (t : TypeName) : Text :=
  t.word ++ Text.spaced t.more

def digits (p : Text × Option Text) : Text :=
  Text.join ", " (p.1 :: p.2.toList)

def precisionText (t : TypeName) : Text :=
  match t.precision with
  | none => []
  | some p => '(' :: (digits p ++ [')'])

def boundsText : Nat → Text
  | 0 => []
  | n + 1 => '[' :: ']' :: boundsText n

def suffix (t : TypeName) : Text :=
  t.precisionText ++ boundsText t.bounds

def written (t : TypeName) : Text :=
  t.front ++ t.suffix

def IsWord (w : Text) : Prop :=
  w ≠ [] ∧ w.all (fun c => Text.isAsciiWord c || c == '.') = true

instance (w : Text) : Decidable (IsWord w) :=
  inferInstanceAs (Decidable (_ ∧ _))

def IsNumber (d : Text) : Prop :=
  d ≠ [] ∧ d.all Char.isDigit = true

instance (d : Text) : Decidable (IsNumber d) :=
  inferInstanceAs (Decidable (_ ∧ _))

structure Proper (t : TypeName) : Prop where
  word : IsWord t.word
  more : ∀ w ∈ t.more, IsWord w
  precision : ∀ p ∈ t.precision, IsNumber p.1 ∧ ∀ e ∈ p.2, IsNumber e

instance (t : TypeName) : Decidable t.Proper :=
  decidable_of_iff (IsWord t.word ∧ (∀ w ∈ t.more, IsWord w) ∧
      ∀ p ∈ t.precision, IsNumber p.1 ∧ ∀ e ∈ p.2, IsNumber e)
    ⟨fun h => ⟨h.1, h.2.1, h.2.2⟩, fun h => ⟨h.word, h.more, h.precision⟩⟩

end TypeName

inductive Clause
  | notNull
  | unique
  | primaryKey
  | default (value : Text)
  | check (condition : Text)
deriving DecidableEq

namespace Clause

def keyword : Clause → Text
  | .notNull => "NOT NULL"
  | .unique => "UNIQUE"
  | .primaryKey => "PRIMARY KEY"
  | .default _ => "DEFAULT"
  | .check _ => "CHECK"

def text? : Clause → Option Text
  | .default value => some value
  | .check condition => some condition
  | .notNull | .unique | .primaryKey => none

def argument : Clause → Text
  | .default value => ' ' :: value
  | .check condition => ' ' :: '(' :: (condition ++ [')'])
  | .notNull | .unique | .primaryKey => []

def written (c : Clause) : Text :=
  c.keyword ++ c.argument

/-- A value has no blank and no comma outside literals and parentheses, and a condition is not blank;
both are closed, tidy and without comments. -/
def Proper : Clause → Prop
  | .default value =>
    value ≠ [] ∧ Closed value ∧ Unmarked value ∧ Text.Tidy value ∧ Nesting.outside.Bare value
  | .check condition =>
    Text.trim condition ≠ [] ∧ Closed condition ∧ Unmarked condition ∧ Text.Tidy condition
  | .notNull | .unique | .primaryKey => True

instance : (c : Clause) → Decidable c.Proper
  | .default _ | .check _ => inferInstanceAs (Decidable (_ ∧ _))
  | .notNull | .unique | .primaryKey => inferInstanceAs (Decidable True)

def default? : Clause → Option Text
  | .default value => some value
  | .notNull | .unique | .primaryKey | .check _ => none

def check? : Clause → Option Text
  | .check condition => some (Text.trim condition)
  | .notNull | .unique | .primaryKey | .default _ => none

end Clause

structure ColumnDeclaration where
  name : WrittenName
  type : TypeName
  clauses : List Clause
deriving DecidableEq

namespace ColumnDeclaration

/-- A name between quotes is chosen freely but for comments and blanks; a bare one is an identifier
and no reserved word. -/
def ProperName (n : WrittenName) : Prop :=
  if n.quoted then n.text ≠ [] ∧ '"' ∉ n.text ∧ Unmarked n.text ∧ Text.Tidy n.text
  else IsIdentifier n.text ∧ Text.capitals n.text ∉ reservedWords

instance (n : WrittenName) : Decidable (ProperName n) :=
  inferInstanceAs (Decidable (ite _ _ _))

structure Proper (d : ColumnDeclaration) : Prop where
  name : ProperName d.name
  type : d.type.Proper
  clauses : ∀ c ∈ d.clauses, c.Proper

instance (d : ColumnDeclaration) : Decidable d.Proper :=
  decidable_of_iff (ProperName d.name ∧ d.type.Proper ∧ ∀ c ∈ d.clauses, c.Proper)
    ⟨fun h => ⟨h.1, h.2.1, h.2.2⟩, fun h => ⟨h.name, h.type, h.clauses⟩⟩

def declared (d : ColumnDeclaration) : Text :=
  d.type.written ++ Text.spaced (d.clauses.map Clause.written)

def line (d : ColumnDeclaration) : Text :=
  d.name.written ++ ' ' :: d.declared

def column (d : ColumnDeclaration) : Column where
  name := d.name.text
  type := d.type.written
  nullable := decide (.notNull ∉ d.clauses)
  defaultValue := d.clauses.findSome? Clause.default?
  isPrimaryKey := decide (.primaryKey ∈ d.clauses)
  isUnique := decide (.unique ∈ d.clauses)
  checkConstraint := d.clauses.findSome? Clause.check?

def texts (d : ColumnDeclaration) : List Text :=
  d.type.written :: d.clauses.filterMap Clause.text?

def openTexts (d : ColumnDeclaration) : List Text :=
  d.type.written :: d.clauses.filterMap Clause.default?

end ColumnDeclaration

namespace TypeName

theorem IsWord.piece {w : Text} (h : IsWord w) : Piece w := by
  refine piece_of_ordinary h.1 (List.all_eq_true.mpr fun c hc => ?_)
  have := List.all_eq_true.mp h.2 c hc
  simp only [Bool.or_eq_true, beq_iff_eq] at this
  rcases this with hword | rfl
  · exact isOrdinary_of_isAsciiWord hword
  · decide

theorem IsNumber.ordinary {d : Text} (h : IsNumber d) : d.all isOrdinary = true := by
  refine List.all_eq_true.mpr fun c hc => isOrdinary_of_isAsciiWord ?_
  have hdigit := List.all_eq_true.mp h.2 c hc
  simp [Text.isAsciiWord, Char.isAlphanum, hdigit]

theorem IsNumber.piece {d : Text} (h : IsNumber d) : Piece d :=
  piece_of_ordinary h.1 h.ordinary

theorem Proper.piece_front {t : TypeName} (h : t.Proper) : Piece t.front :=
  h.word.piece.append_spaced fun w hw => (h.more w hw).piece

theorem Proper.isNumber_of_mem {t : TypeName} (h : t.Proper) {p : Text × Option Text}
    (hp : p ∈ t.precision) : ∀ d ∈ p.1 :: p.2.toList, IsNumber d := by
  obtain ⟨hd, he⟩ := h.precision p hp
  intro d hmem
  rcases List.mem_cons.mp hmem with rfl | hmem
  · exact hd
  · exact he d (by simpa using hmem)

theorem Proper.piece_precision {t : TypeName} (h : t.Proper) {p : Text × Option Text}
    (hp : p ∈ t.precision) : Piece ('(' :: (digits p ++ [')'])) :=
  piece_list fun d hd =>
    ⟨(h.isNumber_of_mem hp d hd).piece, closed_of_ordinary (h.isNumber_of_mem hp d hd).ordinary⟩

theorem Proper.not_mem_digits {t : TypeName} (h : t.Proper) {p : Text × Option Text}
    (hp : p ∈ t.precision) : ')' ∉ digits p := by
  refine Text.not_mem_join (by decide) fun d hd hm => ?_
  have := List.all_eq_true.mp (h.isNumber_of_mem hp d hd).2 _ hm
  exact absurd this (by decide)

theorem all_boundsText (n : Nat) : (boundsText n).all isOrdinary = true := by
  induction n with
  | zero => rfl
  | succ n ih =>
    have hbrackets : isOrdinary '[' = true ∧ isOrdinary ']' = true := by decide
    simpa [boundsText, hbrackets] using ih

theorem Proper.piece_written {t : TypeName} (h : t.Proper) : Piece t.written := by
  have hbounds : ∀ {s}, Piece s → Piece (s ++ boundsText t.bounds) := by
    intro s hs
    cases hn : t.bounds with
    | zero => simpa [boundsText] using hs
    | succ n => exact hs.append (piece_of_ordinary (by simp) (all_boundsText (n + 1))) (by decide)
  rw [written, suffix, ← List.append_assoc]
  refine hbounds ?_
  cases hp : t.precision with
  | none => simpa [precisionText, hp] using h.piece_front
  | some p => simpa [precisionText, hp] using h.piece_front.append (h.piece_precision hp) (by decide)

end TypeName

namespace Clause

theorem piece_keyword (c : Clause) : Piece c.keyword := by
  have hword : ∀ w : Text, w ≠ [] ∧ w.all isOrdinary = true → Piece w := fun w hw =>
    piece_of_ordinary hw.1 hw.2
  cases c with
  | notNull => exact (hword "NOT" (by decide)).append_space (hword "NULL" (by decide))
  | unique => exact hword "UNIQUE" (by decide)
  | primaryKey => exact (hword "PRIMARY" (by decide)).append_space (hword "KEY" (by decide))
  | default _ => exact hword "DEFAULT" (by decide)
  | check _ => exact hword "CHECK" (by decide)

theorem Proper.piece_written {c : Clause} (h : c.Proper) : Piece c.written := by
  have hkeyword := c.piece_keyword
  cases c with
  | notNull | unique | primaryKey => simpa [written, argument] using hkeyword
  | default value =>
    obtain ⟨hne, hclosed, hunmarked, htidy, hbare⟩ := h
    exact hkeyword.append_space (piece_of_bare hne hbare hclosed hunmarked htidy)
  | check condition =>
    obtain ⟨-, hclosed, hunmarked, htidy⟩ := h
    exact hkeyword.append_space (piece_enclosed hclosed hunmarked htidy)

end Clause

namespace ColumnDeclaration

theorem ProperName.piece {n : WrittenName} (h : ProperName n) : Piece n.written := by
  cases hq : n.quoted with
  | true =>
    rw [ProperName, if_pos hq] at h
    rw [WrittenName.written, if_pos hq]
    exact piece_quoted (by decide) h.2.1 h.2.2.1 h.2.2.2
  | false =>
    rw [ProperName, if_neg (by simp [hq])] at h
    rw [WrittenName.written, if_neg (by simp [hq])]
    exact piece_of_identifier h.1

theorem Proper.piece_declared {d : ColumnDeclaration} (h : d.Proper) : Piece d.declared := by
  refine h.type.piece_written.append_spaced fun t ht => ?_
  obtain ⟨c, hc, rfl⟩ := List.mem_map.mp ht
  exact (h.clauses c hc).piece_written

theorem Proper.piece_line {d : ColumnDeclaration} (h : d.Proper) : Piece d.line :=
  h.name.piece.append_space h.piece_declared

end ColumnDeclaration

def Silent (phrase : Text) (ts : List Text) : Prop :=
  ∀ t ∈ ts, Text.hasPart phrase (Text.capitals t) = false

instance (phrase : Text) (ts : List Text) : Decidable (Silent phrase ts) :=
  List.decidableBAll _ ts

/-- The words that end a type, or that tell what the word behind them is. -/
def typeStops : List Text :=
  ["NOT", "NULL", "BY", "DEFAULT", "CHECK", "UNIQUE", "PRIMARY", "REFERENCES", "GENERATED", "COLLATE",
    "CONSTRAINT"]

/-- No text of the declaration reads like a clause that is not declared. -/
structure ColumnDeclaration.Plain (d : ColumnDeclaration) : Prop where
  type : typeStops.all (fun k => !Text.mentions k none d.type.written) = true
  notNull : .notNull ∈ d.clauses ∨ Silent "NOT NULL" d.texts
  primaryKey : .primaryKey ∈ d.clauses ∨ Silent "PRIMARY KEY" d.texts
  unique : if .unique ∈ d.clauses then
      Silent "NOT UNIQUE" d.texts ∧ ∀ t ∈ d.openTexts, Text.endsWith (Text.capitals t) "NOT" = false
    else Silent "UNIQUE" d.texts
  default : ∀ t ∈ (d.clauses.takeWhile (·.default?.isNone)).filterMap Clause.text?,
    ¬HoldsDefault t
  check : ∀ t ∈ (d.clauses.takeWhile (·.check?.isNone)).filterMap Clause.text?,
    ¬HoldsCheck t

instance (d : ColumnDeclaration) : Decidable d.Plain :=
  decidable_of_iff
    (typeStops.all (fun k => !Text.mentions k none d.type.written) = true ∧
      (Clause.notNull ∈ d.clauses ∨ Silent "NOT NULL" d.texts) ∧
      (Clause.primaryKey ∈ d.clauses ∨ Silent "PRIMARY KEY" d.texts) ∧
      (if Clause.unique ∈ d.clauses then
        Silent "NOT UNIQUE" d.texts ∧ ∀ t ∈ d.openTexts, Text.endsWith (Text.capitals t) "NOT" = false
      else Silent "UNIQUE" d.texts) ∧
      (∀ t ∈ (d.clauses.takeWhile (fun c : Clause => c.default?.isNone)).filterMap Clause.text?,
        ¬HoldsDefault t) ∧
      ∀ t ∈ (d.clauses.takeWhile (fun c : Clause => c.check?.isNone)).filterMap Clause.text?,
        ¬HoldsCheck t)
    ⟨fun h => ⟨h.1, h.2.1, h.2.2.1, h.2.2.2.1, h.2.2.2.2.1, h.2.2.2.2.2⟩,
      fun h => ⟨h.type, h.notNull, h.primaryKey, h.unique, h.default, h.check⟩⟩

end Sql

end DdlAtlas
