import DdlAtlas.Text.Basic

/-! What is wrong with data that should fit a record. A violation names the place inside the data and
the rule that is broken there; checking a record collects the violations of all its fields in
order. -/

namespace DdlAtlas

inductive Rule
  | missing
  | string
  | stringUnicode
  | int
  | intText
  | intTooLarge
  | intFromFloat
  | finite
  | float
  | floatText
  | list
  | tooShort
  | record
  | recordOrAttributes
  | choice
  | atLeast
  | atMost
  | above
  | custom
  | notJson
deriving DecidableEq, Repr

def Rule.code : Rule → Text
  | .missing => "missing"
  | .string => "string_type"
  | .stringUnicode => "string_unicode"
  | .int => "int_type"
  | .intText => "int_parsing"
  | .intTooLarge => "int_parsing_size"
  | .intFromFloat => "int_from_float"
  | .finite => "finite_number"
  | .float => "float_type"
  | .floatText => "float_parsing"
  | .list => "list_type"
  | .tooShort => "too_short"
  | .record => "model_type"
  | .recordOrAttributes => "model_attributes_type"
  | .choice => "literal_error"
  | .atLeast => "greater_than_equal"
  | .atMost => "less_than_equal"
  | .above => "greater_than"
  | .custom => "value_error"
  | .notJson => "json_invalid"

inductive Step
  | field (name : Text)
  | item (index : Nat)
deriving DecidableEq, Repr

structure Violation where
  place : List Step
  rule : Rule
deriving DecidableEq, Repr

/-- A value, or all that is wrong with the data for it. -/
abbrev Checked (α : Type) := Except (List Violation) α

namespace Checked

def of {α : Type} (a : α) : Checked α :=
  .ok a

def broken {α : Type} (rule : Rule) : Checked α :=
  .error [⟨[], rule⟩]

def under {α : Type} (step : Step) (x : Checked α) : Checked α :=
  x.mapError fun vs => vs.map fun v => { v with place := step :: v.place }

def and {α β : Type} (f : Checked (α → β)) (x : Checked α) : Checked β :=
  match f, x with
  | .ok f, .ok a => .ok (f a)
  | .ok _, .error e => .error e
  | .error e, .ok _ => .error e
  | .error e, .error e' => .error (e ++ e')

def andThen {α β : Type} (x : Checked α) (check : α → Checked β) : Checked β :=
  match x with
  | .ok a => check a
  | .error e => .error e

def items {α β : Type} (check : α → Checked β) : Nat → List α → Checked (List β)
  | _, [] => .ok []
  | i, v :: rest =>
    ((Checked.of List.cons).and ((check v).under (.item i))).and (items check (i + 1) rest)

end Checked

end DdlAtlas
