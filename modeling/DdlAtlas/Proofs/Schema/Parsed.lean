import DdlAtlas.Proofs.Comment.Lines
import DdlAtlas.Proofs.Table.Keys
import DdlAtlas.Schema.Assembly
import Mathlib.Data.List.Forall2

/-!
# Every text has a schema

No table body is refused, so neither is a text: the schema of a text has one table for each table
declaration found in it, in the same order.
-/

namespace DdlAtlas

open Sql

theorem mapM_total {α β ε : Type} {f : α → Except ε β} (h : ∀ a, ∃ b, f a = .ok b) (l : List α) :
    ∃ bs, l.mapM f = .ok bs ∧ List.Forall₂ (fun a b => f a = .ok b) l bs := by
  induction l with
  | nil => exact ⟨[], rfl, .nil⟩
  | cons a l ih =>
    obtain ⟨b, hb⟩ := h a
    obtain ⟨bs, hbs, hall⟩ := ih
    refine ⟨b :: bs, ?_, .cons hb hall⟩
    rw [List.mapM_cons, hb]
    simp only [bind, Except.bind, hbs]
    rfl

theorem Table.ofStatement_total (found : Statements) (s : TableStatement) :
    ∃ t, Table.ofStatement found s = .ok t := by
  obtain ⟨b, hb, -⟩ := TableBody.read_total s.body s.name
  exact ⟨_, by rw [Table.ofStatement, hb]; rfl⟩

theorem Table.ofStatement_eq_ok {found : Statements} {s : TableStatement} {t : Table}
    (h : Table.ofStatement found s = .ok t) :
    ∃ b, TableBody.read s.body s.name = .ok b ∧
      t = ⟨s.name, s.schema, b.columns, b.primaryKeys, b.foreignKeys,
        found.switched.contains s.name || !(found.policiesOn s.name).isEmpty,
        found.policiesOn s.name⟩ := by
  rw [Table.ofStatement] at h
  cases hb : TableBody.read s.body s.name with
  | error e => simp [hb, Except.map] at h
  | ok b =>
    simp only [hb, Except.map, Except.ok.injEq] at h
    exact ⟨b, rfl, h.symm⟩

theorem Schema.parse_total (t : Text) :
    ∃ s, Schema.parse t = .ok s ∧
      List.Forall₂ (fun declared table => Table.ofStatement (Statements.locate t).1 declared = .ok table)
        (Statements.locate t).1.tables s.tables := by
  obtain ⟨tables, ht, hall⟩ :=
    mapM_total (Table.ofStatement_total (Statements.locate t).1) (Statements.locate t).1.tables
  exact ⟨⟨tables⟩, by rw [Schema.parse, Schema.ofStatements, ht]; rfl, hall⟩

theorem Schema.parse_of_locate_policy {text body : Text}
    (h : (Statements.locate text).1 = ⟨[], [⟨"p", "t", body⟩], [⟨"public", "t", "a int"⟩]⟩) :
    Schema.parse text = .ok ⟨[⟨"t", "public", [⟨"a", "int", true, none, false, false, none⟩], [], [], true,
      [Policy.ofStatement ⟨"p", "t", body⟩]⟩]⟩ := by
  have hlines : logicalLines "a int" = ["a int".toList] := by
    have hunmarked : Unmarked "a int" := by decide +kernel
    rw [logicalLines, hunmarked.withoutComments_eq]
    decide +kernel
  have hpolicies : Statements.policiesOn ⟨[], [⟨"p", "t", body⟩], [⟨"public", "t", "a int"⟩]⟩ "t" =
      [Policy.ofStatement ⟨"p", "t", body⟩] := rfl
  rw [Schema.parse, h, Schema.ofStatements, List.mapM_cons, Table.ofStatement, TableBody.read, hlines, hpolicies]
  rfl

/-- In every table body, and in every table of a text, the primary keys are the names mentioned as
such in the order of their first mention, and a column is flagged just when its name is among them. -/
theorem Schema.keyed_of_parse :
    (∀ body table, ∃ b, TableBody.read body table = .ok b ∧
      TableBody.Keyed body b.columns b.primaryKeys) ∧
    ∀ t, ∃ s, Schema.parse t = .ok s ∧
      List.Forall₂ (fun declared table =>
          TableBody.Keyed declared.body table.columns table.primaryKeys)
        (Statements.locate t).1.tables s.tables := by
  refine ⟨TableBody.read_total, fun t => ?_⟩
  obtain ⟨s, hs, hall⟩ := Schema.parse_total t
  refine ⟨s, hs, hall.imp fun declared table htable => ?_⟩
  obtain ⟨b, hb, rfl⟩ := Table.ofStatement_eq_ok htable
  obtain ⟨b', hb', hkeyed⟩ := TableBody.read_total declared.body declared.name
  rw [hb, Except.ok.injEq] at hb'
  exact hb' ▸ hkeyed

end DdlAtlas
