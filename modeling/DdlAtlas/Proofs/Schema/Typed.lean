import DdlAtlas.Proofs.Comment.Lines
import DdlAtlas.Proofs.Schema.Parsed
import DdlAtlas.Proofs.Text.Blank
import DdlAtlas.Proofs.Text.Mention

/-!
# Every column has a name and a type

Whatever the text, what a column line declares behind the name is not blank. Its type is then what the
cuts leave of the longest front that looks like a type, trimmed, or the first word; neither is empty and
neither has a blank at an end. The last pass over a body changes flags only.
-/

namespace DdlAtlas

namespace Text

structure Tight (t : Text) : Prop where
  ne_nil : t ≠ []
  head : ∀ c ∈ t.head?, isBlank c = false
  last : ∀ c ∈ t.getLast?, isBlank c = false

theorem tight_trim {t : Text} (h : trim t ≠ []) : (trim t).Tight :=
  ⟨h, not_blank_of_head?_trim, not_blank_of_getLast?_trim⟩

theorem tight_of_mem_words {t w : Text} (h : w ∈ words t) : w.Tight := by
  obtain ⟨hne, hblank⟩ := mem_words h
  exact ⟨hne, fun c hc => hblank c (List.mem_of_mem_head? hc),
    fun c hc => hblank c (List.mem_of_mem_getLast? hc)⟩

theorem exists_of_words_ne_nil {t : Text} (h : words t ≠ []) : ∃ x ∈ t, isBlank x = false := by
  induction t with
  | nil => exact absurd rfl h
  | cons c t ih =>
    cases hc : isBlank c with
    | false => exact ⟨c, List.mem_cons_self, hc⟩
    | true =>
      rw [words_cons_blank hc] at h
      obtain ⟨x, hx, hblank⟩ := ih h
      exact ⟨x, List.mem_cons_of_mem c hx, hblank⟩

end Text

structure Column.Typed (c : Column) : Prop where
  name : c.name ≠ []
  type : c.type.Tight

namespace Sql

theorem tight_of_columnType {declared type : Text} (hwords : Text.words declared ≠ [])
    (h : columnType declared = .ok type) : type.Tight := by
  rcases columnType_eq_ok h with rfl | ⟨m, -, rfl, hne⟩
  · obtain ⟨first, more, hfirst⟩ := List.exists_cons_of_ne_nil hwords
    rw [hfirst]
    exact Text.tight_of_mem_words (hfirst ▸ List.mem_cons_self)
  · exact Text.tight_trim hne

theorem typed_of_columnOf {name declared : Text} {c : Column} (hname : name ≠ [])
    (hwords : Text.words declared ≠ []) (h : columnOf name declared = .ok c) : c.Typed := by
  obtain ⟨rfl, htype, -, -⟩ := columnOf_eq_ok h
  exact ⟨hname, tight_of_columnType hwords htype⟩

namespace TableBody

def Typed (b : TableBody) : Prop :=
  ∀ c ∈ b.columns, c.Typed

theorem typed_empty : empty.Typed := by
  simp [Typed, empty]

theorem Typed.add {b b' : TableBody} (h : b.Typed) {table line : Text} (hs : Text.SingleSpaced line)
    (hadd : add table b (Line.read line) = .ok b') : b'.Typed := by
  generalize hline : Line.read line = read at hadd
  cases added_of_add hadd with
  | primaryKey columns => simpa [Typed] using h
  | column hc =>
    have htyped := typed_of_columnOf (name_ne_nil_of_read hline) (words_ne_nil_of_read hs hline) hc
    intro d hd
    rw [columns_addColumn] at hd
    rcases List.mem_append.mp hd with hd | hd
    · exact h d hd
    · exact List.mem_singleton.mp hd ▸ htyped
  | foreignKey | otherConstraint | reserved | unrecognized => exact h

theorem Typed.flagKeys {b : TableBody} (h : b.Typed) : b.flagKeys.Typed := by
  intro c hc
  simp only [TableBody.flagKeys, List.mem_map] at hc
  obtain ⟨d, hd, rfl⟩ := hc
  have htyped := h d hd
  split
  · exact ⟨htyped.name, htyped.type⟩
  · exact htyped

theorem read_typed (body table : Text) : ∃ b, read body table = .ok b ∧ b.Typed := by
  obtain ⟨b, hb, htyped⟩ := read_total_of_step table (P := fun _ b => b.Typed) typed_empty
    (fun _ _ _ _ hs hadd h => h.add hs hadd) body
  exact ⟨b.flagKeys, hb, htyped.flagKeys⟩

end TableBody

end Sql

namespace Schema

open Sql

/-- In a table body no column is declared by blanks alone, so that reading a body or a whole text never
fails; and every column that comes out has a name and a type without blanks around it. -/
theorem parse_typed :
    (∀ body line name declared, line ∈ logicalLines body → Line.read line = .column name declared →
      (∃ x ∈ declared, Text.isBlank x = false) ∧ ∃ type, columnType declared = .ok type) ∧
    (∀ body table, ∃ b, TableBody.read body table = .ok b ∧ b.Typed) ∧
    ∀ t, ∃ s, parse t = .ok s ∧ ∀ table ∈ s.tables, ∀ c ∈ table.columns, c.Typed := by
  refine ⟨fun body line name declared hline hread => ?_, TableBody.read_typed, fun t => ?_⟩
  · have hwords := words_ne_nil_of_read (singleSpaced_of_mem_logicalLines hline) hread
    exact ⟨Text.exists_of_words_ne_nil hwords, columnType_total hwords⟩
  · obtain ⟨s, hs, hall⟩ := parse_total t
    refine ⟨s, hs, fun table htable => ?_⟩
    obtain ⟨declared, -, hdeclared⟩ := exists_of_mem_forall₂ hall htable
    obtain ⟨b, hb, rfl⟩ := Table.ofStatement_eq_ok hdeclared
    obtain ⟨b', hb', htyped⟩ := TableBody.read_typed declared.body declared.name
    rw [hb, Except.ok.injEq] at hb'
    exact hb' ▸ htyped

def strangeBody : Text :=
  "b\u00a0\n DEFAULT\t5, \u3000,,\"c\" ()"

theorem parse_typed_strangeBody :
    ("b DEFAULT 5".toList ∈ logicalLines strangeBody ∧
      Line.read "b DEFAULT 5" = .column "b" "DEFAULT 5" ∧
      (∃ x ∈ "DEFAULT 5".toList, Text.isBlank x = false) ∧
      ∃ type, columnType "DEFAULT 5" = .ok type) ∧
    ("\"c\" ()".toList ∈ logicalLines strangeBody ∧
      Line.read "\"c\" ()" = .column "c" "()" ∧
      (∃ x ∈ "()".toList, Text.isBlank x = false) ∧
      ∃ type, columnType "()" = .ok type) := by
  have hunmarked : Unmarked strangeBody := by decide +kernel
  have hlines : logicalLines strangeBody = ["b DEFAULT 5".toList, "\"c\" ()".toList] := by
    rw [logicalLines, hunmarked.withoutComments_eq]
    decide +kernel
  have hfirst : "b DEFAULT 5".toList ∈ logicalLines strangeBody := by simp [hlines]
  have hsecond : "\"c\" ()".toList ∈ logicalLines strangeBody := by simp [hlines]
  have hb : Line.read "b DEFAULT 5" = .column "b" "DEFAULT 5" := by decide +kernel
  have hc : Line.read "\"c\" ()" = .column "c" "()" := by decide +kernel
  exact ⟨⟨hfirst, hb, parse_typed.1 _ _ _ _ hfirst hb⟩, ⟨hsecond, hc, parse_typed.1 _ _ _ _ hsecond hc⟩⟩

end Schema

end DdlAtlas
