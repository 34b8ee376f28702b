import DdlAtlas.Proofs.Body.Written
import DdlAtlas.Proofs.Column.Line
import DdlAtlas.Proofs.Text.Case

/-!
# Reading the lines of a table body

Every line is recognised as what was written: a column does not begin with a word that begins a constraint,
and a constraint is told by its first keywords behind its name.
-/

namespace DdlAtlas.Sql

open Pattern

theorem not_reads_reserved {w : Text} (hw : w ∈ reservedWords) {n : WrittenName}
    (hn : ColumnDeclaration.ProperName n) {declared : Text} (hdeclared : Text.Neat declared)
    {ps : List Pattern} {c d : Cursor} (hc : c.rest = n.written ++ ' ' :: declared) :
    ¬(sequence (word w :: space :: ps)).Reads c d := by
  intro hd
  cases hq : n.quoted with
  | true =>
    rw [WrittenName.written, if_pos hq] at hc
    obtain ⟨e, hword, -⟩ := reads_sequence_cons.mp hd
    have hquote : reservedWords.all (fun w => !(List.zipWith Text.sameLetter w ['"']).all id) = true := by
      decide
    have hfirst := List.all_eq_true.mp hquote w hw
    exact not_reads_word (t := ['"']) hc (by simpa using hfirst) hword
  | false =>
    rw [ColumnDeclaration.ProperName, if_neg (by simp [hq])] at hn
    rw [WrittenName.written, if_neg (by simp [hq])] at hc
    have hletters : reservedWords.all (fun w => decide (Text.Unbroken (Text.folded w)) &&
        w.all fun p => 65 ≤ p.toNat && p.toNat ≤ 90) = true := by decide
    have hword := List.all_eq_true.mp hletters w hw
    rw [Bool.and_eq_true, decide_eq_true_iff] at hword
    obtain ⟨hall, -⟩ := reads_word_space hd hc hword.1 hn.1.not_blank hdeclared.front
    have hascii : '\u0130' ∉ n.text ∧ '\u212a' ∉ n.text :=
      ⟨fun hm => absurd (hn.1.2 _ hm) (by decide), fun hm => absurd (hn.1.2 _ hm) (by decide)⟩
    exact hn.2 (Text.capitals_of_sameLetters hword.2 hall hascii ▸ hw)

theorem constraint_missed {w : Text} (hw : w ∈ reservedWords) {n : WrittenName}
    (hn : ColumnDeclaration.ProperName n) {declared : Text} (hdeclared : Text.Neat declared)
    (ps : List Pattern) : (sequence (constraintName :: word w :: space :: ps)).match?
      (n.written ++ ' ' :: declared) = none := by
  refine match?_eq_none fun d hd => ?_
  obtain ⟨e, hname, hd⟩ := reads_sequence_cons.mp hd
  rcases hname with hname | rfl
  · exact not_reads_reserved (w := "CONSTRAINT") (by decide) hn hdeclared rfl hname
  · exact not_reads_reserved hw hn hdeclared rfl hd

theorem read_named {n : WrittenName} (hn : ColumnDeclaration.ProperName n) {declared : Text}
    (hdeclared : Piece declared) : Line.read (n.written ++ ' ' :: declared) = .column n.text declared := by
  have hneat := hdeclared.neat
  have hprimary : primaryKeyLine.match? (n.written ++ ' ' :: declared) = none :=
    constraint_missed (w := "PRIMARY") (by decide) hn hneat _
  have hforeign : foreignKeyLine.match? (n.written ++ ' ' :: declared) = none :=
    constraint_missed (w := "FOREIGN") (by decide) hn hneat _
  have hother : otherConstraintLine.match? (n.written ++ ' ' :: declared) = none := match?_eq_none fun e he =>
    not_reads_reserved (w := "CONSTRAINT") (by decide) hn hneat rfl he
  rw [ColumnDeclaration.ProperName] at hn
  have hne : n.text ≠ [] := by
    split at hn
    · exact hn.1
    · exact hn.1.1
  have hletters : if n.quoted then '"' ∉ n.text else n.text.all Text.isWord = true := by
    split at hn
    · rename_i hq
      rw [if_pos hq]
      exact hn.2.1
    · rename_i hq
      rw [if_neg hq]
      exact List.all_eq_true.mpr fun c hc => Text.isWord_of_isAsciiWord (hn.1.2 c hc)
  obtain ⟨m, hm, hquoted, hbare, hrest⟩ := columnLine_written hne hletters hdeclared
  simp only [Line.read, hprimary, hforeign, hother, hm]
  rw [Line.ofColumnMatch, hquoted, hbare, hrest]
  cases hq : n.quoted with
  | true => rfl
  | false =>
    rw [if_neg (by simp [hq])] at hn
    simp [hn.2]

theorem read_columnLine {d : ColumnDeclaration} (hd : d.Proper) :
    Line.read d.line = .column d.name.text d.declared :=
  read_named hd.name hd.piece_declared

end DdlAtlas.Sql
