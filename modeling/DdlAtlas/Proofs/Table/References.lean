import DdlAtlas.Proofs.Comment.Lines
import DdlAtlas.Proofs.Name.Written
import DdlAtlas.Proofs.Table.Declared
import DdlAtlas.Proofs.Table.Flat
import DdlAtlas.Proofs.Table.KeyClause
import DdlAtlas.Proofs.Text.Rows

/-!
# The columns of foreign keys

The foreign keys of a table are those that its lines begin with, in order. Each is kept as one column that refers to
one column, but a clause lists columns between parentheses, and the list is not cut at its commas as that of a primary
key is. The key is thus one of single columns just when each of both lists names one.
-/

namespace DdlAtlas.Sql

open Pattern

def IsColumnName (t : Text) : Prop :=
  t ≠ [] ∧ ',' ∉ t

instance (t : Text) : Decidable (IsColumnName t) :=
  inferInstanceAs (Decidable (_ ∧ _))

def IsBareName (t : Text) : Prop :=
  '.' ∉ t ∧ '"' ∉ t ∧ '\x60' ∉ t

instance (t : Text) : Decidable (IsBareName t) :=
  inferInstanceAs (Decidable (_ ∧ _))

def listedNames (list : Text) : List Text :=
  (Text.cells ',' list).map unquoted

def ListsOne (list : Text) : Prop :=
  ∃ name, name ≠ [] ∧ listedNames list = [name]

theorem mem_unquoted {c : Char} (hblank : Text.isBlank c = false) {t : Text} :
    c ∈ unquoted t ↔ c ∈ t ∧ c ≠ '"' ∧ c ≠ '\x60' := by
  rw [unquoted, ← List.count_pos_iff, Text.count_trim hblank, List.count_pos_iff, Text.without, Text.without,
    List.mem_filter, List.mem_filter, bne_iff_ne, bne_iff_ne, and_assoc]

theorem isColumnName_unquoted {list : Text} : IsColumnName (unquoted list) ↔ ListsOne list := by
  have hcomma : ',' ∈ unquoted list ↔ ',' ∈ list :=
    (mem_unquoted (by decide)).trans (and_iff_left (by decide))
  have hone : ',' ∉ list → listedNames list = [unquoted list] := fun h => by
    rw [listedNames, Text.cells_of_not_mem h, List.map_singleton]
  constructor
  · rintro ⟨hne, hnot⟩
    exact ⟨unquoted list, hne, hone (mt hcomma.mpr hnot)⟩
  · rintro ⟨name, hne, hnames⟩
    have hcount : list.count ',' = 0 := by
      have hlength := congrArg List.length hnames
      rw [listedNames, List.length_map, Text.length_cells, List.length_singleton] at hlength
      omega
    have hnot := List.count_eq_zero.mp hcount
    obtain rfl : unquoted list = name := by simpa [hone hnot] using hnames
    exact ⟨hne, mt hcomma.mp hnot⟩

theorem splitAtLast?_cases (c : Char) (t : Text) :
    c ∉ t ∧ splitAtLast? c t = none ∨
      ∃ front back, t = front ++ c :: back ∧ c ∉ back ∧ splitAtLast? c t = some (front, back) := by
  by_cases h : c ∈ t
  · obtain ⟨back, front, ht, hback⟩ := List.eq_append_cons_of_mem (List.mem_reverse.mpr h)
    have hback : c ∉ back.reverse := mt List.mem_reverse.mp hback
    have ht : t = front.reverse ++ c :: back.reverse := by simpa using congrArg List.reverse ht
    exact .inr ⟨_, _, ht, hback, ht ▸ splitAtLast?_append hback⟩
  · exact .inl ⟨h, splitAtLast?_of_not_mem h⟩

theorem QualifiedName.isBareName (t : Text) : IsBareName (ofText t).name := by
  have hquote : '"' ∉ unquoted t := fun h => ((mem_unquoted (by decide)).mp h).2.1 rfl
  have hback : '\x60' ∉ unquoted t := fun h => ((mem_unquoted (by decide)).mp h).2.2 rfl
  rcases splitAtLast?_cases '.' (unquoted t) with ⟨hpoint, hsplit⟩ | ⟨schema, name, ht, hpoint, hsplit⟩
  · have hname : (ofText t).name = unquoted t := by rw [ofText, hsplit]
    rw [hname]
    exact ⟨hpoint, hquote, hback⟩
  · have hname : (ofText t).name = name := by cases schema <;> rw [ofText, hsplit]
    have hpart : name ⊆ unquoted t := by
      rw [ht]
      exact List.Subset.trans (List.subset_cons_self _ _) (List.subset_append_right _ _)
    rw [hname]
    exact ⟨hpoint, mt (@hpart _) hquote, mt (@hpart _) hback⟩

def KeyClause.key (table : Text) (k : KeyClause) : ForeignKey where
  column := unquoted k.columns
  referencedTable := (QualifiedName.ofText k.table).name
  referencedColumn := unquoted k.referenced
  constraintName := (k.name.map unquoted).getD (TableBody.defaultKeyName table (unquoted k.columns))

inductive ClausesIn : List Text → List KeyClause → Prop
  | nil : ClausesIn [] []
  | clause {lines : List Text} {clauses : List KeyClause} {line : Text} {k : KeyClause}
      (h : ClausesIn lines clauses) (hk : k.Heads line) : ClausesIn (lines ++ [line]) (clauses ++ [k])
  | other {lines : List Text} {clauses : List KeyClause} {line : Text}
      (h : ClausesIn lines clauses) (hline : ∀ k : KeyClause, ¬k.Heads line) : ClausesIn (lines ++ [line]) clauses

namespace TableBody

theorem add_of_heads {k : KeyClause} {line : Text} (h : k.Heads line) (table : Text) (b : TableBody) :
    add table b (Line.read line) = .ok { b with foreignKeys := b.foreignKeys ++ [k.key table] } := by
  rw [h.read]
  rfl

theorem foreignKeys_of_add {table line : Text} {b b' : TableBody} (hline : ∀ k : KeyClause, ¬k.Heads line)
    (h : add table b (Line.read line) = .ok b') : b'.foreignKeys = b.foreignKeys := by
  generalize hread : Line.read line = read at h
  cases added_of_add h with
  | primaryKey columns => simp
  | foreignKey constraint column referenced key =>
    obtain ⟨k, hk, -⟩ := KeyClause.heads_of_read hread
    exact absurd hk (hline k)
  | column _ => simp
  | otherConstraint | reserved | unrecognized => rfl

theorem read_clauses (body table : Text) :
    ∃ b clauses, read body table = .ok b ∧ ClausesIn (logicalLines body) clauses ∧
      b.foreignKeys = clauses.map (KeyClause.key table) := by
  obtain ⟨b, hb, clauses, hclauses, hkeys⟩ := read_total_of_step table
    (P := fun seen b => ∃ clauses, ClausesIn seen clauses ∧ b.foreignKeys = clauses.map (KeyClause.key table))
    ⟨[], .nil, rfl⟩
    (fun seen line b b' _ hadd ⟨clauses, hclauses, hkeys⟩ => by
      by_cases hline : ∃ k : KeyClause, k.Heads line
      · obtain ⟨k, hk⟩ := hline
        rw [add_of_heads hk] at hadd
        obtain rfl := Except.ok.inj hadd
        exact ⟨clauses ++ [k], .clause hclauses hk, by simp [hkeys]⟩
      · have hnone := not_exists.mp hline
        exact ⟨clauses, .other hclauses hnone, (foreignKeys_of_add hnone hadd).trans hkeys⟩) body
  exact ⟨b.flagKeys, clauses, hb, hclauses, hkeys⟩

/-- Every foreign key of a body refers to a table by its bare name, and is one of single columns just when the clause
that declares it lists one column on either side. -/
theorem read_singleColumn_iff (body table : Text) :
    ∃ b clauses, read body table = .ok b ∧ ClausesIn (logicalLines body) clauses ∧
      b.foreignKeys = clauses.map (KeyClause.key table) ∧ (∀ k ∈ b.foreignKeys, IsBareName k.referencedTable) ∧
      ∀ clause ∈ clauses, (IsColumnName (clause.key table).column ↔ ListsOne clause.columns) ∧
        (IsColumnName (clause.key table).referencedColumn ↔ ListsOne clause.referenced) := by
  obtain ⟨b, clauses, hb, hclauses, hkeys⟩ := read_clauses body table
  refine ⟨b, clauses, hb, hclauses, hkeys, fun k hk => ?_, fun clause _ => ?_⟩
  · rw [hkeys, List.mem_map] at hk
    obtain ⟨clause, -, rfl⟩ := hk
    exact QualifiedName.isBareName clause.table
  · exact ⟨isColumnName_unquoted, isColumnName_unquoted⟩

theorem read_pairedKey :
    read "a int, b int, CONSTRAINT k FOREIGN KEY (a, b) REFERENCES t(c, d)" "s" =
        .ok ⟨[⟨"a", "int", true, none, false, false, none⟩, ⟨"b", "int", true, none, false, false, none⟩], [],
          [⟨"a, b", "t", "c, d", "k"⟩]⟩ ∧
      ¬IsColumnName "a, b" ∧ ¬IsColumnName "c, d" := by
  have hunmarked : Unmarked "a int, b int, CONSTRAINT k FOREIGN KEY (a, b) REFERENCES t(c, d)" := by decide +kernel
  have hlines : logicalLines "a int, b int, CONSTRAINT k FOREIGN KEY (a, b) REFERENCES t(c, d)" =
      ["a int".toList, "b int".toList, "CONSTRAINT k FOREIGN KEY (a, b) REFERENCES t(c, d)".toList] := by
    rw [logicalLines, hunmarked.withoutComments_eq]
    decide +kernel
  refine ⟨?_, by decide, by decide⟩
  rw [read, hlines]
  decide +kernel

end TableBody

end DdlAtlas.Sql
