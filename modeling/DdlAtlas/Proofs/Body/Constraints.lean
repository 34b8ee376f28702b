import DdlAtlas.Proofs.Body.Lines
import DdlAtlas.Proofs.Table.KeyClause

/-!
# Reading constraints

A constraint is read behind its name, if it has one, and gives back the names between its parentheses. What is
written is one form of the clauses that can stand in front of a line.
-/

namespace DdlAtlas.Sql

open Pattern

theorem WrittenName.unbroken {n : WrittenName} (h : IsIdentifier n.text) : Text.Unbroken n.written := by
  intro c hc
  rcases WrittenName.of_mem_written h hc with rfl | hw
  · decide
  · exact Text.isBlank_of_isAsciiWord hw

theorem WrittenName.unquoted_written {n : WrittenName} (h : IsIdentifier n.text) :
    unquoted n.written = n.text := by
  rw [unquoted, n.without_quotes h]
  exact Text.trim_eq_self h.not_blank

theorem WrittenName.not_mem_written {n : WrittenName} (h : IsIdentifier n.text) {c : Char}
    (hquote : c ≠ '"') (hword : Text.isAsciiWord c = false) : c ∉ n.written := by
  intro hc
  rcases WrittenName.of_mem_written h hc with he | he
  · exact hquote he
  · simp [hword] at he

theorem label_written {name : Option WrittenName} (h : ∀ n ∈ name, IsIdentifier n.text) :
    KeyClause.Label (name.map WrittenName.written) (constraintLabel name) := by
  cases name with
  | none => exact .none
  | some n =>
    have hn := h n rfl
    have hblank : ∀ x ∈ [' '], Text.isBlank x = true := List.forall_mem_singleton.mpr (by decide)
    have hshape : constraintLabel (some n) = "CONSTRAINT" ++ ([' '] ++ (n.written ++ [' '])) := by
      simp [constraintLabel, Text.concat]
    rw [hshape]
    exact .some (Text.sameLetters_refl _) (by simp) hblank (WrittenName.written_ne_nil hn) (WrittenName.unbroken hn)
      (by simp) hblank

theorem opening_written (k : Text) : Opener [k, "KEY"] (k ++ ([' '] ++ ("KEY" ++ ([' '] ++ ['('])))) := by
  have hblank : ∀ x ∈ [' '], Text.isBlank x = true := List.forall_mem_singleton.mpr (by decide)
  exact .more (Text.sameLetters_refl k) (by simp) hblank (.last (Text.sameLetters_refl _) hblank)

theorem WrittenName.listed {n : WrittenName} (h : IsIdentifier n.text) : KeyClause.Listed n.written :=
  ⟨WrittenName.written_ne_nil h, WrittenName.not_mem_written h (by decide) (by decide)⟩

theorem listed_names {first : WrittenName} {more : List WrittenName}
    (h : ∀ n ∈ first :: more, IsIdentifier n.text) :
    KeyClause.Listed (Text.join ", " ((first :: more).map WrittenName.written)) := by
  refine ⟨?_, Text.not_mem_join (by decide) fun t ht => ?_⟩
  · have hpieces : ∀ u ∈ first.written :: more.map WrittenName.written, Piece u ∧ Closed u := by
      intro u hu
      rw [← List.map_cons] at hu
      obtain ⟨n, hn, rfl⟩ := List.mem_map.mp hu
      exact WrittenName.piece_closed (h n hn)
    exact (list_of_pieces hpieces).2.2.ne_nil
  · obtain ⟨n, hn, rfl⟩ := List.mem_map.mp ht
    exact (WrittenName.listed (h n hn)).2

theorem unquoted_cons_space (t : Text) : unquoted (' ' :: t) = unquoted t := by
  have hspace : Text.isBlank ' ' = true := by decide
  simp [unquoted, Text.without, Text.trim, Text.trimStart, hspace]

theorem unquoted_cells_names {first : WrittenName} {more : List WrittenName}
    (h : ∀ n ∈ first :: more, IsIdentifier n.text) :
    (Text.cells ',' (Text.join ", " ((first :: more).map WrittenName.written))).map unquoted =
      (first :: more).map (·.text) := by
  induction more generalizing first with
  | nil =>
    have hfirst := h first List.mem_cons_self
    have hcomma : ',' ∉ first.written := WrittenName.not_mem_written hfirst (by decide) (by decide)
    simp [Text.join, Text.cells_of_not_mem hcomma, WrittenName.unquoted_written hfirst]
  | cons next more ih =>
    have hfirst := h first List.mem_cons_self
    have hcomma : ',' ∉ first.written := WrittenName.not_mem_written hfirst (by decide) (by decide)
    have hrest := ih fun n hn => h n (List.mem_cons_of_mem first hn)
    have hshape : Text.join ", " ((first :: next :: more).map WrittenName.written) = first.written ++
        ',' :: ' ' :: Text.join ", " ((next :: more).map WrittenName.written) := by
      rw [List.map_cons, List.map_cons, Text.join_cons_cons, List.append_assoc]
      rfl
    have hcells : Text.cells ',' (' ' :: Text.join ", " ((next :: more).map WrittenName.written)) =
        (Text.cells ',' (Text.join ", " ((next :: more).map WrittenName.written))).modifyHead
          (' ' :: ·) := by
      simp [Text.cells]
    rw [hshape, Text.cells_append_cons hcomma, hcells, List.map_cons, WrittenName.unquoted_written hfirst]
    cases hlist : Text.cells ',' (Text.join ", " ((next :: more).map WrittenName.written)) with
    | nil => exact absurd hlist (Text.cells_ne_nil _ _)
    | cons cell cells =>
      rw [hlist] at hrest
      rw [List.modifyHead_cons, List.map_cons, unquoted_cons_space, ← List.map_cons, hrest]
      rfl

theorem read_primaryKey {name : Option WrittenName} (hname : ∀ n ∈ name, IsIdentifier n.text)
    {first : WrittenName} {more : List WrittenName} (h : ∀ n ∈ first :: more, IsIdentifier n.text) :
    Line.read (constraintLabel name ++ Constraint.written (.primaryKey first more)) =
      .primaryKey ((first :: more).map (·.text)) := by
  let names := Text.join ", " ((first :: more).map WrittenName.written)
  have hshape : Constraint.written (.primaryKey first more) =
      "PRIMARY" ++ ([' '] ++ ("KEY" ++ ([' '] ++ ['(']))) ++ (names ++ ')' :: []) := rfl
  have hopening := opening_written "PRIMARY"
  obtain ⟨groups, -, hrun⟩ := KeyClause.run_label (label_written hname) (w := "PRIMARY") (by decide)
    (hopening.begins (names ++ ')' :: []))
  have hmatch := match?_of_run (p := primaryKeyLine)
    (hrun (KeyClause.run_opening hopening (listed_names h) [] some _ [] _ 2 groups))
  rw [← hshape] at hmatch
  simp only [Line.read, hmatch]
  refine congrArg Line.primaryKey ((congrArg (fun t => (Text.cells ',' t).map unquoted) ?_).trans
    (unquoted_cells_names h))
  simp [Match.group, Match.group?]

theorem heads_written {name : Option WrittenName} (hname : ∀ n ∈ name, IsIdentifier n.text)
    {key referenced : WrittenName} {table : Mention} (hkey : IsIdentifier key.text) (htable : table.Named)
    (hreferenced : IsIdentifier referenced.text) :
    KeyClause.Heads ⟨name.map WrittenName.written, key.written, table.written, referenced.written⟩
      (constraintLabel name ++ Constraint.written (.foreignKey key table referenced)) := by
  have hblank : ∀ x ∈ [' '], Text.isBlank x = true := List.forall_mem_singleton.mpr (by decide)
  have hsolid : ∀ x ∈ table.written, Text.isBlank x = false ∧ x ≠ '(' := by
    refine fun x hx => ⟨Mention.not_blank htable x hx, ?_⟩
    rintro rfl
    exact Mention.not_mem_written htable (by decide) (by decide) (by decide) hx
  let target := ("REFERENCES" : Text) ++ ([' '] ++ (table.written ++ ([] ++ '(' :: (referenced.written ++ [')']))))
  have htarget : KeyClause.Target table.written referenced.written target :=
    .mk (Text.sameLetters_refl _) (by simp) hblank (Mention.written_ne_nil htable) hsolid (List.forall_mem_nil _)
      (WrittenName.listed hreferenced)
  have hshape : Constraint.written (.foreignKey key table referenced) =
      "FOREIGN" ++ ([' '] ++ ("KEY" ++ ([' '] ++ ['(']))) ++ (key.written ++ ')' :: ([' '] ++ (target ++ []))) := by
    simp [Constraint.written, Text.concat, target]
  rw [hshape]
  exact .mk (label_written hname) (opening_written "FOREIGN") (WrittenName.listed hkey) hblank htarget

theorem read_foreignKey {name : Option WrittenName} (hname : ∀ n ∈ name, IsIdentifier n.text)
    {key referenced : WrittenName} {table : Mention} (hkey : IsIdentifier key.text) (htable : table.Named)
    (hreferenced : IsIdentifier referenced.text) :
    Line.read (constraintLabel name ++ Constraint.written (.foreignKey key table referenced)) =
      .foreignKey (name.map (·.text)) key.text table.table.text referenced.text := by
  have hlabel : (name.map WrittenName.written).map unquoted = name.map (·.text) := by
    cases name with
    | none => rfl
    | some n => exact congrArg some (WrittenName.unquoted_written (hname n rfl))
  rw [(heads_written hname hkey htable hreferenced).read, KeyClause.line, hlabel, WrittenName.unquoted_written hkey,
    WrittenName.unquoted_written hreferenced, Mention.ofText_written htable]

theorem read_otherConstraint {name : Option WrittenName} (hname : ∀ n ∈ name, IsIdentifier n.text)
    {k content : Text} (hk : IsIdentifier k ∧ Text.capitals k ∈ reservedWords)
    (hleads : KeyClause.Leads k) (hapart : Text.Apart "PRIMARY" k ∧ Text.Apart "FOREIGN" k)
    (hcontent : Closed content ∧ Unmarked content ∧ Text.Tidy content) :
    Line.read (constraintLabel name ++ (k ++ ' ' :: '(' :: (content ++ [')']))) =
      if name.isSome then .otherConstraint else .reserved := by
  have hbegins : Text.Begins k (k ++ ' ' :: '(' :: (content ++ [')'])) :=
    ⟨k, Text.sameLetters_refl k, List.prefix_append _ _⟩
  have hnoPrimary : primaryKeyLine.match?
      (constraintLabel name ++ (k ++ ' ' :: '(' :: (content ++ [')']))) = none :=
    KeyClause.match?_eq_none_of_label (label_written hname) hleads hbegins (by decide) hapart.1 _
  have hnoForeign : foreignKeyLine.match?
      (constraintLabel name ++ (k ++ ' ' :: '(' :: (content ++ [')']))) = none :=
    KeyClause.match?_eq_none_of_label (label_written hname) hleads hbegins (by decide) hapart.2 _
  cases name with
  | none =>
    have hother : otherConstraintLine.match? (k ++ ' ' :: '(' :: (content ++ [')'])) = none :=
      match?_eq_none fun d hd => by
        obtain ⟨e, hnamed, -⟩ := reads_sequence_cons.mp hd
        exact hleads.not_begins hbegins (begins_of_reads_word hnamed)
    obtain ⟨m, hm, hquoted, hbare, -⟩ := columnLine_written (n := ⟨k, false⟩) hk.1.1
      (List.all_eq_true.mpr fun c hc => Text.isWord_of_isAsciiWord (hk.1.2 c hc))
      (piece_enclosed hcontent.1 hcontent.2.1 hcontent.2.2)
    have hcolumn : columnLine.match? (k ++ ' ' :: '(' :: (content ++ [')'])) = some m := hm
    simp only [constraintLabel, List.nil_append] at hnoPrimary hnoForeign ⊢
    simp only [Line.read, hnoPrimary, hnoForeign, hother, hcolumn]
    simp [Line.ofColumnMatch, hquoted, hbare, hk.2]
  | some n =>
    obtain ⟨d, hd⟩ : ∃ d, otherConstraintLine.run some (.start (constraintLabel (some n) ++
        (k ++ ' ' :: '(' :: (content ++ [')'])))) = some d := by
      have hn := hname n rfl
      have hshape : constraintLabel (some n) ++ (k ++ ' ' :: '(' :: (content ++ [')'])) =
          "CONSTRAINT" ++ ' ' :: (n.written ++ ' ' :: (k ++ ' ' :: '(' :: (content ++ [')']))) := by
        simp [constraintLabel, Text.concat]
      rw [hshape]
      exact ⟨_, (run_word _).trans (run_space
        (head?_append_not_blank (WrittenName.written_ne_nil hn) (WrittenName.unbroken hn)))⟩
    simp only [Line.read, hnoPrimary, hnoForeign, match?_of_run hd]
    rfl

/-- Every line of a table body is read as what is declared in it. -/
theorem TableDeclaration.read_written {d : TableDeclaration} (h : d.Proper) : Line.read d.written = d.line := by
  cases d with
  | column d => exact read_columnLine h.1
  | constraint name c =>
    obtain ⟨hname, hproper⟩ := h
    cases c with
    | primaryKey first more => exact read_primaryKey hname hproper
    | foreignKey key table referenced => exact read_foreignKey hname hproper.1 hproper.2.1 hproper.2.2
    | unique content =>
      have hread := read_otherConstraint (k := "UNIQUE") hname (by decide) (by decide) (by decide) hproper
      cases name <;> exact hread
    | check content =>
      have hread := read_otherConstraint (k := "CHECK") hname (by decide) (by decide) (by decide) hproper
      cases name <;> exact hread

end DdlAtlas.Sql
