import DdlAtlas.Proofs.Body.Spacing
import DdlAtlas.Proofs.Text.Phrase

/-!
# Bodies behind one another

A body whose parentheses and literals are closed goes up to the comma behind it, whatever follows. The
lines of both bodies are then read one after the other, and what the later ones declare is added to what
the earlier ones did: of the keys only those that are new, and of the earlier columns nothing changes but
the flag of a key.
-/

namespace DdlAtlas.Sql

theorem uncommented_append_newline {s : Option Char} {t : Text} (h : ¬['-', '-'] <:+: t) (rest : Text) :
    uncommented s (t ++ '\n' :: rest) = t ++ '\n' :: uncommented none rest := by
  induction t generalizing s with
  | nil => exact uncommented_newline s rest
  | cons c t ih =>
    have hcut : ¬(s = none ∧ c = '-' ∧ (t ++ '\n' :: rest).head? = some '-') := by
      rintro ⟨-, rfl, hnext⟩
      cases t with
      | nil => exact absurd (Option.some.inj hnext) (by decide)
      | cons d t => exact head?_ne_of_absent h ⟨rfl, hnext⟩
    rw [List.cons_append, uncommented_cons hcut, ih (absent_of_cons h)]
    rfl

theorem Unmarked.withoutComments_append_newline {t : Text} (h : Unmarked t) (rest : Text) :
    withoutComments (t ++ '\n' :: rest) = t ++ '\n' :: withoutComments rest := by
  have hshut : leavesOpen t = false := by
    rw [leavesOpen, withoutBlocks_of_absent h.2, Bool.eq_false_iff, ne_eq, Text.hasPart_iff]
    exact h.2
  have hblocks : withoutBlocks (t ++ '\n' :: rest) = t ++ '\n' :: withoutBlocks rest := by
    rw [withoutBlocks_append (by simp) (by simp [hshut]), withoutBlocks_of_absent h.2,
      withoutBlocks_cons_of_not (by simp)]
  rw [withoutComments_eq_uncommented, withoutComments_eq_uncommented, hblocks,
    uncommented_append_newline h.1]

theorem logicalLines_append {front : Text} (hunmarked : Unmarked front)
    (hfront : front.foldl Nesting.step .outside = .outside) (back : Text) :
    logicalLines (front ++ ',' :: '\n' :: back) = logicalLines front ++ logicalLines back := by
  have hbare : withoutComments (front ++ ',' :: '\n' :: back) =
      front ++ ',' :: '\n' :: withoutComments back := by
    have hcomma : Unmarked (front ++ [',']) := hunmarked.append_cons unmarked_nil (by decide)
    simpa using hcomma.withoutComments_append_newline back
  have hcut : (front.foldl Nesting.step .outside).cutsAt [','] ',' = true := by
    rw [hfront]
    rfl
  have hblank : ((Nesting.pieces [','] .outside ('\n' :: withoutComments back)).map Text.words) =
      (Nesting.pieces [','] .outside (withoutComments back)).map Text.words :=
    Nesting.words_pieces_cons_blank (by simp [Nesting.outside]) (by decide)
  rw [logicalLines_eq, logicalLines_eq, logicalLines_eq, hbare, hunmarked.withoutComments_eq,
    Nesting.pieces_append_cons hcut, hfront, List.map_append, hblank, List.map_append, List.filter_append]

namespace TableBody

/-- What a body and a later one declare together: a key that the first one has is not added again. -/
def merge (b c : TableBody) : TableBody :=
  ⟨b.columns ++ c.columns, b.primaryKeys ++ c.primaryKeys.filter (!b.primaryKeys.contains ·),
    b.foreignKeys ++ c.foreignKeys⟩

theorem merge_empty (b : TableBody) : b.merge empty = b := by
  simp [merge, empty]

theorem merge_addPrimaryKey (b c : TableBody) (name : Text) :
    (b.merge c).addPrimaryKey name = b.merge (c.addPrimaryKey name) := by
  by_cases hname : name = []
  · simp [addPrimaryKey, hname]
  · by_cases hfront : name ∈ b.primaryKeys
    · by_cases hback : name ∈ c.primaryKeys
      · simp [addPrimaryKey, merge, hname, hfront, hback]
      · simp [addPrimaryKey, merge, hname, hfront, hback]
    · by_cases hback : name ∈ c.primaryKeys
      · simp [addPrimaryKey, merge, hname, hfront, hback]
      · simp [addPrimaryKey, merge, hname, hfront, hback]

theorem merge_foldl_addPrimaryKey (b c : TableBody) (names : List Text) :
    names.foldl addPrimaryKey (b.merge c) = b.merge (names.foldl addPrimaryKey c) := by
  induction names generalizing c with
  | nil => rfl
  | cons name names ih => rw [List.foldl_cons, List.foldl_cons, merge_addPrimaryKey, ih]

theorem merge_addColumn (b c : TableBody) (column : Column) :
    (b.merge c).addColumn column = b.merge (c.addColumn column) := by
  have hcolumns : ∀ c : TableBody, { b.merge c with columns := (b.merge c).columns ++ [column] } =
      b.merge { c with columns := c.columns ++ [column] } := by
    intro c
    simp [merge]
  unfold addColumn
  split
  · rw [merge_addPrimaryKey, hcolumns]
  · rw [hcolumns]

theorem add_merge (table : Text) (b c : TableBody) (line : Line) :
    add table (b.merge c) line = (add table c line).map b.merge := by
  cases line with
  | primaryKey columns => exact congrArg Except.ok (merge_foldl_addPrimaryKey b c columns)
  | foreignKey constraint column referenced key => simp [add, merge, Except.map]
  | column name declared =>
    simp only [add]
    cases columnOf name declared with
    | error e => rfl
    | ok column => exact congrArg Except.ok (merge_addColumn b c column)
  | otherConstraint | reserved | unrecognized => rfl

theorem foldlM_add_merge (table : Text) (b c : TableBody) (lines : List Line) :
    lines.foldlM (add table) (b.merge c) = (lines.foldlM (add table) c).map b.merge := by
  induction lines generalizing c with
  | nil => rfl
  | cons line lines ih =>
    rw [List.foldlM_cons, List.foldlM_cons, add_merge]
    cases add table c line with
    | error e => rfl
    | ok c' => exact ih c'

def flagged (keys : List Text) (c : Column) : Column :=
  if keys.contains c.name then { c with isPrimaryKey := true } else c

theorem flagged_flagged {keys more : List Text} (h : ∀ k ∈ keys, k ∈ more) (c : Column) :
    flagged more (flagged keys c) = flagged more c := by
  by_cases hkey : c.name ∈ keys
  · simp [flagged, hkey, h c.name hkey]
  · simp [flagged, hkey]

theorem flagKeys_eq (b : TableBody) : b.flagKeys = { b with columns := b.columns.map (flagged b.primaryKeys) } :=
  rfl

theorem mem_keys_merge {b c : TableBody} {k : Text} :
    k ∈ (b.merge c).primaryKeys ↔ k ∈ b.primaryKeys ∨ k ∈ c.primaryKeys := by
  by_cases hk : k ∈ b.primaryKeys
  · simp [merge, hk]
  · simp [merge, hk]

theorem flagKeys_merge_flagKeys (b c : TableBody) :
    (b.flagKeys.merge c.flagKeys).flagKeys = (b.merge c).flagKeys := by
  have hinFront : ∀ k ∈ b.primaryKeys, k ∈ (b.merge c).primaryKeys := fun k hk => mem_keys_merge.mpr (.inl hk)
  have hinBack : ∀ k ∈ c.primaryKeys, k ∈ (b.merge c).primaryKeys := fun k hk => mem_keys_merge.mpr (.inr hk)
  have hfront := flagged_flagged hinFront
  have hback := flagged_flagged hinBack
  have hcolumns : (b.flagKeys.merge c.flagKeys).columns.map (flagged (b.merge c).primaryKeys) =
      (b.merge c).columns.map (flagged (b.merge c).primaryKeys) := by
    simp only [merge, flagKeys_eq, List.map_append, List.map_map] at hfront hback ⊢
    congr 1
    · exact List.map_congr_left fun x _ => hfront x
    · exact List.map_congr_left fun x _ => hback x
  exact congrArg (fun columns => { b.merge c with columns }) hcolumns

theorem read_eq_ok {body table : Text} {b : TableBody} (h : read body table = .ok b) :
    ∃ raw, ((logicalLines body).map Line.read).foldlM (add table) empty = .ok raw ∧ b = raw.flagKeys := by
  rw [read] at h
  cases hraw : ((logicalLines body).map Line.read).foldlM (add table) empty with
  | error e => simp [hraw, Except.map] at h
  | ok raw => exact ⟨raw, rfl, by simpa [hraw, Except.map] using h.symm⟩

theorem read_of_lines_append {front back whole table : Text}
    (hlines : logicalLines whole = logicalLines front ++ logicalLines back) {b c : TableBody}
    (hb : read front table = .ok b) (hc : read back table = .ok c) :
    read whole table = .ok (b.merge c).flagKeys := by
  obtain ⟨b, hfront, rfl⟩ := read_eq_ok hb
  obtain ⟨c, hback, rfl⟩ := read_eq_ok hc
  have hmore := foldlM_add_merge table b empty ((logicalLines back).map Line.read)
  rw [merge_empty, hback] at hmore
  rw [flagKeys_merge_flagKeys, read, hlines, List.map_append, List.foldlM_append, hfront]
  exact congrArg (Except.map flagKeys) hmore

theorem columns_flagKeys {b : TableBody} (h : ∀ c ∈ b.columns, c.isPrimaryKey = true → c.name ∈ b.primaryKeys) :
    b.flagKeys.columns = b.columns.map fun c => { c with isPrimaryKey := b.primaryKeys.contains c.name } := by
  refine List.map_congr_left fun c hc => ?_
  by_cases hkey : c.name ∈ b.primaryKeys
  · simp [hkey]
  · have hflag : c.isPrimaryKey = false := Bool.eq_false_iff.mpr fun hset => hkey (h c hc hset)
    have hsame : { c with isPrimaryKey := false } = c := by rw [← hflag]
    simp [hkey, hsame]

/-- A body without comment marks that leads outside literals and parentheses again, and any other one behind
it: the lines of the one come in front of those of the other, and so do the notes, the foreign keys, the
primary keys that are new, and the columns, in which nothing changes but the flags of the keys. -/
theorem read_append {front : Text} (hunmarked : Unmarked front)
    (hfront : front.foldl Nesting.step .outside = .outside) (back table : Text) :
    logicalLines (front ++ ',' :: '\n' :: back) = logicalLines front ++ logicalLines back ∧
    notes (front ++ ',' :: '\n' :: back) table = notes front table ++ notes back table ∧
    ∃ b c d, read front table = .ok b ∧ read back table = .ok c ∧
      read (front ++ ',' :: '\n' :: back) table = .ok d ∧
      d.foreignKeys = b.foreignKeys ++ c.foreignKeys ∧
      d.primaryKeys = b.primaryKeys ++ c.primaryKeys.filter (· ∉ b.primaryKeys) ∧
      d.columns = (b.columns ++ c.columns).map fun column =>
        { column with isPrimaryKey := d.primaryKeys.contains column.name } := by
  have hlines := logicalLines_append hunmarked hfront back
  obtain ⟨b, hb, hbkeyed⟩ := read_total front table
  obtain ⟨c, hc, hckeyed⟩ := read_total back table
  refine ⟨hlines, by rw [notes, hlines, List.filterMap_append]; rfl, b, c, _, hb, hc,
    read_of_lines_append hlines hb hc, rfl, by simp [flagKeys, merge], ?_⟩
  refine columns_flagKeys fun column hcolumn hflag => mem_keys_merge.mpr ?_
  rcases List.mem_append.mp hcolumn with hmem | hmem
  · exact .inl ((hbkeyed.flags column hmem).mp hflag)
  · exact .inr ((hckeyed.flags column hmem).mp hflag)

def frontBody : Text :=
  "id int PRIMARY KEY, note text DEFAULT 'a, (b', x) text, y int("

def backBody : Text :=
  "id text, -- PRIMARY KEY (y)\nPRIMARY KEY (id, note), FOREIGN KEY (id) REFERENCES t(id), z text DEFAULT 'c, w int"

theorem read_append_frontBody :
    (Unmarked frontBody ∧ frontBody.foldl Nesting.step .outside = .outside) ∧
    logicalLines (frontBody ++ ',' :: '\n' :: backBody) = logicalLines frontBody ++ logicalLines backBody ∧
    notes (frontBody ++ ',' :: '\n' :: backBody) "r" = notes frontBody "r" ++ notes backBody "r" ∧
    ∃ b c d, read frontBody "r" = .ok b ∧ read backBody "r" = .ok c ∧
      read (frontBody ++ ',' :: '\n' :: backBody) "r" = .ok d ∧
      d.foreignKeys = b.foreignKeys ++ c.foreignKeys ∧
      d.primaryKeys = b.primaryKeys ++ c.primaryKeys.filter (· ∉ b.primaryKeys) ∧
      d.columns = (b.columns ++ c.columns).map fun column =>
        { column with isPrimaryKey := d.primaryKeys.contains column.name } := by
  have hunmarked : Unmarked frontBody := by decide +kernel
  have hfront : frontBody.foldl Nesting.step .outside = .outside := by decide
  exact ⟨⟨hunmarked, hfront⟩, read_append hunmarked hfront backBody "r"⟩

end TableBody

end DdlAtlas.Sql
