import DdlAtlas.Proofs.Pattern.Run
import DdlAtlas.Proofs.Text.Words
import DdlAtlas.Sql.TableBody

/-!
# Reading a table body never fails

A column can only be refused for want of a type, and a line of a table body has single spaces between
its words. What stands behind the name of a column and the blank after it therefore begins with a
character that is no blank, and its first word can serve as the type.
-/

namespace DdlAtlas.Sql

open Pattern

theorem columnType_total {declared : Text} (h : Text.words declared ≠ []) :
    ∃ type, columnType declared = .ok type := by
  unfold columnType
  split
  · exact ⟨_, rfl⟩
  · split
    · split
      · rename_i hw
        exact absurd hw h
      · exact ⟨_, rfl⟩
    · exact ⟨_, rfl⟩

theorem columnType_eq_ok {declared type : Text} (h : columnType declared = .ok type) :
    type = (Text.words declared).headD [] ∨ ∃ m, typeExpression.match? declared = some m ∧
      type = Text.trim (trailingClauses.foldl (fun t p => p.textBefore t) (m.group 1)) ∧ type ≠ [] := by
  unfold columnType at h
  split at h
  · exact .inl (Except.ok.inj h).symm
  · rename_i m hm
    split at h
    · split at h
      · contradiction
      · rename_i hw
        rw [hw]
        exact .inl (Except.ok.inj h).symm
    · rename_i hne
      obtain rfl := Except.ok.inj h
      exact .inr ⟨m, hm, rfl, hne⟩

theorem columnOf_total (name : Text) {declared : Text} (h : Text.words declared ≠ []) :
    ∃ column, columnOf name declared = .ok column := by
  obtain ⟨type, ht⟩ := columnType_total h
  unfold columnOf
  rw [ht]
  exact ⟨_, rfl⟩

theorem columnType_of_columnOf {name declared : Text} {c : Column} (h : columnOf name declared = .ok c) :
    columnType declared = .ok c.type ∧
      c = { name
            type := c.type
            nullable := !Text.hasPart "NOT NULL" (Text.capitals declared)
            defaultValue := defaultValue? declared
            isPrimaryKey := Text.hasPart "PRIMARY KEY" (Text.capitals declared)
            isUnique := Text.hasPart "UNIQUE" (Text.capitals declared) &&
              !Text.hasPart "NOT UNIQUE" (Text.capitals declared)
            checkConstraint := checkConstraint? declared } := by
  unfold columnOf at h
  cases ht : columnType declared with
  | error e => simp [ht, Except.map] at h
  | ok type =>
    simp only [ht, Except.map, Except.ok.injEq] at h
    subst h
    exact ⟨rfl, rfl⟩

theorem columnOf_eq_ok {name declared : Text} {c : Column} (h : columnOf name declared = .ok c) :
    c.name = name ∧ columnType declared = .ok c.type ∧ c.defaultValue = defaultValue? declared ∧
      c.isPrimaryKey = Text.hasPart "PRIMARY KEY" (Text.capitals declared) := by
  obtain ⟨htype, hc⟩ := columnType_of_columnOf h
  rw [hc] at htype ⊢
  exact ⟨rfl, htype, rfl, rfl⟩

theorem valueExtent_isPrefix (quote : Option Char) (depth : Nat) (t : Text) : valueExtent quote depth t <+: t := by
  induction t generalizing quote depth with
  | nil => exact List.nil_prefix
  | cons c t ih =>
    have hcons : ∀ quote depth, c :: valueExtent quote depth t <+: c :: t := fun quote depth =>
      List.cons_prefix_cons.mpr ⟨rfl, ih quote depth⟩
    cases quote with
    | some q => exact hcons _ _
    | none =>
      rw [valueExtent]
      split
      · exact hcons _ _
      · split
        · exact hcons _ _
        · split
          · split
            · exact List.nil_prefix
            · exact hcons _ _
          · split
            · exact List.nil_prefix
            · exact hcons _ _

theorem reads_columnName {c d : Cursor} (h : Reads (alt
      (sequence [exactly "\"", group 1 (solid1 (· != '"')), exactly "\""])
      (group 2 (solid1 Text.isWord))) c d) :
    ∃ g, d.groups = g :: c.groups ∧ (g.label = 1 ∨ g.label = 2) ∧ g.opened.take g.width ≠ [] := by
  rcases h with hquoted | hbare
  · simp only [reads_sequence_cons] at hquoted
    obtain ⟨opened, hopen, inner, hgroup, closed, hclose, hd⟩ := hquoted
    obtain rfl : d = closed := hd
    obtain ⟨-, -, hne, -, g, hg, hlabel, rfl⟩ := reads_group_solid1 hgroup
    refine ⟨g, ?_, .inl hlabel, hne⟩
    rw [hclose.groups_eq rfl, hg, hopen.groups_eq rfl]
  · obtain ⟨-, -, hne, -, g, hg, hlabel, rfl⟩ := reads_group_solid1 hbare
    exact ⟨g, hg, .inr hlabel, hne⟩

theorem groups_of_columnLine {line : Text} {m : Match} (h : columnLine.match? line = some m) :
    ∃ declared name front b x rest more, m.stop.groups = [declared, name] ∧
      (declared.label = 3 ∧ declared.opened.take declared.width = x :: more) ∧
      ((name.label = 1 ∨ name.label = 2) ∧ name.opened.take name.width ≠ []) ∧
      line = front ++ b :: x :: rest ∧ Text.isBlank b = true := by
  obtain ⟨-, hreads⟩ := reads_of_matchAt? h
  simp only [columnLine, reads_sequence_cons] at hreads
  obtain ⟨named, hname, spaced, hspace, declared, hgroup, stop, hend, hstop⟩ := hreads
  obtain ⟨name, hnameGroup, hlabel, hne⟩ := reads_columnName hname
  obtain ⟨front, hfront⟩ := hname.passed
  have hspaceGroups := hspace.groups_eq rfl
  obtain ⟨afterBlank, ⟨b, rest, hb, hblank, rfl⟩, hmore⟩ := hspace
  obtain ⟨blanks, hall, hblanks⟩ := Cursor.passed_of_mem_reach hmore named.groups
  obtain ⟨init, z, hz⟩ := (List.eq_nil_or_concat (b :: blanks)).resolve_left (by simp)
  have hzblank : Text.isBlank z = true := by
    have hmem : z ∈ b :: blanks := by simp [hz]
    rcases List.mem_cons.mp hmem with rfl | hmem
    · exact hblank
    · exact hall z hmem
  obtain ⟨inner, hinner, rfl⟩ := hgroup
  have hinnerGroups := hinner.groups_eq rfl
  obtain ⟨one, ⟨x, rest', hx, -, rfl⟩, htail⟩ := hinner
  obtain ⟨more, hmore'⟩ := Reads.passed htail
  have hone : spaced.Passed [x] ⟨x :: spaced.before, rest', spaced.position + 1, spaced.groups⟩ :=
    ⟨hx, rfl, rfl⟩
  obtain rfl : m.stop = stop := hstop
  refine ⟨⟨3, spaced.rest, inner.position - spaced.position⟩, name, front ++ init, z, x, rest', more,
    ?_, ⟨rfl, (hone.trans hmore').take_eq⟩, ⟨hlabel, hne⟩, ?_, hzblank⟩
  · rw [hend.groups_eq rfl]
    simp [Cursor.close, hinnerGroups, hspaceGroups, hnameGroup, Cursor.start]
  · have hline : line = front ++ named.rest := hfront.rest
    have hnamed : named.rest = b :: (blanks ++ spaced.rest) := by rw [hb, ← hblanks.rest]
    rw [hline, hnamed, ← List.cons_append, hz, hx]
    simp

theorem words_ne_nil_of_columnLine {line : Text} {m : Match} (hs : Text.SingleSpaced line)
    (h : columnLine.match? line = some m) : Text.words (m.group 3) ≠ [] := by
  obtain ⟨declared, name, front, b, x, rest, more, hgroups, ⟨hlabel, htake⟩, -, hline, hblank⟩ :=
    groups_of_columnLine h
  have hgroup : m.group 3 = x :: more := by
    simp [Match.group, Match.group?, hgroups, hlabel, htake]
  have hsuffix : b :: x :: rest <:+ line := ⟨front, hline.symm⟩
  obtain ⟨y, rest', hy, hyblank⟩ := hs b _ hsuffix hblank
  obtain ⟨rfl, -⟩ := List.cons.inj hy
  rw [hgroup]
  exact Text.words_ne_nil hyblank more

theorem Line.ofColumnMatch_eq_column {m : Match} {name declared : Text}
    (h : Line.ofColumnMatch m = .column name declared) :
    (m.group? 1 = some name ∨ m.group? 1 = none ∧ m.group 2 = name) ∧ m.group 3 = declared := by
  unfold Line.ofColumnMatch at h
  split at h
  · rename_i quoted hquoted
    obtain ⟨rfl, hdeclared⟩ := Line.column.inj h
    exact ⟨.inl hquoted, hdeclared⟩
  · rename_i hbare
    split at h
    · contradiction
    · obtain ⟨hname, hdeclared⟩ := Line.column.inj h
      exact ⟨.inr ⟨hbare, hname⟩, hdeclared⟩

theorem name_ne_nil_of_columnLine {line name declared : Text} {m : Match}
    (h : columnLine.match? line = some m) (hread : Line.ofColumnMatch m = .column name declared) :
    name ≠ [] := by
  obtain ⟨taken, word, front, b, x, rest, more, hgroups, ⟨hlabel, -⟩, ⟨hword, hne⟩, -⟩ :=
    groups_of_columnLine h
  obtain ⟨hname, -⟩ := Line.ofColumnMatch_eq_column hread
  rcases hword with hword | hword
  · simp [Match.group?, hgroups, hlabel, hword] at hname
    exact hname ▸ hne
  · simp [Match.group?, Match.group, hgroups, hlabel, hword] at hname
    exact hname ▸ hne

theorem columnLine_of_read {line name declared : Text} (h : Line.read line = .column name declared) :
    ∃ m, columnLine.match? line = some m ∧ Line.ofColumnMatch m = .column name declared := by
  unfold Line.read at h
  split at h <;> try contradiction
  split at h <;> try contradiction
  split at h <;> try contradiction
  split at h
  · exact ⟨_, ‹_›, h⟩
  · contradiction

theorem Line.ofColumnMatch_ne_foreignKey (m : Match) (constraint : Option Text) (column table key : Text) :
    Line.ofColumnMatch m ≠ .foreignKey constraint column table key := by
  unfold Line.ofColumnMatch
  split
  · exact nofun
  · split <;> exact nofun

theorem foreignKeyLine_of_read {line column table key : Text} {constraint : Option Text}
    (h : Line.read line = .foreignKey constraint column table key) :
    ∃ m, foreignKeyLine.match? line = some m ∧ constraint = (m.group? 1).map unquoted ∧
      column = unquoted (m.group 2) ∧ table = (QualifiedName.ofText (m.group 3)).name ∧
      key = unquoted (m.group 4) := by
  unfold Line.read at h
  split at h
  · cases h
  · split at h
    · cases h
      exact ⟨_, ‹_›, rfl, rfl, rfl, rfl⟩
    · split at h
      · cases h
      · split at h
        · exact absurd h (Line.ofColumnMatch_ne_foreignKey _ _ _ _ _)
        · cases h

theorem name_ne_nil_of_read {line name declared : Text} (h : Line.read line = .column name declared) :
    name ≠ [] := by
  obtain ⟨m, hm, hread⟩ := columnLine_of_read h
  exact name_ne_nil_of_columnLine hm hread

theorem words_ne_nil_of_read {line name declared : Text} (hs : Text.SingleSpaced line)
    (h : Line.read line = .column name declared) : Text.words declared ≠ [] := by
  obtain ⟨m, hm, hread⟩ := columnLine_of_read h
  obtain ⟨-, rfl⟩ := Line.ofColumnMatch_eq_column hread
  exact words_ne_nil_of_columnLine hs hm

theorem singleSpaced_of_mem_logicalLines {body line : Text} (h : line ∈ logicalLines body) :
    Text.SingleSpaced line := by
  simp only [logicalLines, List.mem_filter, List.mem_map] at h
  obtain ⟨⟨segment, -, rfl⟩, -⟩ := h
  exact Text.singleSpaced_collapse segment

namespace TableBody

@[simp] theorem columns_addPrimaryKey (b : TableBody) (name : Text) :
    (b.addPrimaryKey name).columns = b.columns := by
  unfold addPrimaryKey
  split <;> rfl

@[simp] theorem foreignKeys_addPrimaryKey (b : TableBody) (name : Text) :
    (b.addPrimaryKey name).foreignKeys = b.foreignKeys := by
  unfold addPrimaryKey
  split <;> rfl

@[simp] theorem columns_foldl_addPrimaryKey (b : TableBody) (names : List Text) :
    (names.foldl addPrimaryKey b).columns = b.columns := by
  induction names generalizing b with
  | nil => rfl
  | cons name names ih => rw [List.foldl_cons, ih, columns_addPrimaryKey]

@[simp] theorem foreignKeys_foldl_addPrimaryKey (b : TableBody) (names : List Text) :
    (names.foldl addPrimaryKey b).foreignKeys = b.foreignKeys := by
  induction names generalizing b with
  | nil => rfl
  | cons name names ih => rw [List.foldl_cons, ih, foreignKeys_addPrimaryKey]

@[simp] theorem columns_addColumn (b : TableBody) (c : Column) :
    (b.addColumn c).columns = b.columns ++ [c] := by
  unfold addColumn
  split <;> simp

@[simp] theorem foreignKeys_addColumn (b : TableBody) (c : Column) :
    (b.addColumn c).foreignKeys = b.foreignKeys := by
  unfold addColumn
  split <;> simp

theorem add_column_eq_ok {table name declared : Text} {b b' : TableBody}
    (h : add table b (.column name declared) = .ok b') :
    ∃ c, columnOf name declared = .ok c ∧ b.addColumn c = b' := by
  rw [add] at h
  cases hc : columnOf name declared with
  | error e => simp [hc, Except.map] at h
  | ok c => exact ⟨c, rfl, by simpa [hc, Except.map] using h⟩

inductive Added (table : Text) (b : TableBody) : Line → TableBody → Prop
  | primaryKey (columns : List Text) : Added table b (.primaryKey columns) (columns.foldl addPrimaryKey b)
  | foreignKey (constraint : Option Text) (column referenced key : Text) :
      Added table b (.foreignKey constraint column referenced key) { b with foreignKeys := b.foreignKeys ++
        [⟨column, referenced, key, constraint.getD (defaultKeyName table column)⟩] }
  | column {name declared : Text} {c : Column} (hc : columnOf name declared = .ok c) :
      Added table b (.column name declared) (b.addColumn c)
  | otherConstraint : Added table b .otherConstraint b
  | reserved : Added table b .reserved b
  | unrecognized : Added table b .unrecognized b

theorem added_of_add {table : Text} {b b' : TableBody} {line : Line} (h : add table b line = .ok b') :
    Added table b line b' := by
  cases line with
  | column name declared =>
    obtain ⟨c, hc, rfl⟩ := add_column_eq_ok h
    exact .column hc
  | primaryKey | foreignKey | otherConstraint | reserved | unrecognized =>
    obtain rfl := Except.ok.inj h
    constructor

theorem add_total (table : Text) (b : TableBody) {line : Text} (hs : Text.SingleSpaced line) :
    ∃ b', add table b (Line.read line) = .ok b' := by
  cases h : Line.read line with
  | column name declared =>
    obtain ⟨column, hc⟩ := columnOf_total name (words_ne_nil_of_read hs h)
    exact ⟨b.addColumn column, by simp [add, hc, Except.map]⟩
  | primaryKey | foreignKey | otherConstraint | reserved | unrecognized => exact ⟨_, rfl⟩

/-- What holds of a body and the lines read so far, if every line keeps it, holds when all lines of a
table body are read. -/
theorem foldlM_total {P : List Text → TableBody → Prop} {table : Text}
    (hstep : ∀ seen line b b', Text.SingleSpaced line → add table b (Line.read line) = .ok b' →
      P seen b → P (seen ++ [line]) b')
    {lines : List Text} (hlines : ∀ line ∈ lines, Text.SingleSpaced line) {seen : List Text}
    {b : TableBody} (h : P seen b) :
    ∃ b', (lines.map Line.read).foldlM (add table) b = .ok b' ∧ P (seen ++ lines) b' := by
  induction lines generalizing seen b with
  | nil => exact ⟨b, rfl, by simpa using h⟩
  | cons line lines ih =>
    have hline := hlines line List.mem_cons_self
    obtain ⟨next, hnext⟩ := add_total table b hline
    obtain ⟨b', hb', hP⟩ := ih (fun l hl => hlines l (List.mem_cons_of_mem line hl))
      (hstep seen line b next hline hnext h)
    refine ⟨b', ?_, by simpa using hP⟩
    rw [List.map_cons, List.foldlM_cons, hnext]
    exact hb'

theorem read_total_of_step (table : Text) {P : List Text → TableBody → Prop} (hempty : P [] empty)
    (hstep : ∀ seen line b b', Text.SingleSpaced line → add table b (Line.read line) = .ok b' →
      P seen b → P (seen ++ [line]) b') (body : Text) :
    ∃ b, read body table = .ok b.flagKeys ∧ P (logicalLines body) b := by
  have hlines : ∀ line ∈ logicalLines body, Text.SingleSpaced line :=
    fun _ hl => singleSpaced_of_mem_logicalLines hl
  obtain ⟨b, hb, hP⟩ := foldlM_total hstep hlines hempty
  exact ⟨b, by simp [read, hb, Except.map], by simpa using hP⟩

end TableBody

end DdlAtlas.Sql
