import DdlAtlas.Proofs.Body.Constraints
import DdlAtlas.Proofs.Table.Keys

/-!
# Recovery of a table body

Reading a table body gives back what is declared in it: its columns in order, the names that any of its
lines makes primary keys, each at its first mention, and its foreign keys. Which blank stands behind a comma
makes no difference, nor does the order of the clauses of a column.
-/

namespace DdlAtlas.Sql

namespace TableDeclaration

def column? : TableDeclaration → Option Column
  | .column d => some d.column
  | .constraint _ _ => none

def keyNames : TableDeclaration → List Text
  | .column d => if .primaryKey ∈ d.clauses then [d.name.text] else []
  | .constraint _ (.primaryKey first more) => (first :: more).map (·.text)
  | .constraint _ (.foreignKey _ _ _) | .constraint _ (.unique _) | .constraint _ (.check _) => []

def foreignKey? (owner : Text) : TableDeclaration → Option ForeignKey
  | .constraint name (.foreignKey key table referenced) =>
    some ⟨key.text, table.table.text, referenced.text,
      (name.map (·.text)).getD (.concat [owner, "_", key.text, "_fkey"])⟩
  | .column _ | .constraint _ (.primaryKey _ _) | .constraint _ (.unique _) | .constraint _ (.check _) => none

theorem ColumnDeclaration.ProperName.ne_nil {n : WrittenName} (h : ColumnDeclaration.ProperName n) :
    n.text ≠ [] := by
  unfold ColumnDeclaration.ProperName at h
  split at h
  · exact h.1
  · exact h.1.1

theorem keyNames_line {d : TableDeclaration} (h : d.Proper) : d.line.keyNames = d.keyNames := by
  cases d with
  | column d =>
    have hkey := ColumnDeclaration.hasPart_primaryKey h.2
    simp only [line, Line.keyNames, keyNames, hkey, decide_eq_true_eq]
  | constraint name c =>
    cases c with
    | primaryKey | foreignKey => rfl
    | unique | check => cases name <;> rfl

theorem ne_nil_of_mem_keyNames {d : TableDeclaration} (h : d.Proper) : ∀ k ∈ d.keyNames, k ≠ [] := by
  intro k hk
  cases d with
  | column d =>
    simp only [keyNames] at hk
    split at hk
    · obtain rfl := List.mem_singleton.mp hk
      exact ColumnDeclaration.ProperName.ne_nil h.1.name
    · exact absurd hk List.not_mem_nil
  | constraint name c =>
    cases c with
    | primaryKey first more =>
      obtain ⟨n, hn, rfl⟩ := List.mem_map.mp hk
      exact (h.2 n hn).1
    | foreignKey | unique | check => exact absurd hk List.not_mem_nil

end TableDeclaration

def writtenBody (decls : List (TableDeclaration × Char)) : Text :=
  joined (decls.map fun d => (d.1.written, d.2))

/-- What a body declares: a column is flagged when its name is among the primary keys. -/
def declaredBody (owner : Text) (decls : List TableDeclaration) : TableBody :=
  let keys := (decls.flatMap (·.keyNames)).eraseDups
  { columns := (decls.filterMap (·.column?)).map fun c => { c with isPrimaryKey := decide (c.name ∈ keys) }
    primaryKeys := keys
    foreignKeys := decls.filterMap (·.foreignKey? owner) }

namespace TableBody

theorem add_line {d : TableDeclaration} (h : d.Proper) (owner : Text) (b : TableBody) :
    ∃ b', add owner b d.line = .ok b' ∧ b'.columns = b.columns ++ d.column?.toList ∧
      b'.foreignKeys = b.foreignKeys ++ (d.foreignKey? owner).toList := by
  cases d with
  | column d =>
    refine ⟨b.addColumn d.column, ?_, ?_, ?_⟩
    · simp only [TableDeclaration.line, add, columnOf_declared h.1 h.2, Except.map]
    · simp [TableDeclaration.column?]
    · simp [TableDeclaration.foreignKey?]
  | constraint name c =>
    cases c with
    | primaryKey first more =>
      exact ⟨_, rfl, by simp [TableDeclaration.column?], by simp [TableDeclaration.foreignKey?]⟩
    | foreignKey key table referenced =>
      exact ⟨_, rfl, by simp [TableDeclaration.column?], rfl⟩
    | unique content | check content =>
      cases name <;>
        exact ⟨b, rfl, by simp [TableDeclaration.column?], by simp [TableDeclaration.foreignKey?]⟩

theorem foldlM_lines {decls : List TableDeclaration} (h : ∀ d ∈ decls, d.Proper) (owner : Text)
    (b : TableBody) :
    ∃ b', (decls.map (·.line)).foldlM (add owner) b = .ok b' ∧
      b'.columns = b.columns ++ decls.filterMap (·.column?) ∧
      b'.foreignKeys = b.foreignKeys ++ decls.filterMap (·.foreignKey? owner) := by
  induction decls generalizing b with
  | nil => exact ⟨b, rfl, by simp, by simp⟩
  | cons d decls ih =>
    obtain ⟨next, hnext, hcolumns, hkeys⟩ := add_line (h d List.mem_cons_self) owner b
    obtain ⟨b', hb', hcolumns', hkeys'⟩ := ih (fun e he => h e (List.mem_cons_of_mem d he)) next
    refine ⟨b', ?_, ?_, ?_⟩
    · rw [List.map_cons, List.foldlM_cons, hnext]
      exact hb'
    · rw [hcolumns', hcolumns]
      cases hc : d.column? <;> simp [hc]
    · rw [hkeys', hkeys]
      cases hk : d.foreignKey? owner <;> simp [hk]

end TableBody

def ProperBody (decls : List (TableDeclaration × Char)) : Prop :=
  ∀ d ∈ decls, d.1.Proper ∧ (d.2 = ' ' ∨ d.2 = '\n')

instance (decls : List (TableDeclaration × Char)) : Decidable (ProperBody decls) :=
  List.decidableBAll _ decls

theorem ProperBody.logicalLines_eq {decls : List (TableDeclaration × Char)} (h : ProperBody decls) :
    logicalLines (writtenBody decls) = decls.map (·.1.written) := by
  rw [writtenBody, logicalLines_joined, List.map_map]
  · rfl
  · intro l hl
    obtain ⟨d, hd, rfl⟩ := List.mem_map.mp hl
    exact ⟨(h d hd).1.piece, (h d hd).2⟩

theorem ProperBody.map_read {decls : List (TableDeclaration × Char)} (h : ProperBody decls) :
    (logicalLines (writtenBody decls)).map Line.read = (decls.map (·.1)).map (·.line) := by
  rw [h.logicalLines_eq, List.map_map, List.map_map]
  exact List.map_congr_left fun d hd => TableDeclaration.read_written (h d hd).1

theorem ProperBody.mentionedKeys_eq {decls : List (TableDeclaration × Char)} (h : ProperBody decls) :
    mentionedKeys (writtenBody decls) = (decls.map (·.1)).flatMap (·.keyNames) := by
  have hnames : (logicalLines (writtenBody decls)).flatMap (fun line => (Line.read line).keyNames) =
      (decls.map (·.1)).flatMap (·.keyNames) := by
    rw [← List.flatMap_map Line.read Line.keyNames, h.map_read, List.flatMap_map]
    refine List.flatMap_congr fun d hd => ?_
    obtain ⟨e, he, rfl⟩ := List.mem_map.mp hd
    exact TableDeclaration.keyNames_line (h e he).1
  rw [mentionedKeys, hnames, List.filter_eq_self]
  intro k hk
  obtain ⟨d, hd, hkd⟩ := List.mem_flatMap.mp hk
  obtain ⟨e, he, rfl⟩ := List.mem_map.mp hd
  simpa using TableDeclaration.ne_nil_of_mem_keyNames (h e he).1 k hkd

namespace TableBody

/-- Reading a written body gives what is declared in it. -/
theorem read_writtenBody {decls : List (TableDeclaration × Char)} (h : ProperBody decls) (owner : Text) :
    read (writtenBody decls) owner = .ok (declaredBody owner (decls.map (·.1))) := by
  have hproper : ∀ d ∈ decls.map (·.1), d.Proper := by
    intro d hd
    obtain ⟨e, he, rfl⟩ := List.mem_map.mp hd
    exact (h e he).1
  obtain ⟨b, hb, hcolumns, hforeign⟩ := foldlM_lines hproper owner .empty
  obtain ⟨b', hb', hkeyed⟩ := read_total (writtenBody decls) owner
  have hread : read (writtenBody decls) owner = .ok b.flagKeys := by
    rw [read, h.map_read, hb]
    rfl
  obtain rfl : b.flagKeys = b' := by simpa [hread] using hb'
  have hkeys : b.primaryKeys = ((decls.map (·.1)).flatMap (·.keyNames)).eraseDups := by
    rw [← h.mentionedKeys_eq]
    exact hkeyed.order
  have hflags : b.flagKeys.columns =
      b.columns.map fun c => { c with isPrimaryKey := decide (c.name ∈ b.primaryKeys) } := by
    refine List.map_congr_left fun c hc => ?_
    have hflag := hkeyed.flags _ (List.mem_map_of_mem hc)
    by_cases hin : c.name ∈ b.primaryKeys
    · simp [hin]
    · have hout : c.isPrimaryKey = false := by
        simpa [flagKeys, hin] using hflag
      rw [if_neg (by simpa using hin), decide_eq_false hin, ← hout]
  have hshape : b.flagKeys = ⟨b.flagKeys.columns, b.primaryKeys, b.foreignKeys⟩ := rfl
  rw [hread, hshape, hflags, hcolumns, hkeys, hforeign]
  rfl

end TableBody

def ordersBody : List (TableDeclaration × Char) :=
  [(.column ⟨⟨"id", false⟩, ⟨"bigint", [], none, 0⟩, [.notNull]⟩, '\n'),
    (.column ⟨⟨"unit price", true⟩, ⟨"double", ["precision"], some ("10", some "2"), 1⟩,
      [.default "coalesce('0, (', 1)", .unique, .check "x > (1) or note <> ')'"]⟩, ' '),
    (.column ⟨⟨"buyer", false⟩, ⟨"shop.ref", [], none, 0⟩, [.check "buyer <> 'default'", .primaryKey]⟩, '\n'),
    (.constraint none (.primaryKey ⟨"id", true⟩ [⟨"buyer", false⟩]), ' '),
    (.constraint (some ⟨"buys", true⟩)
      (.foreignKey ⟨"buyer", false⟩ ⟨some ⟨"shop", false⟩, ⟨"users", true⟩⟩ ⟨"id", false⟩), '\n'),
    (.constraint none (.unique "id, buyer"), ' '),
    (.constraint (some ⟨"sane", false⟩) (.check "id > 0"), '\n')]

theorem TableBody.read_ordersBody :
    writtenBody ordersBody = Text.concat ["id bigint NOT NULL,\n",
      "\"unit price\" double precision(10, 2)[] DEFAULT coalesce('0, (', 1) UNIQUE ",
      "CHECK (x > (1) or note <> ')'), ",
      "buyer shop.ref CHECK (buyer <> 'default') PRIMARY KEY,\n",
      "PRIMARY KEY (\"id\", buyer), ",
      "CONSTRAINT \"buys\" FOREIGN KEY (buyer) REFERENCES shop.\"users\"(id),\n",
      "UNIQUE (id, buyer), ",
      "CONSTRAINT sane CHECK (id > 0)"] ∧
    ProperBody ordersBody ∧
    TableBody.read (writtenBody ordersBody) "orders" =
      .ok (declaredBody "orders" (ordersBody.map (·.1))) :=
  have hproper : ProperBody ordersBody := by decide +kernel
  ⟨by decide +kernel, hproper, TableBody.read_writtenBody hproper "orders"⟩

def nullColumn : ColumnDeclaration :=
  ⟨⟨"a", false⟩, ⟨"text", ["NULL"], none, 0⟩, []⟩

def loudColumn : ColumnDeclaration :=
  ⟨⟨"b", false⟩, ⟨"text", [], none, 0⟩, [.default "'NOT NULL'"]⟩

theorem TableBody.read_mistakes_texts :
    (nullColumn.Proper ∧ nullColumn.line = "a text NULL" ∧ nullColumn.column.type = "text NULL" ∧
      TableBody.read "a text NULL" [] = .ok ⟨[{ nullColumn.column with type := "text" }], [], []⟩) ∧
    loudColumn.Proper ∧ loudColumn.line = "b text DEFAULT 'NOT NULL'" ∧
      loudColumn.column.nullable = true ∧
      TableBody.read "b text DEFAULT 'NOT NULL'" [] =
        .ok ⟨[{ loudColumn.column with nullable := false }], [], []⟩ := by
  have hnull : Unmarked "a text NULL" := by decide +kernel
  have hloud : Unmarked "b text DEFAULT 'NOT NULL'" := by decide +kernel
  refine ⟨⟨by decide +kernel, rfl, rfl, ?_⟩, by decide +kernel, rfl, rfl, ?_⟩
  · rw [read, logicalLines, hnull.withoutComments_eq]
    decide +kernel
  · rw [read, logicalLines, hloud.withoutComments_eq]
    decide +kernel

end DdlAtlas.Sql
