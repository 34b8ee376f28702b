import DdlAtlas.Proofs.Schema.Security

/-!
# Tables reported to have no primary key

A table keeps its primary key twice, as a list of names and as flags on its columns. The finding on missing
keys reads the flags. It lists a table whenever no key was recorded, and never one with a key declared on a
column. What is left are the keys of table constraints alone: where none of their names is, letter for letter,
that of a column, the table is listed although its key was recorded.
-/

namespace DdlAtlas

open Sql

def Table.hasKeyColumn (t : Table) : Bool :=
  t.columns.any fun c => t.primaryKeys.contains c.name

theorem Table.hasKeyColumn_iff {t : Table} :
    t.hasKeyColumn = true ↔ ∃ c ∈ t.columns, c.name ∈ t.primaryKeys := by
  simp [hasKeyColumn]

theorem Table.primaryKeys_ne_nil {t : Table} (h : t.hasKeyColumn = true) : t.primaryKeys ≠ [] := by
  obtain ⟨c, -, hc⟩ := hasKeyColumn_iff.mp h
  exact List.ne_nil_of_mem hc

namespace Sql

def Line.columnNames : Line → List Text
  | .column name _ => [name]
  | .primaryKey .. | .foreignKey .. | .otherConstraint | .reserved | .unrecognized => []

def declaredColumns (body : Text) : List Text :=
  (logicalLines body).flatMap fun line => (Line.read line).columnNames

namespace TableBody

theorem names_add {b b' : TableBody} {table : Text} {line : Line} (h : add table b line = .ok b') :
    b'.columns.map (·.name) = b.columns.map (·.name) ++ line.columnNames := by
  cases added_of_add h with
  | primaryKey columns => simp [Line.columnNames]
  | column hc =>
    obtain ⟨rfl, -⟩ := columnOf_eq_ok hc
    rw [columns_addColumn, List.map_append]
    rfl
  | foreignKey | otherConstraint | reserved | unrecognized => simp [Line.columnNames]

theorem names_of_read {body table : Text} {b : TableBody} (h : read body table = .ok b) :
    b.columns.map (·.name) = declaredColumns body := by
  obtain ⟨last, hlast, hnames⟩ := read_total_of_step table
    (P := fun seen b => b.columns.map (·.name) = seen.flatMap fun line => (Line.read line).columnNames) rfl
    (fun seen line b b' _ hadd hb => by rw [names_add hadd, hb]; simp) body
  obtain rfl := Except.ok.inj (h.symm.trans hlast)
  rw [declaredColumns, ← hnames]
  simp only [flagKeys, List.map_map]
  refine List.map_congr_left fun c _ => ?_
  simp only [Function.comp_apply]
  split <;> rfl

end TableBody

theorem mentioned_of_inlineKey {body line name declared : Text} (hline : line ∈ logicalLines body)
    (hread : Line.read line = .column name declared)
    (hkey : Text.hasPart "PRIMARY KEY" (Text.capitals declared) = true) :
    name ∈ mentionedKeys body ∧ name ∈ declaredColumns body := by
  refine ⟨List.mem_filter.mpr ⟨List.mem_flatMap.mpr ⟨line, hline, ?_⟩, ?_⟩,
    List.mem_flatMap.mpr ⟨line, hline, ?_⟩⟩
  · rw [hread, Line.keyNames, if_pos hkey]
    exact List.mem_singleton_self name
  · exact decide_eq_true (name_ne_nil_of_read hread)
  · rw [hread]
    exact List.mem_singleton_self name

end Sql

structure Table.KeyRecorded (t : Table) (body : Text) : Prop where
  recorded : t.primaryKeys = [] ↔ mentionedKeys body = []
  resolved : t.hasKeyColumn = true ↔ ∃ name ∈ mentionedKeys body, name ∈ declaredColumns body
  inline : ∀ line ∈ logicalLines body, ∀ name declared, Line.read line = .column name declared →
    Text.hasPart "PRIMARY KEY" (Text.capitals declared) = true → t.hasKeyColumn = true

theorem Table.keyRecorded {t : Table} {body : Text}
    (hkeys : TableBody.Keyed body t.columns t.primaryKeys)
    (hnames : t.columns.map (·.name) = declaredColumns body) : t.KeyRecorded body := by
  have hmem : ∀ name, name ∈ t.primaryKeys ↔ name ∈ mentionedKeys body := by
    intro name
    rw [hkeys.order, List.mem_eraseDups]
  have hresolved : t.hasKeyColumn = true ↔ ∃ name ∈ mentionedKeys body, name ∈ declaredColumns body := by
    rw [Table.hasKeyColumn_iff, ← hnames]
    constructor
    · rintro ⟨c, hc, hkey⟩
      exact ⟨c.name, (hmem _).mp hkey, List.mem_map_of_mem hc⟩
    · rintro ⟨name, hkey, hname⟩
      obtain ⟨c, hc, rfl⟩ := List.mem_map.mp hname
      exact ⟨c, hc, (hmem _).mpr hkey⟩
  refine ⟨?_, hresolved, fun line hline name declared hread hkey => hresolved.mpr ?_⟩
  · simp only [List.eq_nil_iff_forall_not_mem, hmem]
  · exact ⟨name, mentioned_of_inlineKey hline hread hkey⟩

theorem map_filter_eq_iff {α β : Type} {p q : α → Bool} (f : α → β) (h : ∀ x, p x = true → q x = true)
    (l : List α) : (l.filter q).map f = (l.filter p).map f ↔ ∀ x ∈ l, q x = true → p x = true := by
  have htwice : l.filter p = (l.filter q).filter p := by
    rw [List.filter_filter]
    refine List.filter_congr fun x _ => ?_
    cases hp : p x with
    | true => rw [h x hp]; rfl
    | false => rfl
  constructor
  · intro heq x hx hq
    have hlength : ((l.filter q).filter p).length = (l.filter q).length := by
      have hvalues := congrArg List.length heq
      rw [List.length_map, List.length_map] at hvalues
      rw [← htwice, hvalues]
    exact List.length_filter_eq_length_iff.mp hlength x (List.mem_filter.mpr ⟨hx, hq⟩)
  · intro himp
    refine congrArg (List.map f) (List.filter_congr fun x hx => ?_)
    exact Bool.eq_iff_iff.mpr ⟨himp x hx, h x⟩

theorem filter_nonempty_inj {a b : List Text} :
    [a].filter (!·.isEmpty) = [b].filter (!·.isEmpty) ↔ a = b := by
  cases a <;> cases b <;> simp

namespace Schema

theorem reported_missingKey {s : Schema}
    (h : ∀ t ∈ s.tables, ∀ c ∈ t.columns, c.isPrimaryKey = true ↔ c.name ∈ t.primaryKeys) :
    s.reported "missing_primary_key" = [s.namesWhere (!·.hasKeyColumn)].filter (!·.isEmpty) := by
  have hsame : (s.namesWhere fun t => !t.columns.any (·.isPrimaryKey)) = s.namesWhere (!·.hasKeyColumn) := by
    refine congrArg (List.map _) (List.filter_congr fun t ht => congrArg _ ?_)
    refine Bool.eq_iff_iff.mpr ?_
    rw [Table.hasKeyColumn_iff, List.any_eq_true]
    exact exists_congr fun c => and_congr_right fun hc => h t ht c hc
  rw [reported_eq s (by decide), if_pos rfl, if_neg (by decide), if_neg (by decide), if_neg (by decide), hsame]
  simp only [List.append_nil]

theorem namesWhere_keyless_iff (s : Schema) :
    s.namesWhere (!·.hasKeyColumn) = s.namesWhere (·.primaryKeys.isEmpty) ↔
      ∀ t ∈ s.tables, t.primaryKeys ≠ [] → t.hasKeyColumn = true := by
  have hempty : ∀ t : Table, t.primaryKeys.isEmpty = true → (!t.hasKeyColumn) = true := by
    intro t hnone
    rw [Bool.not_eq_true', Bool.eq_false_iff]
    exact fun hkey => Table.primaryKeys_ne_nil hkey (List.isEmpty_iff.mp hnone)
  rw [namesWhere, namesWhere, map_filter_eq_iff _ hempty]
  refine forall₂_congr fun t _ => ?_
  cases t.hasKeyColumn <;> simp

/-- The finding on missing keys lists, in the order of the text, the tables of which no column has the name of
a recorded key. These are the tables without a recorded key unless some key has the name of no column. -/
theorem parse_keyReport (text : Text) :
    ∃ s, parse text = .ok s ∧
      List.Forall₂ (fun declared t => t.KeyRecorded declared.body) (Statements.locate text).1.tables s.tables ∧
      s.reported "missing_primary_key" = [s.namesWhere (!·.hasKeyColumn)].filter (!·.isEmpty) ∧
      (s.reported "missing_primary_key" = [s.namesWhere (·.primaryKeys.isEmpty)].filter (!·.isEmpty) ↔
        ∀ t ∈ s.tables, t.primaryKeys ≠ [] → t.hasKeyColumn = true) := by
  obtain ⟨s, hs, hall⟩ := parse_total text
  have hread : List.Forall₂ (fun declared t => TableBody.Keyed declared.body t.columns t.primaryKeys ∧
      t.columns.map (·.name) = declaredColumns declared.body) (Statements.locate text).1.tables s.tables := by
    refine hall.imp fun declared t ht => ?_
    obtain ⟨b, hb, rfl⟩ := Table.ofStatement_eq_ok ht
    obtain ⟨b', hb', hkeyed⟩ := TableBody.read_total declared.body declared.name
    obtain rfl := Except.ok.inj (hb.symm.trans hb')
    exact ⟨hkeyed, TableBody.names_of_read hb⟩
  have hreported := reported_missingKey (s := s) fun t ht => by
    obtain ⟨declared, -, hkeyed, -⟩ := exists_of_mem_forall₂ hread ht
    exact hkeyed.flags
  refine ⟨s, hs, hread.imp fun declared t ht => Table.keyRecorded ht.1 ht.2, hreported, ?_⟩
  rw [hreported, filter_nonempty_inj]
  exact s.namesWhere_keyless_iff

def capitalKey : Text :=
  "CREATE TABLE t (id int, PRIMARY KEY (ID));"

theorem parse_capitalKey : parse capitalKey =
    .ok ⟨[⟨"t", "public", [⟨"id", "int", true, none, false, false, none⟩], ["ID"], [], false, []⟩]⟩ := by
  have hfound : (Statements.locate capitalKey).1 = ⟨[], [], [⟨"public", "t", "id int, PRIMARY KEY (ID)"⟩]⟩ := by
    have hunmarked : Unmarked capitalKey := by decide +kernel
    simp only [Statements.locate, hunmarked.withoutComments_eq]
    decide +kernel
  have hlines : logicalLines "id int, PRIMARY KEY (ID)" = ["id int".toList, "PRIMARY KEY (ID)".toList] := by
    have hunmarked : Unmarked "id int, PRIMARY KEY (ID)" := by decide +kernel
    rw [logicalLines, hunmarked.withoutComments_eq]
    decide +kernel
  rw [parse, hfound, ofStatements, List.mapM_cons, Table.ofStatement, TableBody.read, hlines]
  decide +kernel

theorem missingKey_capitalKey :
    ∃ s, parse capitalKey = .ok s ∧
      s.tables.map (fun t => (t.name, t.primaryKeys)) = [("t".toList, ["ID".toList])] ∧
      s.reported "missing_primary_key" = [["t".toList]] ∧
      s.reported "missing_primary_key" ≠ [s.namesWhere (·.primaryKeys.isEmpty)].filter (!·.isEmpty) := by
  refine ⟨_, parse_capitalKey, by decide, ?_⟩
  rw [reported_missingKey (by decide)]
  decide

end Schema

end DdlAtlas
