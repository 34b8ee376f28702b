import DdlAtlas.Proofs.Comment.Lines
import DdlAtlas.Proofs.Prose.Sentence
import DdlAtlas.Proofs.Schema.Parsed
import DdlAtlas.Proofs.Text.Rows

/-!
# The layout of the context

The context of a chat is made of rows: those of the summary, then for each table a blank one and those of the
table. Split into lines it gives these rows again just when no policy brings in a line feed, by its name or by
the predicate that its sentence quotes. Everything else that comes from the source is on one line.
-/

namespace DdlAtlas

open Sql

namespace Table

def SecurityBlock (t : Table) (lines : List Text) : Prop :=
  if t.rlsEnabled = false then lines = []
  else if t.policies = [] then lines = ["  -- RLS ENABLED", "  -- NO POLICIES: all access is denied"]
  else ∃ more : List Text, lines = "  -- RLS ENABLED".toList :: "  -- Policies:".toList :: more ∧
    more.length = t.policies.length ∧ ∀ line ∈ more, "  --".toList <+: line

/-- Lines laid out as those of the table: its header, then one for each column and one for each foreign key, then
those on its row-level security. -/
def Block (t : Table) (lines : List Text) : Prop :=
  ∃ (header : Text) (columns foreignKeys security : List Text),
    lines = header :: (columns ++ foreignKeys ++ security) ∧ columns.length = t.columns.length ∧
      foreignKeys.length = t.foreignKeys.length ∧ t.SecurityBlock security

theorem securityBlock_securityLines (t : Table) : t.SecurityBlock t.securityLines := by
  unfold SecurityBlock securityLines
  cases t.rlsEnabled with
  | false => rfl
  | true =>
    cases hp : t.policies with
    | nil => rfl
    | cons p more =>
      refine ⟨_, rfl, List.length_map _, fun line hline => ?_⟩
      obtain ⟨q, -, rfl⟩ := List.mem_map.mp hline
      exact ⟨_, rfl⟩

theorem block_contextLines (t : Table) : t.Block t.contextLines :=
  ⟨_, _, _, _, rfl, List.length_map _, List.length_map _, t.securityBlock_securityLines⟩

theorem SecurityBlock.length_eq {t : Table} {lines : List Text} (h : t.SecurityBlock lines) :
    lines.length = t.securityLines.length := by
  unfold SecurityBlock at h
  unfold securityLines
  cases hrls : t.rlsEnabled with
  | false => simp_all
  | true =>
    cases hp : t.policies with
    | nil => simp_all
    | cons p more =>
      simp only [hrls, hp, reduceCtorEq, if_false] at h
      obtain ⟨rows, rfl, hlength, -⟩ := h
      simp [hlength]

theorem Block.length_eq {t : Table} {lines : List Text} (h : t.Block lines) :
    lines.length = t.contextLines.length := by
  obtain ⟨header, columns, foreignKeys, security, rfl, hcolumns, hkeys, hsecurity⟩ := h
  simp only [contextLines, List.length_cons, List.length_append, List.length_map, hcolumns, hkeys,
    hsecurity.length_eq]

end Table

namespace Schema

def contextRows (s : Schema) : List Text :=
  s.totals.summaryLines ++ s.tables.flatMap fun t => [] :: t.contextLines

def LaidOut (s : Schema) (lines : List Text) : Prop :=
  ∃ blocks, List.Forall₂ Table.Block s.tables blocks ∧
    lines = s.totals.summaryLines ++ blocks.flatMap ([] :: ·)

theorem laidOut_contextRows (s : Schema) : s.LaidOut s.contextRows := by
  refine ⟨s.tables.map (·.contextLines), ?_, by rw [contextRows, List.flatMap_map]⟩
  rw [List.forall₂_map_right_iff]
  exact List.forall₂_same.mpr fun t _ => t.block_contextLines

theorem LaidOut.length_eq {s : Schema} {lines : List Text} (h : s.LaidOut lines) :
    lines.length = s.contextRows.length := by
  obtain ⟨blocks, hblocks, rfl⟩ := h
  have hsame : (blocks.flatMap ([] :: ·)).length = (s.tables.flatMap fun t => [] :: t.contextLines).length := by
    generalize s.tables = tables at hblocks
    induction hblocks with
    | nil => rfl
    | cons hblock _ ih =>
      simp only [List.flatMap_cons, List.length_append, List.length_cons, hblock.length_eq, ih]
  rw [contextRows, List.length_append, List.length_append, hsame]

theorem context_eq {s : Schema} (h : s.tables ≠ []) : s.context = Text.join ['\n'] s.contextRows := by
  have hblocks : ∀ (ts : List Table) (first : List Text), first ≠ [] →
      Text.join "\n\n" (Text.join "\n" first :: ts.map fun t => Text.join "\n" t.contextLines) =
        Text.join ['\n'] (first ++ ts.flatMap fun t => [] :: t.contextLines) := by
    intro ts
    induction ts with
    | nil => simp [Text.join]
    | cons t ts ih =>
      intro first hfirst
      have hrest : t.contextLines ++ ts.flatMap (fun t => [] :: t.contextLines) ≠ [] :=
        List.append_ne_nil_of_left_ne_nil (List.cons_ne_nil _ _) _
      rw [List.map_cons, Text.join_cons_cons, ih t.contextLines (List.cons_ne_nil _ _), List.flatMap_cons,
        List.cons_append, Text.join_append _ hfirst (List.cons_ne_nil _ _)]
      obtain ⟨row, rows, hrows⟩ := List.exists_cons_of_ne_nil hrest
      rw [hrows, Text.join_cons_cons]
      simp
  rw [context, if_neg (by simpa using h)]
  exact hblocks s.tables s.totals.summaryLines (List.cons_ne_nil _ _)

theorem laidOut_iff {s : Schema} (h : s.tables ≠ []) :
    (s.LaidOut (Text.cells '\n' s.context) ↔ ∀ row ∈ s.contextRows, row.Flat) ∧
      ((∀ row ∈ s.contextRows, row.Flat) → Text.cells '\n' s.context = s.contextRows) := by
  have hcells : Text.cells '\n' s.context = s.contextRows.flatMap (Text.cells '\n') := by
    have hne : s.contextRows ≠ [] := List.cons_ne_nil _ _
    rw [context_eq h, Text.cells_join '\n' hne]
  have hrows : (∀ row ∈ s.contextRows, row.Flat) → Text.cells '\n' s.context = s.contextRows := by
    rw [hcells]
    exact Text.flatMap_cells_eq_self
  refine ⟨⟨fun hlaid => ?_, fun hflat => ?_⟩, hrows⟩
  -- the layout fixes the number of the lines, and a line feed inside a row would make it larger
  · have hlength := hlaid.length_eq
    rw [hcells] at hlength
    exact Text.length_flatMap_cells_iff.mp hlength
  · rw [hrows hflat]
    exact s.laidOut_contextRows

end Schema

/-! ### The rows of a parsed schema -/

theorem Text.flat_ofNat (n : Nat) : (Text.ofNat n).Flat := by
  intro hmem
  rw [Text.ofNat, Nat.repr, String.toList_ofList] at hmem
  exact absurd (Nat.isDigit_of_mem_toDigits (by decide) (by decide) hmem) (by decide)

theorem Totals.flat_summaryLines (n : Totals) : ∀ line ∈ n.summaryLines, line.Flat := by
  have hcount : ∀ (label : Text) (count : Nat), label.Flat → Text.Flat (.concat [label, .ofNat count]) :=
    fun label count h => Text.flat_concat.mpr (by simp [h, Text.flat_ofNat])
  simp only [summaryLines, List.forall_mem_cons]
  exact ⟨by decide, hcount _ _ (by decide), hcount _ _ (by decide), hcount _ _ (by decide),
    hcount _ _ (by decide), by simp⟩

namespace Sql

open Pattern

theorem TableStatement.flat_of_mem {text : Text} {d : TableStatement}
    (h : d ∈ (Statements.locate text).1.tables) : d.name.Flat ∧ d.schema.Flat := by
  obtain ⟨head, hhead, hclosed⟩ := List.mem_filterMap.mp h
  obtain ⟨before, rest, position, width, -, hfind⟩ := Cursor.found_of_mem_harvest hhead
  obtain ⟨m, hm, hread⟩ := Option.map_eq_some_iff.mp hfind
  have hgroup : (m.group 1).Flat := by
    rw [Match.group]
    cases hu : m.group? 1 with
    | none => exact List.not_mem_nil
    | some u =>
      obtain ⟨q, hq, hspells⟩ := spells_of_matchAt? hm hu
      obtain rfl := List.mem_singleton.mp
        (show q ∈ [solid1 fun c => !Text.isBlank c && c != '('] from hq)
      exact fun hmem => absurd (hspells.solid1 _ hmem) (by decide)
  have hname := QualifiedName.subset (m.group 1)
  split at hread
  · obtain ⟨rfl, -⟩ := Prod.mk.inj hread
    obtain rfl := Option.some.inj hclosed
    refine ⟨hgroup.of_subset (List.Subset.trans (unquoted_subset _) hname.1), ?_⟩
    change Text.Flat ((QualifiedName.ofText (m.group 1)).schema.getD "public")
    cases hs : (QualifiedName.ofText (m.group 1)).schema with
    | none => decide
    | some schema => exact hgroup.of_subset (hname.2 schema hs)
  · obtain ⟨rfl, -⟩ := Prod.mk.inj hread
    cases hclosed

end Sql

namespace Table

theorem flat_securityLines_iff {t : Table} (h : t.policies ≠ [] → t.rlsEnabled = true) :
    (∀ line ∈ t.securityLines, line.Flat) ↔ ∀ p ∈ t.policies, p.contextLine.Flat := by
  unfold securityLines
  cases hp : t.policies with
  | nil =>
    cases t.rlsEnabled with
    | false => simp
    | true => exact iff_of_true (by decide) (by simp)
  | cons p more =>
    rw [h (by simp [hp]), if_neg (by simp), List.forall_mem_cons, and_iff_right (by decide), if_neg (by simp),
      List.forall_mem_cons, and_iff_right (by decide), List.forall_mem_map]

theorem flat_contextLines_iff {text : Text} {d : TableStatement} {t : Table}
    (hd : d ∈ (Statements.locate text).1.tables) (h : Table.ofStatement (Statements.locate text).1 d = .ok t) :
    (∀ line ∈ t.contextLines, line.Flat) ↔ ∀ p ∈ t.policies, p.OnOneLine := by
  obtain ⟨b, hb, rfl⟩ := Table.ofStatement_eq_ok h
  obtain ⟨hname, hschema⟩ := TableStatement.flat_of_mem hd
  have hbody := TableBody.read_flat hb
  have hheader : Text.Flat (.concat ["TABLE ", d.name, " (schema: ", d.schema, "):"]) := by
    refine Text.flat_concat.mpr ?_
    simp only [List.forall_mem_cons]
    exact ⟨by decide, hname, by decide, hschema, by decide, by simp⟩
  have hpolicies : ∀ p ∈ (Statements.locate text).1.policiesOn d.name, p.contextLine.Flat ↔ p.OnOneLine := by
    intro p hp
    obtain ⟨s, -, rfl⟩ := List.mem_map.mp hp
    exact Policy.flat_contextLine_iff s
  rw [contextLines, List.forall_mem_cons, and_iff_right hheader, List.forall_mem_append, List.forall_mem_append,
    flat_securityLines_iff fun hne => (Bool.or_eq_true _ _).mpr (.inr (by simpa using hne))]
  constructor
  · rintro ⟨-, hlines⟩ p hp
    exact (hpolicies p hp).mp (hlines p hp)
  · intro hone
    refine ⟨⟨?_, ?_⟩, fun p hp => (hpolicies p hp).mpr (hone p hp)⟩
    · exact List.forall_mem_map.mpr fun c hc => (hbody.columns c hc).contextLine
    · exact List.forall_mem_map.mpr fun k hk => (hbody.foreignKeys k hk).contextLine

end Table

namespace Schema

/-- The context of a text with a table, split at its line feeds, is laid out as summary and blocks just when no
policy on one of the tables has a line feed in its name or in what its sentence quotes; and then the lines are the
rows it was made of. -/
theorem parse_laidOut (text : Text) :
    ∃ s, parse text = .ok s ∧ (s.tables = [] ∧ s.context = [] ∨
      s.tables ≠ [] ∧
        (s.LaidOut (Text.cells '\n' s.context) ↔ ∀ t ∈ s.tables, ∀ p ∈ t.policies, p.OnOneLine) ∧
        (s.LaidOut (Text.cells '\n' s.context) ↔ Text.cells '\n' s.context = s.contextRows)) := by
  obtain ⟨s, hs, hall⟩ := parse_total text
  refine ⟨s, hs, ?_⟩
  by_cases hnone : s.tables = []
  · exact .inl ⟨hnone, by simp [context, hnone]⟩
  · obtain ⟨hlaid, hrows⟩ := laidOut_iff hnone
    have hpolicies : (∀ row ∈ s.contextRows, row.Flat) ↔ ∀ t ∈ s.tables, ∀ p ∈ t.policies, p.OnOneLine := by
      rw [contextRows, List.forall_mem_append, and_iff_right s.totals.flat_summaryLines, List.forall_mem_flatMap]
      refine forall₂_congr fun t ht => ?_
      obtain ⟨d, hd, htable⟩ := exists_of_mem_forall₂ hall ht
      rw [List.forall_mem_cons, and_iff_right (show Text.Flat [] from List.not_mem_nil)]
      exact Table.flat_contextLines_iff hd htable
    refine .inr ⟨hnone, hlaid.trans hpolicies, fun h => hrows (hlaid.mp h), fun h => ?_⟩
    rw [h]
    exact s.laidOut_contextRows

def brokenPredicate : Text :=
  "CREATE TABLE t (a int);\nCREATE POLICY p ON t USING (a = 1\nOR a = 2);"

def brokenPolicy : Policy where
  name := "p"
  clauses := ⟨"ALL", ["public"], some "a = 1\nOR a = 2", none, true⟩
  plainEnglish := "Anyone can access rows — condition: a = 1\nOR a = 2"

theorem parse_brokenPredicate : parse brokenPredicate =
    .ok ⟨[⟨"t", "public", [⟨"a", "int", true, none, false, false, none⟩], [], [], true, [brokenPolicy]⟩]⟩ := by
  have hfound : (Statements.locate brokenPredicate).1 =
      ⟨[], [⟨"p", "t", "USING (a = 1\nOR a = 2)"⟩], [⟨"public", "t", "a int"⟩]⟩ := by
    have hunmarked : Unmarked brokenPredicate := by decide +kernel
    simp only [Statements.locate, hunmarked.withoutComments_eq]
    decide +kernel
  have hpolicy : Policy.ofStatement ⟨"p", "t", "USING (a = 1\nOR a = 2)"⟩ = brokenPolicy := by
    have hunmarked : Unmarked "USING (a = 1\nOR a = 2)" := by decide +kernel
    simp only [Policy.ofStatement, policyClauses, hunmarked.withoutComments_eq]
    decide +kernel
  rw [parse_of_locate_policy hfound, hpolicy]

theorem not_laidOut_brokenPredicate : ∃ s, parse brokenPredicate = .ok s ∧ s.tables ≠ [] ∧
    "OR a = 2".toList ∈ Text.cells '\n' s.context ∧ ¬s.LaidOut (Text.cells '\n' s.context) := by
  refine ⟨_, parse_brokenPredicate, by simp, by decide +kernel, fun hlaid => ?_⟩
  exact absurd hlaid.length_eq (by decide +kernel)

end Schema

end DdlAtlas
