import DdlAtlas.Proofs.Table.Declared
import Mathlib.Data.List.Induction

/-!
# Primary keys and the flags of columns

Primary keys come from two kinds of lines, in any order: a table constraint lists several names, and a
column declaration may name its own column. However they are mixed, the list of keys holds the names so
mentioned at their first mention, and at the end a column is flagged just when its name is listed. While
the lines are read only one half of that is true, that a flagged column is listed; the other half comes
from the last pass over the columns.
-/

namespace DdlAtlas.Sql

def Line.keyNames : Line → List Text
  | .primaryKey columns => columns
  | .column name declared =>
    if Text.hasPart "PRIMARY KEY" (Text.capitals declared) then [name] else []
  | .foreignKey .. | .otherConstraint | .reserved | .unrecognized => []

def mentionedKeys (body : Text) : List Text :=
  ((logicalLines body).flatMap fun line => (Line.read line).keyNames).filter (· ≠ [])

theorem eraseDups_concat {ts : List Text} {t : Text} :
    (ts ++ [t]).eraseDups = if t ∈ ts then ts.eraseDups else ts.eraseDups ++ [t] := by
  rw [List.eraseDups_append]
  split <;> rename_i h <;> simp [List.removeAll, h, List.eraseDups_cons]

theorem nodup_eraseDups (ts : List Text) : ts.eraseDups.Nodup := by
  induction ts using List.reverseRecOn with
  | nil => simp
  | append_singleton ts t ih =>
    rw [eraseDups_concat]
    split
    · exact ih
    · rename_i h
      refine List.nodup_append.mpr ⟨ih, by simp, ?_⟩
      rintro a ha b hb rfl
      simp_all

namespace TableBody

/-- What holds of a body while its lines are read: the keys are the names mentioned so far, and a
flagged column is among them. -/
structure Tracks (b : TableBody) (mentioned : List Text) : Prop where
  keys : b.primaryKeys = (mentioned.filter (· ≠ [])).eraseDups
  flagged : ∀ c ∈ b.columns, c.isPrimaryKey = true → c.name ∈ b.primaryKeys

theorem tracks_empty : empty.Tracks [] :=
  ⟨rfl, by simp [empty]⟩

theorem Tracks.addPrimaryKey {b : TableBody} {mentioned : List Text} (h : b.Tracks mentioned)
    (name : Text) : (b.addPrimaryKey name).Tracks (mentioned ++ [name]) := by
  have hmem : name ∈ b.primaryKeys ↔ name ∈ mentioned.filter (· ≠ []) := by
    rw [h.keys, List.mem_eraseDups]
  by_cases hne : name = []
  · have hsame : b.addPrimaryKey name = b := by simp [TableBody.addPrimaryKey, hne]
    refine ⟨?_, by simpa [hsame] using h.flagged⟩
    rw [hsame, List.filter_append, List.filter_cons_of_neg (by simpa using hne), List.filter_nil,
      List.append_nil, h.keys]
  · by_cases hin : name ∈ b.primaryKeys
    · have hsame : b.addPrimaryKey name = b := by simp [TableBody.addPrimaryKey, hin]
      refine ⟨?_, by simpa [hsame] using h.flagged⟩
      rw [hsame, List.filter_append, List.filter_cons_of_pos (by simpa using hne), List.filter_nil,
        eraseDups_concat, if_pos (hmem.mp hin), h.keys]
    · have hnew : b.addPrimaryKey name = { b with primaryKeys := b.primaryKeys ++ [name] } := by
        simp [TableBody.addPrimaryKey, hin, hne]
      refine ⟨?_, ?_⟩
      · rw [hnew, List.filter_append, List.filter_cons_of_pos (by simpa using hne), List.filter_nil,
          eraseDups_concat, if_neg (fun hm => hin (hmem.mpr hm)), ← h.keys]
      · intro c hc hflag
        rw [hnew] at hc ⊢
        exact List.mem_append_left _ (h.flagged c hc hflag)

theorem Tracks.foldl_addPrimaryKey {b : TableBody} {mentioned : List Text} (h : b.Tracks mentioned)
    (names : List Text) : (names.foldl TableBody.addPrimaryKey b).Tracks (mentioned ++ names) := by
  induction names generalizing b mentioned with
  | nil => simpa using h
  | cons name names ih => simpa using ih (h.addPrimaryKey name)

theorem mem_addPrimaryKey (b : TableBody) {name : Text} (hne : name ≠ []) :
    name ∈ (b.addPrimaryKey name).primaryKeys := by
  unfold addPrimaryKey
  split
  · simp
  · rename_i h
    simpa [hne] using h

theorem Tracks.addColumn {b : TableBody} {mentioned : List Text} (h : b.Tracks mentioned)
    {c : Column} (hne : c.name ≠ []) :
    (b.addColumn c).Tracks (mentioned ++ if c.isPrimaryKey then [c.name] else []) := by
  cases hc : c.isPrimaryKey with
  | true =>
    have hkeyed := h.addPrimaryKey c.name
    refine ⟨by simpa [TableBody.addColumn, hc] using hkeyed.keys, ?_⟩
    intro d hd hflag
    simp only [TableBody.addColumn, hc, if_true] at hd ⊢
    rcases List.mem_append.mp hd with hd | hd
    · exact hkeyed.flagged d hd hflag
    · obtain rfl := List.mem_singleton.mp hd
      exact mem_addPrimaryKey b hne
  | false =>
    refine ⟨by simpa [TableBody.addColumn, hc] using h.keys, ?_⟩
    intro d hd hflag
    simp only [TableBody.addColumn, hc, Bool.false_eq_true, if_false] at hd ⊢
    rcases List.mem_append.mp hd with hd | hd
    · exact h.flagged d hd hflag
    · obtain rfl := List.mem_singleton.mp hd
      simp [hc] at hflag

theorem Tracks.add {b b' : TableBody} {mentioned : List Text} (h : b.Tracks mentioned)
    {table line : Text} (hadd : add table b (Line.read line) = .ok b') :
    b'.Tracks (mentioned ++ (Line.read line).keyNames) := by
  generalize hline : Line.read line = read at hadd
  cases added_of_add hadd with
  | primaryKey columns => exact h.foldl_addPrimaryKey columns
  | column hc =>
    obtain ⟨rfl, -, -, hflag⟩ := columnOf_eq_ok hc
    rw [Line.keyNames, ← hflag]
    exact h.addColumn (name_ne_nil_of_read hline)
  | foreignKey => simpa [Line.keyNames] using ⟨h.keys, h.flagged⟩
  | otherConstraint | reserved | unrecognized => simpa [Line.keyNames] using h

/-- The keys of a finished body are those that its lines mention, each at its first mention, and the
flags of its columns agree with them. -/
structure Keyed (body : Text) (columns : List Column) (primaryKeys : List Text) : Prop where
  order : primaryKeys = (mentionedKeys body).eraseDups
  nodup : primaryKeys.Nodup
  named : [] ∉ primaryKeys
  flags : ∀ c ∈ columns, c.isPrimaryKey = true ↔ c.name ∈ primaryKeys

theorem Tracks.keyed_flagKeys {b : TableBody} {body : Text}
    (h : b.Tracks ((logicalLines body).flatMap fun line => (Line.read line).keyNames)) :
    Keyed body b.flagKeys.columns b.flagKeys.primaryKeys where
  order := h.keys
  nodup := by
    rw [show b.flagKeys.primaryKeys = b.primaryKeys from rfl, h.keys]
    exact nodup_eraseDups _
  named := by
    rw [show b.flagKeys.primaryKeys = b.primaryKeys from rfl, h.keys]
    simp
  flags := by
    intro c hc
    simp only [flagKeys, List.mem_map] at hc
    obtain ⟨d, hd, rfl⟩ := hc
    by_cases hin : d.name ∈ b.primaryKeys
    · simp [flagKeys, hin]
    · have hflag : d.isPrimaryKey = false := by
        cases hp : d.isPrimaryKey with
        | true => exact absurd (h.flagged d hd hp) hin
        | false => rfl
      simp [flagKeys, hin, hflag]

theorem read_total (body table : Text) :
    ∃ b, read body table = .ok b ∧ Keyed body b.columns b.primaryKeys := by
  obtain ⟨b, hb, ht⟩ := read_total_of_step table
    (P := fun seen b => b.Tracks (seen.flatMap fun line => (Line.read line).keyNames)) tracks_empty
    (fun seen line b b' _ hadd h => by simpa using h.add hadd) body
  exact ⟨b.flagKeys, hb, ht.keyed_flagKeys⟩

end TableBody

end DdlAtlas.Sql
