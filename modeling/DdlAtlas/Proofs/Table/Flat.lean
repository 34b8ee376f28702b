import DdlAtlas.Proofs.Pattern.Groups
import DdlAtlas.Proofs.Table.Declared
import DdlAtlas.Schema.Context

/-!
# Tables without line feeds

Collapsing its blanks leaves no line feed in a line of a table body. All that a line declares is cut out of it,
so that the columns and the foreign keys of a table can each be written on one line.
-/

namespace DdlAtlas

namespace Text

def Flat (t : Text) : Prop :=
  '\n' ∉ t

instance (t : Text) : Decidable t.Flat :=
  inferInstanceAs (Decidable ('\n' ∉ t))

theorem Flat.of_subset {s t : Text} (h : t.Flat) (hs : s ⊆ t) : s.Flat :=
  fun hmem => h (hs hmem)

theorem flat_of_unbroken {t : Text} (h : Unbroken t) : t.Flat :=
  fun hmem => absurd (h _ hmem) (by decide)

theorem flat_append {s t : Text} : (s ++ t).Flat ↔ s.Flat ∧ t.Flat := by
  rw [Flat, List.mem_append, not_or]
  rfl

theorem flat_concat {ts : List Text} : (concat ts).Flat ↔ ∀ t ∈ ts, t.Flat := by
  simp [concat, Flat]

theorem flat_ite {p : Prop} [Decidable p] {s t : Text} (hs : s.Flat) (ht : t.Flat) : Flat (if p then s else t) := by
  split
  · exact hs
  · exact ht

theorem flat_whenSet {t : Text} (flag : Bool) (h : t.Flat) : (whenSet flag t).Flat :=
  flat_ite h List.not_mem_nil

theorem flat_of_mem_words {t w : Text} (h : w ∈ words t) : w.Flat :=
  flat_of_unbroken (mem_words h).2

theorem flat_collapse (t : Text) : (collapse t).Flat :=
  not_mem_join (by decide) fun _ hw => flat_of_mem_words hw

theorem trimEnd_subset (t : Text) : trimEnd t ⊆ t := by
  have hsuffix := List.dropWhile_suffix isBlank (l := t.reverse)
  exact fun x hx => List.mem_reverse.mp (hsuffix.subset (List.mem_reverse.mp hx))

theorem trim_subset (t : Text) : trim t ⊆ t :=
  List.Subset.trans (trimEnd_subset _) (List.dropWhile_suffix _).subset

end Text

namespace Pattern

theorem group?_subset {p : Pattern} {t u : Text} {m : Match} {label : Nat} (h : p.match? t = some m)
    (hu : m.group? label = some u) : u ⊆ t := by
  obtain ⟨s, hs, -, hgroups⟩ := stretch_of_matchAt? h
  have hs : t = s ++ m.stop.rest := hs
  rw [hs]
  exact List.Subset.trans (hgroups label u hu).subset (List.subset_append_left s _)

theorem group_subset {p : Pattern} {t : Text} {m : Match} (h : p.match? t = some m) (label : Nat) :
    m.group label ⊆ t := by
  rw [Match.group]
  cases hu : m.group? label with
  | none => exact List.nil_subset t
  | some u => exact group?_subset h hu

theorem textBefore_subset (p : Pattern) (t : Text) : p.textBefore t ⊆ t := by
  unfold textBefore
  split
  · exact List.take_subset _ t
  · exact List.Subset.refl t

end Pattern

namespace Sql

open Pattern

theorem unquoted_subset (t : Text) : unquoted t ⊆ t :=
  List.Subset.trans (Text.trim_subset _)
    (List.Subset.trans (List.filter_subset_self _) (List.filter_subset_self _))

theorem splitAtLast?_eq {c : Char} {t front back : Text} (h : splitAtLast? c t = some (front, back)) :
    t = front ++ c :: back := by
  induction t generalizing front with
  | nil => cases h
  | cons x t ih =>
    rw [splitAtLast?] at h
    split at h
    · rename_i front' back' hrest
      obtain ⟨rfl, rfl⟩ := Prod.mk.inj (Option.some.inj h)
      rw [ih hrest, List.cons_append]
    · split at h
      · rename_i hx
        obtain ⟨rfl, rfl⟩ := Prod.mk.inj (Option.some.inj h)
        rw [hx]
        rfl
      · cases h

theorem QualifiedName.subset (t : Text) :
    (ofText t).name ⊆ t ∧ ∀ schema ∈ (ofText t).schema, schema ⊆ t := by
  have hcut : ∀ {front back}, splitAtLast? '.' (unquoted t) = some (front, back) → front ⊆ t ∧ back ⊆ t := by
    intro front back hsplit
    have hparts := unquoted_subset t
    rw [splitAtLast?_eq hsplit, List.append_subset, List.cons_subset] at hparts
    exact ⟨hparts.1, hparts.2.2⟩
  unfold ofText
  split
  · rename_i bare hsplit
    exact ⟨(hcut hsplit).2, by simp⟩
  · rename_i schema bare _ hsplit
    refine ⟨(hcut hsplit).2, fun s hs => ?_⟩
    obtain rfl := Option.some.inj hs
    exact (hcut hsplit).1
  · exact ⟨unquoted_subset t, by simp⟩

theorem foldl_textBefore_subset (ps : List Pattern) (t : Text) :
    ps.foldl (fun t p => p.textBefore t) t ⊆ t := by
  induction ps generalizing t with
  | nil => exact List.Subset.refl t
  | cons p ps ih => exact List.Subset.trans (ih (p.textBefore t)) (textBefore_subset p t)

theorem flat_of_columnType {declared type : Text} (hflat : declared.Flat) (h : columnType declared = .ok type) :
    type.Flat := by
  rcases columnType_eq_ok h with rfl | ⟨m, hm, rfl, -⟩
  · cases hw : Text.words declared with
    | nil => exact List.not_mem_nil
    | cons w more => exact Text.flat_of_mem_words (hw ▸ List.mem_cons_self)
  · refine hflat.of_subset (List.Subset.trans (Text.trim_subset _) ?_)
    exact List.Subset.trans (foldl_textBefore_subset _ _) (group_subset hm 1)

theorem defaultValue?_subset {declared value : Text} (h : defaultValue? declared = some value) :
    value ⊆ declared := by
  obtain ⟨m, hm, hvalue⟩ := Option.bind_eq_some_iff.mp h
  unfold nonempty? at hvalue
  split at hvalue
  · cases hvalue
  · obtain rfl := Option.some.inj hvalue
    obtain ⟨before, rest, position, rfl, hmatch⟩ := matchAt?_of_search? hm
    obtain ⟨s, rfl, -⟩ := stretch_of_matchAt? hmatch
    refine List.Subset.trans (valueExtent_isPrefix none 0 _).subset ?_
    exact List.Subset.trans (List.subset_append_right s _) (List.subset_append_right _ _)

end Sql

structure Column.Flat (c : Column) : Prop where
  name : c.name.Flat
  type : c.type.Flat
  value : ∀ v ∈ c.defaultValue, v.Flat

structure ForeignKey.Flat (k : ForeignKey) : Prop where
  column : k.column.Flat
  table : k.referencedTable.Flat
  key : k.referencedColumn.Flat

theorem Column.Flat.contextLine {c : Column} (h : c.Flat) : c.contextLine.Flat := by
  refine Text.flat_concat.mpr ?_
  simp only [List.forall_mem_cons]
  refine ⟨by decide, h.name, by decide, h.type, Text.flat_whenSet _ (by decide), Text.flat_whenSet _ (by decide),
    Text.flat_whenSet _ (by decide), ?_, by simp⟩
  split
  · exact List.not_mem_nil
  · exact List.not_mem_nil
  · rename_i hv
    exact Text.flat_append.mpr ⟨by decide, h.value _ (by rw [hv]; rfl)⟩

theorem ForeignKey.Flat.contextLine {k : ForeignKey} (h : k.Flat) : k.contextLine.Flat := by
  refine Text.flat_concat.mpr ?_
  simp only [List.forall_mem_cons]
  exact ⟨by decide, h.column, by decide, h.table, by decide, h.key, by decide, by simp⟩

namespace Sql

open Pattern

theorem flat_of_columnOf {name declared : Text} {c : Column} (hname : name.Flat) (hdeclared : declared.Flat)
    (h : columnOf name declared = .ok c) : c.Flat := by
  obtain ⟨rfl, htype, hdefault, -⟩ := columnOf_eq_ok h
  refine ⟨hname, flat_of_columnType hdeclared htype, fun v hv => ?_⟩
  rw [hdefault] at hv
  exact hdeclared.of_subset (defaultValue?_subset hv)

theorem subset_of_read_column {line name declared : Text} (h : Line.read line = .column name declared) :
    name ⊆ line ∧ declared ⊆ line := by
  obtain ⟨m, hm, hread⟩ := columnLine_of_read h
  obtain ⟨hname, rfl⟩ := Line.ofColumnMatch_eq_column hread
  refine ⟨?_, group_subset hm 3⟩
  rcases hname with hquoted | ⟨-, rfl⟩
  · exact group?_subset hm hquoted
  · exact group_subset hm 2

theorem subset_of_read_foreignKey {line column table key : Text} {constraint : Option Text}
    (h : Line.read line = .foreignKey constraint column table key) :
    column ⊆ line ∧ table ⊆ line ∧ key ⊆ line := by
  obtain ⟨m, hm, -, rfl, rfl, rfl⟩ := foreignKeyLine_of_read h
  exact ⟨List.Subset.trans (unquoted_subset _) (group_subset hm 2),
    List.Subset.trans (QualifiedName.subset _).1 (group_subset hm 3),
    List.Subset.trans (unquoted_subset _) (group_subset hm 4)⟩

namespace TableBody

structure Flat (b : TableBody) : Prop where
  columns : ∀ c ∈ b.columns, c.Flat
  foreignKeys : ∀ k ∈ b.foreignKeys, k.Flat

theorem flat_empty : empty.Flat :=
  ⟨by simp [empty], by simp [empty]⟩

theorem Flat.add {b b' : TableBody} (h : b.Flat) {table line : Text} (hline : line.Flat)
    (hadd : add table b (Line.read line) = .ok b') : b'.Flat := by
  generalize hread : Line.read line = read at hadd
  cases added_of_add hadd with
  | primaryKey columns => exact ⟨by simpa using h.columns, by simpa using h.foreignKeys⟩
  | foreignKey constraint column referenced key =>
    obtain ⟨hcolumn, htable, hkey⟩ := subset_of_read_foreignKey hread
    refine ⟨h.columns, List.forall_mem_append.mpr ⟨h.foreignKeys, List.forall_mem_singleton.mpr ?_⟩⟩
    exact ⟨hline.of_subset hcolumn, hline.of_subset htable, hline.of_subset hkey⟩
  | column hc =>
    obtain ⟨hname, hdeclared⟩ := subset_of_read_column hread
    have hflat := flat_of_columnOf (hline.of_subset hname) (hline.of_subset hdeclared) hc
    refine ⟨?_, by simpa using h.foreignKeys⟩
    rw [columns_addColumn]
    exact List.forall_mem_append.mpr ⟨h.columns, List.forall_mem_singleton.mpr hflat⟩
  | otherConstraint | reserved | unrecognized => exact h

theorem Flat.flagKeys {b : TableBody} (h : b.Flat) : b.flagKeys.Flat := by
  refine ⟨fun c hc => ?_, h.foreignKeys⟩
  simp only [TableBody.flagKeys, List.mem_map] at hc
  obtain ⟨d, hd, rfl⟩ := hc
  have hflat := h.columns d hd
  split
  · exact ⟨hflat.name, hflat.type, hflat.value⟩
  · exact hflat

theorem read_flat {body table : Text} {b : TableBody} (h : read body table = .ok b) : b.Flat := by
  obtain ⟨last, hlast, hflat⟩ := read_total_of_step table
    (P := fun seen b => (∀ line ∈ seen, line.Flat) → b.Flat) (fun _ => flat_empty)
    (fun seen line b b' _ hadd hb hseen => by
      rw [List.forall_mem_append, List.forall_mem_singleton] at hseen
      exact (hb hseen.1).add hseen.2 hadd) body
  obtain rfl := Except.ok.inj (h.symm.trans hlast)
  refine (hflat fun line hline => ?_).flagKeys
  simp only [logicalLines, List.mem_filter, List.mem_map] at hline
  obtain ⟨⟨segment, -, rfl⟩, -⟩ := hline
  exact Text.flat_collapse segment

end TableBody

end Sql

end DdlAtlas
