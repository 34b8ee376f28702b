import DdlAtlas.Proofs.Text.Join
import DdlAtlas.Text.Basic

/-!
# Rows in a text

A text that is put together from rows with a character between them is cut again into the cells of its rows,
one row after the other. The rows themselves come back just when none of them holds the character, and no
other number of rows goes with them.
-/

namespace DdlAtlas.Text

theorem cells_append_separator (sep : Char) (s t : Text) :
    cells sep (s ++ sep :: t) = cells sep s ++ cells sep t := by
  induction s with
  | nil => simp [cells]
  | cons c s ih =>
    rw [List.cons_append, cells, cells, ih]
    split
    · rfl
    · obtain ⟨u, us, hu⟩ := List.exists_cons_of_ne_nil (cells_ne_nil sep s)
      simp [hu]

theorem length_cells (sep : Char) (t : Text) : (cells sep t).length = t.count sep + 1 := by
  induction t with
  | nil => rfl
  | cons c t ih =>
    rw [cells, List.count_cons]
    split
    · rename_i hc
      simp [hc, ih]
    · rename_i hc
      simp [hc, ih]

theorem cells_join (sep : Char) {rows : List Text} (h : rows ≠ []) :
    cells sep (join [sep] rows) = rows.flatMap (cells sep) := by
  induction rows with
  | nil => exact absurd rfl h
  | cons row rows ih =>
    cases rows with
    | nil => simp [join]
    | cons next more =>
      rw [join_cons_cons, List.append_assoc, List.singleton_append, cells_append_separator,
        ih (List.cons_ne_nil next more)]
      rfl

theorem flatMap_cells_eq_self {sep : Char} {rows : List Text} (h : ∀ row ∈ rows, sep ∉ row) :
    rows.flatMap (cells sep) = rows := by
  induction rows with
  | nil => rfl
  | cons row rows ih =>
    rw [List.flatMap_cons, cells_of_not_mem (h row List.mem_cons_self),
      ih fun r hr => h r (List.mem_cons_of_mem row hr)]
    rfl

theorem length_le_flatMap_cells (sep : Char) (rows : List Text) :
    rows.length ≤ (rows.flatMap (cells sep)).length := by
  induction rows with
  | nil => exact Nat.le_refl 0
  | cons row rows ih =>
    rw [List.flatMap_cons, List.length_append, List.length_cons, length_cells]
    omega

theorem length_flatMap_cells_iff {sep : Char} {rows : List Text} :
    (rows.flatMap (cells sep)).length = rows.length ↔ ∀ row ∈ rows, sep ∉ row := by
  constructor
  · intro h
    induction rows with
    | nil => exact fun _ hr => absurd hr List.not_mem_nil
    | cons row rows ih =>
      have hle := length_le_flatMap_cells sep rows
      rw [List.flatMap_cons, List.length_append, List.length_cons, length_cells] at h
      have hrow : sep ∉ row := List.count_eq_zero.mp (by omega)
      have hrows := ih (by omega)
      exact List.forall_mem_cons.mpr ⟨hrow, hrows⟩
  · exact fun h => congrArg List.length (flatMap_cells_eq_self h)

end DdlAtlas.Text
