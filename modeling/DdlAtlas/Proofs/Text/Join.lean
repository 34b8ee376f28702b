import DdlAtlas.Text.Basic

/-! Joining parts and cutting a text into cells, one character or one part at a time. -/

namespace DdlAtlas.Text

def spaced (ts : List Text) : Text :=
  ts.flatMap (' ' :: ·)

@[simp] theorem spaced_nil : spaced [] = [] :=
  rfl

@[simp] theorem spaced_cons (t : Text) (ts : List Text) : spaced (t :: ts) = ' ' :: (t ++ spaced ts) :=
  rfl

@[simp] theorem spaced_append (ts us : List Text) : spaced (ts ++ us) = spaced ts ++ spaced us :=
  List.flatMap_append

theorem cells_ne_nil (sep : Char) (t : Text) : cells sep t ≠ [] := by
  induction t with
  | nil => simp [cells]
  | cons c rest ih =>
    unfold cells
    split
    · simp
    · cases h : cells sep rest with
      | nil => exact absurd h ih
      | cons cell more => simp

theorem cells_of_not_mem {sep : Char} {t : Text} (h : sep ∉ t) : cells sep t = [t] := by
  induction t with
  | nil => rfl
  | cons c t ih =>
    have hc : c ≠ sep := fun he => h (he ▸ List.mem_cons_self)
    rw [cells, if_neg hc, ih fun hm => h (List.mem_cons_of_mem c hm)]
    rfl

theorem cells_append_cons {sep : Char} {s t : Text} (h : sep ∉ s) :
    cells sep (s ++ sep :: t) = s :: cells sep t := by
  induction s with
  | nil => simp [cells]
  | cons c s ih =>
    have hc : c ≠ sep := fun he => h (he ▸ List.mem_cons_self)
    rw [List.cons_append, cells, if_neg hc, ih fun hm => h (List.mem_cons_of_mem c hm)]
    rfl

theorem cells_append {sep : Char} {s : Text} (h : sep ∉ s) (t : Text) :
    cells sep (s ++ t) = (cells sep t).modifyHead (s ++ ·) := by
  induction s with
  | nil =>
    obtain ⟨u, us, hu⟩ := List.exists_cons_of_ne_nil (cells_ne_nil sep t)
    simp [hu]
  | cons c s ih =>
    have hc : c ≠ sep := fun he => h (he ▸ List.mem_cons_self)
    rw [List.cons_append, cells, if_neg hc, ih fun hm => h (List.mem_cons_of_mem c hm), List.modifyHead_modifyHead]
    rfl

theorem not_mem_of_mem_cells {sep : Char} {t cell : Text} (h : cell ∈ cells sep t) : sep ∉ cell := by
  induction t generalizing cell with
  | nil =>
    obtain rfl := List.mem_singleton.mp h
    exact List.not_mem_nil
  | cons c rest ih =>
    unfold cells at h
    split at h
    · rcases List.mem_cons.mp h with rfl | h
      · exact List.not_mem_nil
      · exact ih h
    · rename_i hc
      cases hcells : cells sep rest with
      | nil => exact absurd hcells (cells_ne_nil sep rest)
      | cons first more =>
        rw [hcells] at ih h
        rcases List.mem_cons.mp h with rfl | h
        · have hfirst := ih List.mem_cons_self
          simp [hfirst, Ne.symm hc]
        · exact ih (List.mem_cons_of_mem first h)

theorem join_concat (sep : Text) {ts : List Text} (h : ts ≠ []) (t : Text) :
    join sep (ts ++ [t]) = join sep ts ++ sep ++ t := by
  induction ts with
  | nil => exact absurd rfl h
  | cons u ts ih =>
    cases ts with
    | nil => simp [join]
    | cons v more =>
      have hrest := ih (by simp)
      simp only [List.cons_append] at hrest ⊢
      simp only [join, hrest, List.append_assoc]

theorem join_cons_cons (sep part next : Text) (more : List Text) :
    join sep (part :: next :: more) = part ++ sep ++ join sep (next :: more) :=
  rfl

theorem join_append (sep : Text) {a b : List Text} (ha : a ≠ []) (hb : b ≠ []) :
    join sep (a ++ b) = join sep a ++ sep ++ join sep b := by
  induction a with
  | nil => exact absurd rfl ha
  | cons t a ih =>
    cases a with
    | nil =>
      obtain ⟨u, b, rfl⟩ := List.exists_cons_of_ne_nil hb
      rfl
    | cons u a =>
      have hrest := ih (List.cons_ne_nil u a)
      rw [List.cons_append] at hrest
      rw [List.cons_append, List.cons_append, join_cons_cons, hrest, join_cons_cons]
      simp only [List.append_assoc]

theorem not_mem_join {c : Char} {sep : Text} (hsep : c ∉ sep) {ts : List Text} (h : ∀ t ∈ ts, c ∉ t) :
    c ∉ join sep ts := by
  induction ts with
  | nil => simp [join]
  | cons t ts ih =>
    cases ts with
    | nil => exact h t List.mem_cons_self
    | cons u us =>
      rw [join_cons_cons, List.append_assoc]
      simp only [List.mem_append, not_or]
      exact ⟨h t List.mem_cons_self, hsep, ih fun v hv => h v (List.mem_cons_of_mem t hv)⟩

theorem join_cons_head (sep : Text) (c : Char) (part : Text) (more : List Text) :
    join sep ((c :: part) :: more) = c :: join sep (part :: more) := by
  cases more <;> rfl

end DdlAtlas.Text
