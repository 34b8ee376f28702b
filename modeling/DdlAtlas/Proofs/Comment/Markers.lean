import DdlAtlas.Proofs.Comment.Idempotence

/-!
# Comment markers

The places in a text at which a comment marker stands can be counted. Comment removal makes no marker and
takes at least one away from every text that it changes, so that a text with all its markers left has not
been changed.
-/

namespace DdlAtlas.Sql

def BeginsMarker (c : Char) (rest : Text) : Prop :=
  (c = '-' ∧ rest.head? = some '-') ∨ (c = '/' ∧ rest.head? = some '*')

instance (c : Char) (rest : Text) : Decidable (BeginsMarker c rest) :=
  inferInstanceAs (Decidable (_ ∨ _))

def markers : Text → Nat
  | [] => 0
  | c :: rest => (if BeginsMarker c rest then 1 else 0) + markers rest

theorem BeginsMarker.append {c : Char} {rest : Text} (h : BeginsMarker c rest) (t : Text) :
    BeginsMarker c (rest ++ t) := by
  rcases h with ⟨rfl, hd⟩ | ⟨rfl, hd⟩
  · obtain ⟨more, rfl⟩ := List.head?_eq_some_iff.mp hd
    exact .inl ⟨rfl, rfl⟩
  · obtain ⟨more, rfl⟩ := List.head?_eq_some_iff.mp hd
    exact .inr ⟨rfl, rfl⟩

theorem markers_cons_le {c : Char} {rest t : Text} (hmarker : BeginsMarker c rest → BeginsMarker c t) :
    (if BeginsMarker c rest then 1 else 0) ≤ if BeginsMarker c t then 1 else 0 := by
  by_cases h : BeginsMarker c rest
  · simp [h, hmarker h]
  · simp [h]

theorem markers_append_le (s t : Text) : markers s + markers t ≤ markers (s ++ t) := by
  induction s with
  | nil => simp [markers]
  | cons c rest ih =>
    have hhead := markers_cons_le fun h : BeginsMarker c rest => h.append t
    rw [List.cons_append, markers, markers]
    omega

theorem le_markers_cons (c : Char) (rest : Text) : markers rest ≤ markers (c :: rest) :=
  Nat.le_add_left _ _

theorem markers_le_of_suffix {s t : Text} (h : s <:+ t) : markers s ≤ markers t := by
  obtain ⟨u, rfl⟩ := h
  have := markers_append_le u s
  omega

theorem markers_of_unmarked {t : Text} (h : Unmarked t) : markers t = 0 := by
  induction t with
  | nil => rfl
  | cons c rest ih =>
    have hnone : ¬BeginsMarker c rest := fun hm =>
      hm.elim (head?_ne_of_absent h.1) (head?_ne_of_absent h.2)
    rw [markers, if_neg hnone, ih ⟨absent_of_cons h.1, absent_of_cons h.2⟩]

theorem markers_append_cons {x : Char} (hx : x ≠ '-' ∧ x ≠ '/' ∧ x ≠ '*') (s t : Text) :
    markers (s ++ x :: t) = markers s + markers t := by
  obtain ⟨hhyphen, hslash, hstar⟩ := hx
  induction s with
  | nil =>
    have hnone : ¬BeginsMarker x t := fun h => h.elim (fun h => hhyphen h.1) (fun h => hslash h.1)
    simp only [List.nil_append, markers, if_neg hnone]
  | cons c rest ih =>
    have hsame : BeginsMarker c (rest ++ x :: t) ↔ BeginsMarker c rest := by
      cases rest with
      | nil => simp [BeginsMarker, hhyphen, hstar]
      | cons d rest => simp [BeginsMarker]
    rw [List.cons_append, markers, markers, ih]
    simp only [hsame]
    omega

theorem markers_le_of_eq_or_lt {s t : Text} (h : s = t ∨ markers s < markers t) :
    markers s ≤ markers t := by
  rcases h with rfl | h
  · exact Nat.le_refl _
  · exact Nat.le_of_lt h

theorem uncommented_eq_or_markers_lt (s : Option Char) (t : Text) :
    uncommented s t = t ∨ markers (uncommented s t) < markers t := by
  induction s, t using uncommented_induction with
  | nil s => exact .inl (uncommented_nil s)
  | hyphens t ih =>
    right
    have hleft := markers_le_of_eq_or_lt ih
    have hline := markers_le_of_suffix (s := fromBreak t) (List.dropWhile_suffix _)
    have htail := le_markers_cons '-' t
    rw [uncommented_hyphens, markers, if_pos (.inl ⟨rfl, rfl⟩)]
    omega
  | cons s c t hcut ih =>
    have hhead : BeginsMarker c (uncommented (lineQuote s c) t) → BeginsMarker c t :=
      Or.imp (And.imp_right (head?_of_uncommented (by decide)))
        (And.imp_right (head?_of_uncommented (by decide)))
    rw [uncommented_cons hcut]
    rcases ih with h | h
    · exact .inl (by rw [h])
    · right
      have := markers_cons_le hhead
      rw [markers, markers]
      omega

theorem withoutBlocks_eq_or_markers_lt (t : Text) :
    withoutBlocks t = t ∨ markers (withoutBlocks t) < markers t := by
  induction t using withoutBlocks_induction with
  | nil => exact .inl (by rw [withoutBlocks])
  | closed more after hafter ih =>
    right
    have hleft := markers_le_of_eq_or_lt ih
    have hbehind := markers_le_of_suffix (suffix_of_behindBlock? hafter)
    have htail := le_markers_cons '*' more
    have hspace : ¬BeginsMarker ' ' (withoutBlocks after) := by simp [BeginsMarker]
    rw [withoutBlocks_closed hafter, markers, if_neg hspace, markers, if_pos (.inr ⟨rfl, rfl⟩)]
    omega
  | cons c rest hopen ih =>
    have hhead : BeginsMarker c (withoutBlocks rest) → BeginsMarker c rest :=
      Or.imp (And.imp_right (head?_withoutBlocks (by decide) (by decide) rest).mp)
        (And.imp_right (head?_withoutBlocks (by decide) (by decide) rest).mp)
    rw [withoutBlocks_cons hopen]
    rcases ih with h | h
    · exact .inl (by rw [h])
    · right
      have := markers_cons_le hhead
      rw [markers, markers]
      omega

/-- Comment removal takes a marker away from every text that it changes. -/
theorem withoutComments_eq_of_markers_le {t : Text} (h : markers t ≤ markers (withoutComments t)) :
    withoutComments t = t := by
  rw [withoutComments_eq_uncommented] at h ⊢
  rcases uncommented_eq_or_markers_lt none (withoutBlocks t) with hsecond | hsecond
  · rcases withoutBlocks_eq_or_markers_lt t with hfirst | hfirst
    · rw [hsecond, hfirst]
    · rw [hsecond] at h
      omega
  · rcases withoutBlocks_eq_or_markers_lt t with hfirst | hfirst
    · rw [hfirst] at h hsecond
      omega
    · omega

end DdlAtlas.Sql
