import DdlAtlas.Proofs.Text.Neat
import DdlAtlas.Proofs.Text.Spelled

/-!
# Collapsing the blanks

Collapsed, a text is made of its words with single spaces between them. The characters that are no blanks are
all still there, in their order, and none of them have come together that stood apart.
-/

namespace DdlAtlas.Text

theorem collapse_cons_blank {b : Char} (hb : isBlank b = true) (t : Text) : collapse (b :: t) = collapse t := by
  rw [collapse, collapse, words_cons_blank hb]

/-- What collapsing makes of the text behind a character that is no blank: the blanks in front of it are
one space, and nothing where no word follows them. -/
def collapsedBehind (rest : Text) : Text :=
  if wordEndsBefore rest = true ∧ words rest ≠ [] then ' ' :: collapse rest else collapse rest

theorem collapse_cons {c : Char} (hc : isBlank c = false) (rest : Text) :
    collapse (c :: rest) = c :: collapsedBehind rest := by
  cases hends : wordEndsBefore rest with
  | true =>
    have hwords : words (c :: rest) = [c] :: words rest := by simp [words, hc, hends]
    cases hrest : words rest with
    | nil => simp [collapse, collapsedBehind, hwords, hrest, join]
    | cons w ws => simp [collapse, collapsedBehind, hwords, hrest, hends, join]
  | false =>
    obtain ⟨d, more, rfl⟩ : ∃ d more, rest = d :: more := by
      cases rest with
      | nil => simp [wordEndsBefore] at hends
      | cons d more => exact ⟨d, more, rfl⟩
    have hd : isBlank d = false := hends
    obtain ⟨w, ws, hw⟩ := List.exists_cons_of_ne_nil (words_ne_nil hd more)
    rw [collapse, words_cons_of_cons hc hd, collapsedBehind, if_neg (by simp [hends]), collapse, hw,
      List.modifyHead_cons, join_cons_head]

theorem filter_collapse (t : Text) : (collapse t).filter (!isBlank ·) = t.filter (!isBlank ·) := by
  induction t with
  | nil => rfl
  | cons c rest ih =>
    cases hc : isBlank c with
    | true => rw [collapse_cons_blank hc, ih, List.filter_cons_of_neg (by simp [hc])]
    | false =>
      have hbehind : (collapsedBehind rest).filter (!isBlank ·) = rest.filter (!isBlank ·) := by
        unfold collapsedBehind
        split
        · rw [List.filter_cons_of_neg (by decide), ih]
        · exact ih
      rw [collapse_cons hc, List.filter_cons_of_pos (by simp [hc]), List.filter_cons_of_pos (by simp [hc]), hbehind]

theorem neat_join {ws : List Text} (hne : ws ≠ []) (h : ∀ w ∈ ws, w ≠ [] ∧ Unbroken w) :
    Neat (join [' '] ws) := by
  induction ws with
  | nil => exact absurd rfl hne
  | cons w ws ih =>
    obtain ⟨⟨hw, hword⟩, hws⟩ := List.forall_mem_cons.mp h
    cases ws with
    | nil => exact neat_of_unbroken hw hword
    | cons v vs =>
      rw [join_cons_cons, List.append_assoc]
      exact (neat_of_unbroken hw hword).append_space (ih (by simp) hws)

theorem neat_collapse {t : Text} (h : words t ≠ []) : Neat (collapse t) :=
  neat_join h fun _ hw => mem_words hw

theorem Neat.words_ne_nil {t : Text} (h : Neat t) : words t ≠ [] := by
  obtain ⟨c, rest, rfl⟩ := List.exists_cons_of_ne_nil h.ne_nil
  exact Text.words_ne_nil (h.front c rfl) rest

theorem Neat.collapse_append_space {s t : Text} (hs : Neat s) (ht : words t ≠ []) :
    collapse (s ++ ' ' :: t) = s ++ ' ' :: collapse t := by
  have hself := collapse_eq_self hs
  rw [collapse] at hself
  rw [collapse, words_append_blank (by decide), join_append _ hs.words_ne_nil ht, hself, collapse]
  simp

theorem head_of_collapsedBehind {y : Char} (hy : isBlank y = false) {rest more : Text}
    (h : collapsedBehind rest = y :: more) : ∃ more', rest = y :: more' := by
  cases rest with
  | nil => simp [collapsedBehind, collapse, words, join] at h
  | cons d rest =>
    cases hd : isBlank d with
    | false =>
      rw [collapsedBehind, if_neg (by simp [wordEndsBefore, hd]), collapse_cons hd] at h
      exact ⟨rest, by rw [(List.cons.inj h).1]⟩
    | true =>
      unfold collapsedBehind at h
      split at h
      · obtain ⟨rfl, -⟩ := List.cons.inj h
        exact absurd hy (by decide)
      · rename_i hnone
        have hwords : words (d :: rest) = [] := by simpa [wordEndsBefore, hd] using hnone
        simp [collapse, hwords, join] at h

theorem pair_of_collapse {x y : Char} (hx : isBlank x = false) (hy : isBlank y = false) {t : Text}
    (h : [x, y] <:+: collapse t) : [x, y] <:+: t := by
  have hspace : ' ' ∉ [x, y] := by
    have hblank : isBlank ' ' = true := by decide
    rintro hmem
    rcases List.mem_pair.mp hmem with rfl | rfl
    · simp [hblank] at hx
    · simp [hblank] at hy
  induction t with
  | nil => exact h
  | cons c rest ih =>
    cases hc : isBlank c with
    | true =>
      rw [collapse_cons_blank hc] at h
      exact (ih h).trans (List.suffix_cons c rest).isInfix
    | false =>
      rw [collapse_cons hc] at h
      rcases List.infix_cons_iff.mp h with hfront | hbehind
      · obtain ⟨rfl, more, hmore⟩ := List.cons_prefix_cons.mp hfront
        obtain ⟨more', rfl⟩ := head_of_collapsedBehind hy hmore.symm
        exact ⟨[], more', rfl⟩
      · have hcollapse : [x, y] <:+: collapse rest := by
          unfold collapsedBehind at hbehind
          split at hbehind
          · exact ((isInfix_append_cons (a := []) hspace).mp hbehind).resolve_left (by simp)
          · exact hbehind
        exact (ih hcollapse).trans (List.suffix_cons c rest).isInfix

theorem collapse_between {q : Char} (hq : isBlank q = false) (u : Text) :
    ∃ w, collapse (q :: (u ++ [q])) = q :: (w ++ [q]) ∧ w.filter (!isBlank ·) = u.filter (!isBlank ·) := by
  have hneat : Neat (collapse (q :: (u ++ [q]))) := neat_collapse (words_ne_nil hq _)
  have hfilter := filter_collapse (q :: (u ++ [q]))
  have hone : [q].filter (!isBlank ·) = [q] := by simp [hq]
  rw [collapse_cons hq] at hneat hfilter ⊢
  rw [List.filter_cons_of_pos (by simp [hq]), List.filter_cons_of_pos (by simp [hq]), List.filter_append,
    hone] at hfilter
  have hrest := (List.cons.inj hfilter).2
  generalize collapsedBehind (u ++ [q]) = r at hneat hrest
  rcases List.eq_nil_or_concat r with rfl | ⟨w, z, rfl⟩
  · simp at hrest
  · rw [List.concat_eq_append] at hneat hrest ⊢
    have hz : isBlank z = false := hneat.back z (by rw [← List.cons_append, List.getLast?_concat]; rfl)
    rw [List.filter_append, List.filter_cons_of_pos (by simp [hz]), List.filter_nil] at hrest
    obtain ⟨hinner, hlast⟩ := List.append_inj' hrest rfl
    exact ⟨w, by rw [List.singleton_inj.mp hlast], hinner⟩

end DdlAtlas.Text
