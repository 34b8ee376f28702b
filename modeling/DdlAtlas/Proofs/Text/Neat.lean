import DdlAtlas.Proofs.Text.Blank
import DdlAtlas.Proofs.Text.Words
import Mathlib.Data.List.Infix

/-!
# Texts with single spaces

A tidy text has no blanks but single spaces, and a neat one neither begins nor ends with one. Neat texts
stay neat when they are put together, with or without a space between them, and collapsing the blanks of
a neat text leaves it as it is.
-/

namespace DdlAtlas.Text

/-- No blank but the plain space, and no two of them side by side. -/
def Tidy (t : Text) : Prop :=
  (∀ c ∈ t, isBlank c = true → c = ' ') ∧ ¬[' ', ' '] <:+: t

instance (t : Text) : Decidable (Tidy t) :=
  have := List.decidableBAll (fun c => isBlank c = true → c = ' ') t
  inferInstanceAs (Decidable (_ ∧ _))

structure Neat (t : Text) : Prop where
  tidy : Tidy t
  ne_nil : t ≠ []
  front : ∀ c ∈ t.head?, isBlank c = false
  back : ∀ c ∈ t.getLast?, isBlank c = false

theorem Tidy.append {s t : Text} (hs : Tidy s) (ht : Tidy t)
    (h : (∀ c ∈ s.getLast?, isBlank c = false) ∨ ∀ c ∈ t.head?, isBlank c = false) :
    Tidy (s ++ t) := by
  refine ⟨fun c hc hb => ?_, fun hw => ?_⟩
  · rcases List.mem_append.mp hc with hc | hc
    · exact hs.1 c hc hb
    · exact ht.1 c hc hb
  · have hspace : isBlank ' ' = true := by decide
    rcases List.infix_append_iff_ne_nil.mp hw with hw | hw | ⟨u, v, hu, hv, huv, hus, hvt⟩
    · exact hs.2 hw
    · exact ht.2 hw
    · obtain ⟨x, u, rfl⟩ := List.exists_cons_of_ne_nil hu
      obtain ⟨y, v, rfl⟩ := List.exists_cons_of_ne_nil hv
      have hlength := congrArg List.length huv
      simp only [List.length_append, List.length_cons, List.length_nil] at hlength
      obtain rfl : u = [] := List.eq_nil_of_length_eq_zero (by omega)
      obtain rfl : v = [] := List.eq_nil_of_length_eq_zero (by omega)
      obtain ⟨rfl, rfl⟩ : x = ' ' ∧ y = ' ' := by simpa [eq_comm] using huv
      rcases h with hlast | hfirst
      · obtain ⟨w, rfl⟩ := hus
        have := hlast ' ' (by simp)
        rw [hspace] at this
        exact absurd this (by simp)
      · obtain ⟨w, rfl⟩ := hvt
        have := hfirst ' ' (by simp)
        rw [hspace] at this
        exact absurd this (by simp)

theorem tidy_of_unbroken {t : Text} (h : Unbroken t) : Tidy t := by
  refine ⟨fun c hc hb => ?_, fun hw => ?_⟩
  · rw [h c hc] at hb
    exact absurd hb (by simp)
  · have := h ' ' (hw.subset List.mem_cons_self)
    exact absurd this (by decide)

theorem neat_of_unbroken {t : Text} (hne : t ≠ []) (h : Unbroken t) : Neat t where
  tidy := tidy_of_unbroken h
  ne_nil := hne
  front := fun c hc => h c (List.mem_of_mem_head? hc)
  back := fun c hc => h c (List.mem_of_mem_getLast? hc)

theorem Neat.append {s t : Text} (hs : Neat s) (ht : Neat t) : Neat (s ++ t) where
  tidy := hs.tidy.append ht.tidy (.inl hs.back)
  ne_nil := by simp [hs.ne_nil]
  front := by
    rw [List.head?_append_of_ne_nil s hs.ne_nil]
    exact hs.front
  back := by
    rw [List.getLast?_append_of_ne_nil s ht.ne_nil]
    exact ht.back

theorem Neat.append_space {s t : Text} (hs : Neat s) (ht : Neat t) : Neat (s ++ ' ' :: t) where
  tidy := by
    have hspace : Tidy [' '] := by decide
    exact hs.tidy.append (hspace.append ht.tidy (.inr ht.front)) (.inl hs.back)
  ne_nil := by simp
  front := by
    rw [List.head?_append_of_ne_nil s hs.ne_nil]
    exact hs.front
  back := by
    have : s ++ ' ' :: t = (s ++ [' ']) ++ t := by simp
    rw [this, List.getLast?_append_of_ne_nil _ ht.ne_nil]
    exact ht.back

theorem Tidy.neat_between {t : Text} (h : Tidy t) {x y : Char} (hx : isBlank x = false)
    (hy : isBlank y = false) : Neat (x :: (t ++ [y])) where
  tidy := by
    have hleft : Tidy [x] := tidy_of_unbroken (by simpa [Unbroken] using hx)
    have hright : Tidy [y] := tidy_of_unbroken (by simpa [Unbroken] using hy)
    have hinner : Tidy (t ++ [y]) := h.append hright (.inr (by simpa using hy))
    exact hleft.append hinner (.inl (by simpa using hx))
  ne_nil := by simp
  front := by simpa using hx
  back := by
    rw [← List.cons_append, List.getLast?_append_of_ne_nil _ (by simp)]
    simpa using hy

theorem Neat.of_append_space {w s : Text} (h : Neat (w ++ ' ' :: s)) : Neat s := by
  have hsuffix : s <:+ w ++ ' ' :: s := (List.suffix_cons _ _).trans (List.suffix_append _ _)
  have hne : s ≠ [] := by
    rintro rfl
    exact absurd (h.back ' ' (by simp)) (by decide)
  refine ⟨⟨fun c hc => h.tidy.1 c (hsuffix.subset hc), fun hw => h.tidy.2 (hw.trans hsuffix.isInfix)⟩, hne,
    fun c hc => ?_, fun c hc => h.back c ?_⟩
  · cases hblank : isBlank c with
    | false => rfl
    | true =>
      obtain ⟨more, rfl⟩ := List.head?_eq_some_iff.mp (Option.mem_def.mp hc)
      obtain rfl : c = ' ' := h.tidy.1 c (by simp) hblank
      exact absurd ⟨w, more, by simp⟩ h.tidy.2
  · rw [List.getLast?_append_of_ne_nil w (by simp), List.getLast?_cons_of_ne_nil hne]
    exact hc

theorem Neat.cases_words {t : Text} (h : Neat t) :
    Unbroken t ∨ ∃ w s, t = w ++ ' ' :: s ∧ w ≠ [] ∧ Unbroken w ∧ Neat s := by
  have hsplit := List.takeWhile_append_dropWhile (p := fun c => !isBlank c) (l := t)
  have hword : Unbroken (t.takeWhile fun c => !isBlank c) := fun c hc => by
    simpa using List.all_eq_true.mp (List.all_takeWhile) c hc
  cases hrest : t.dropWhile (fun c => !isBlank c) with
  | nil =>
    rw [hrest, List.append_nil] at hsplit
    exact .inl (hsplit ▸ hword)
  | cons b s =>
    rw [hrest] at hsplit
    have hb : isBlank b = true := by
      have hnot := List.head?_dropWhile_not (fun c => !isBlank c) t
      rw [hrest] at hnot
      simpa using hnot
    obtain rfl : b = ' ' := h.tidy.1 b (by rw [← hsplit]; simp) hb
    generalize t.takeWhile (fun c => !isBlank c) = w at hsplit hword
    subst hsplit
    refine .inr ⟨w, s, rfl, ?_, hword, h.of_append_space⟩
    rintro rfl
    exact absurd (h.front ' ' rfl) (by decide)

theorem collapse_eq_self {t : Text} (h : Neat t) : collapse t = t := by
  induction hn : t.length using Nat.strong_induction_on generalizing t with
  | _ n ih =>
    rcases h.cases_words with hword | ⟨w, s, rfl, hne, hword, hs⟩
    · rw [collapse, words_eq_self h.ne_nil hword]
      rfl
    · have hrest := ih s.length (by rw [← hn]; simp; omega) hs rfl
      obtain ⟨x, more, rfl⟩ := List.exists_cons_of_ne_nil hs.ne_nil
      have hwords := words_ne_nil (hs.front x rfl) more
      obtain ⟨v, vs, hv⟩ := List.exists_cons_of_ne_nil hwords
      rw [collapse, hv] at hrest
      rw [collapse, words_append_blank (by decide), words_eq_self hne hword, hv,
        List.singleton_append, join_cons_cons, hrest]
      simp

end DdlAtlas.Text
