import DdlAtlas.Proofs.Text.Join
import DdlAtlas.Text.Blank

/-!
# Words and single spaces

The words of a text are not empty and hold no blank, and a blank separates the words before it from
the words behind it. Written with single spaces between them, words make a text in which every blank
is followed by a character that is none; such a text collapses to itself.
-/

namespace DdlAtlas.Text

def SingleSpaced (t : Text) : Prop :=
  ∀ b rest, b :: rest <:+ t → isBlank b = true → ∃ x more, rest = x :: more ∧ isBlank x = false

theorem singleSpaced_nil : SingleSpaced [] := by
  intro b rest hb
  simp at hb

theorem singleSpaced_cons {c : Char} {t : Text} (ht : SingleSpaced t)
    (hc : isBlank c = true → ∃ x more, t = x :: more ∧ isBlank x = false) :
    SingleSpaced (c :: t) := by
  intro b rest hb hblank
  rcases List.suffix_cons_iff.mp hb with heq | hs
  · obtain ⟨rfl, rfl⟩ := List.cons.inj heq
    exact hc hblank
  · exact ht b rest hs hblank

theorem words_cons_blank {b : Char} (hb : isBlank b = true) (t : Text) :
    words (b :: t) = words t := by
  simp [words, hb]

theorem words_cons_of_cons {c d : Char} {rest : Text} (hc : isBlank c = false)
    (hd : isBlank d = false) :
    words (c :: d :: rest) = (words (d :: rest)).modifyHead (c :: ·) := by
  rw [words]
  simp [hc, wordEndsBefore, hd]

theorem words_ne_nil {c : Char} (hc : isBlank c = false) (t : Text) : words (c :: t) ≠ [] := by
  induction t generalizing c with
  | nil => simp [words, hc, wordEndsBefore]
  | cons d rest ih =>
    cases hd : isBlank d with
    | true => simp [words, hc, wordEndsBefore, hd]
    | false =>
      rw [words_cons_of_cons hc hd]
      simpa using ih hd

theorem words_ne_nil_of_mem {c : Char} (hc : isBlank c = false) {t : Text} (h : c ∈ t) : words t ≠ [] := by
  induction t with
  | nil => exact absurd h List.not_mem_nil
  | cons d t ih =>
    cases hd : isBlank d with
    | false => exact words_ne_nil hd t
    | true =>
      rw [words_cons_blank hd]
      rcases List.mem_cons.mp h with rfl | h
      · rw [hc] at hd
        cases hd
      · exact ih h

theorem words_append_blank {b : Char} (hb : isBlank b = true) (s t : Text) :
    words (s ++ b :: t) = words s ++ words t := by
  induction s with
  | nil => simp [words_cons_blank hb, words]
  | cons c s ih =>
    cases hc : isBlank c with
    | true =>
      rw [List.cons_append, words_cons_blank hc, words_cons_blank hc, ih]
    | false =>
      cases s with
      | nil => simp [words, hc, wordEndsBefore, hb]
      | cons d more =>
        cases hd : isBlank d with
        | true =>
          rw [List.cons_append] at ih
          simp [words, hc, wordEndsBefore, hd] at ih ⊢
          exact ih
        | false =>
          rw [List.cons_append, List.cons_append, words_cons_of_cons hc hd,
            words_cons_of_cons hc hd, ← List.cons_append, ih]
          obtain ⟨w, ws, hw⟩ := List.exists_cons_of_ne_nil (words_ne_nil hd more)
          rw [hw]
          rfl

theorem words_eq_self {w : Text} (hne : w ≠ []) (h : ∀ c ∈ w, isBlank c = false) :
    words w = [w] := by
  induction w with
  | nil => exact absurd rfl hne
  | cons c rest ih =>
    have hc := h c List.mem_cons_self
    cases rest with
    | nil => simp [words, hc, wordEndsBefore]
    | cons d more =>
      rw [words_cons_of_cons hc (h d (by simp)),
        ih (by simp) (fun x hx => h x (List.mem_cons_of_mem c hx))]
      rfl

theorem mem_words {t w : Text} (h : w ∈ words t) : w ≠ [] ∧ ∀ c ∈ w, isBlank c = false := by
  induction t generalizing w with
  | nil => simp [words] at h
  | cons c rest ih =>
    rw [words] at h
    split at h
    · exact ih h
    · rename_i hc
      have hc : isBlank c = false := by simpa using hc
      split at h
      · rcases List.mem_cons.mp h with rfl | h
        · simpa using hc
        · exact ih h
      · cases hw : words rest with
        | nil => simp [hw] at h
        | cons first others =>
          rw [hw, List.modifyHead_cons] at h
          rcases List.mem_cons.mp h with rfl | h
          · have hfirst := ih (hw ▸ List.mem_cons_self)
            exact ⟨by simp, fun x hx => (List.mem_cons.mp hx).elim (fun he => he ▸ hc) (hfirst.2 x)⟩
          · exact ih (hw ▸ List.mem_cons_of_mem _ h)

theorem singleSpaced_word_append {w t : Text} (h : ∀ c ∈ w, isBlank c = false)
    (ht : SingleSpaced t) : SingleSpaced (w ++ t) := by
  induction w with
  | nil => exact ht
  | cons c rest ih =>
    refine singleSpaced_cons (ih fun x hx => h x (List.mem_cons_of_mem c hx)) fun hc => ?_
    simp [h c List.mem_cons_self] at hc

theorem singleSpaced_join {ws : List Text}
    (h : ∀ w ∈ ws, w ≠ [] ∧ ∀ c ∈ w, isBlank c = false) : SingleSpaced (join [' '] ws) := by
  induction ws with
  | nil => exact singleSpaced_nil
  | cons w ws ih =>
    have hw := (h w List.mem_cons_self).2
    have hws := ih fun x hx => h x (List.mem_cons_of_mem w hx)
    cases ws with
    | nil => simpa [join] using singleSpaced_word_append hw singleSpaced_nil
    | cons v vs =>
      obtain ⟨hv, hvb⟩ := h v (by simp)
      obtain ⟨x, more, rfl⟩ := List.exists_cons_of_ne_nil hv
      have hx : ∃ rest, join [' '] ((x :: more) :: vs) = x :: rest := by
        cases vs <;> exact ⟨_, rfl⟩
      obtain ⟨rest, hrest⟩ := hx
      rw [join_cons_cons, List.append_assoc]
      refine singleSpaced_word_append hw (singleSpaced_cons hws fun _ => ?_)
      exact ⟨x, rest, hrest, hvb x List.mem_cons_self⟩

theorem singleSpaced_collapse (t : Text) : SingleSpaced (collapse t) :=
  singleSpaced_join fun _ hw => mem_words hw

end DdlAtlas.Text
