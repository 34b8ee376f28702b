import DdlAtlas.Text.Basic

/-!
# Words that a text does not spell

A word stands in a text in some letter case or in none. A text put together from parts with a separator
between them spells a word only where one of the parts does, as long as the separator is not a letter
of the word.
-/

namespace DdlAtlas.Text

theorem isInfix_append_cons {α : Type} {w a b : List α} {sep : α} (h : sep ∉ w) :
    w <:+: a ++ sep :: b ↔ w <:+: a ∨ w <:+: b := by
  constructor
  · intro hw
    rcases List.infix_append_iff.mp hw with ha | hb | ⟨u, v, rfl, hu, hv⟩
    · exact .inl ha
    · rcases List.infix_cons_iff.mp hb with hp | hb
      · cases w with
        | nil => exact .inl (List.nil_infix)
        | cons x w =>
          obtain ⟨rfl, -⟩ := List.cons_prefix_cons.mp hp
          exact absurd List.mem_cons_self h
      · exact .inr hb
    · cases v with
      | nil => exact .inl (by simpa using hu.isInfix)
      | cons x v =>
        obtain ⟨rfl, -⟩ := List.cons_prefix_cons.mp hv
        exact absurd (List.mem_append_right u List.mem_cons_self) h
  · rintro (ha | hb)
    · exact ha.trans (List.prefix_append a _).isInfix
    · exact hb.trans ((List.suffix_cons sep b).trans (List.suffix_append a _)).isInfix

theorem isPrefix_append_cons {α : Type} {w a b : List α} {sep : α} (h : sep ∉ w) :
    w <+: a ++ sep :: b ↔ w <+: a := by
  refine ⟨fun hw => ?_, fun ha => ha.trans (List.prefix_append a _)⟩
  have hstop : a ++ [sep] <+: a ++ sep :: b := ⟨b, by simp⟩
  rcases List.prefix_or_prefix_of_prefix hw hstop with hp | hp
  · rcases List.prefix_concat_iff.mp hp with rfl | ha
    · exact absurd (List.mem_append_right a List.mem_cons_self) h
    · exact ha
  · exact absurd (hp.subset (List.mem_append_right a List.mem_cons_self)) h

def folded (t : Text) : Text :=
  t.map Char.toLower

def Lacks (word t : Text) : Prop :=
  ¬folded word <:+: folded t

instance (word t : Text) : Decidable (Lacks word t) :=
  inferInstanceAs (Decidable (¬_))

theorem lacks_append_cons {word a b : Text} {sep : Char} (h : sep.toLower ∉ folded word) :
    Lacks word (a ++ sep :: b) ↔ Lacks word a ∧ Lacks word b := by
  have hsplit : folded (a ++ sep :: b) = folded a ++ sep.toLower :: folded b := by simp [folded]
  rw [Lacks, hsplit, isInfix_append_cons h, not_or]
  rfl

theorem lacks_of_not_mem {word t : Text} {x : Char} (hx : x ∈ folded word) (h : x ∉ folded t) :
    Lacks word t :=
  fun hw => h (hw.subset hx)

theorem Lacks.of_suffix {word t u : Text} (h : Lacks word t) (hu : u <:+ t) : Lacks word u :=
  fun hw => h (hw.trans (hu.map Char.toLower).isInfix)

theorem Lacks.not_begins {word t rest : Text} {sep : Char} (h : Lacks word t)
    (hsep : sep.toLower ∉ folded word) : ¬folded word <+: folded (t ++ sep :: rest) := by
  intro hw
  have hsplit : folded (t ++ sep :: rest) = folded t ++ sep.toLower :: folded rest := by
    simp [folded]
  rw [hsplit, isPrefix_append_cons hsep] at hw
  exact h hw.isInfix

theorem Lacks.missed {word line : Text} (h : Lacks word line) (hbreak : '\n' ∉ folded word)
    (rest : Text) {u : Text} (hne : u ≠ []) (hu : u <:+ line ++ ['\n']) :
    ¬folded word <+: folded (u ++ rest) := by
  rcases List.suffix_concat_iff.mp hu with rfl | ⟨v, rfl, hv⟩
  · exact absurd rfl hne
  · rw [List.append_assoc]
    exact (h.of_suffix hv).not_begins hbreak

end DdlAtlas.Text
