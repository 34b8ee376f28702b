import DdlAtlas.Proofs.Text.Join
import DdlAtlas.Proofs.Text.Spelled
import DdlAtlas.Text.Letter

/-!
# Phrases of two words

A phrase of two words with a space between them stands in texts written with spaces between them where one
of the texts holds it, or where one text ends with its first word and the next one begins with its second.
-/

namespace DdlAtlas.Text

theorem behind?_eq_some {part t u : Text} : behind? part t = some u ↔ t = part ++ u := by
  induction part generalizing t with
  | nil => simp [behind?]
  | cons p part ih =>
    cases t with
    | nil => simp [behind?]
    | cons c t =>
      by_cases hpc : p = c
      · simp [behind?, hpc, ih]
      · simp [behind?, hpc, Ne.symm hpc]

theorem behind?_isSome {part t : Text} : (behind? part t).isSome = true ↔ part <+: t := by
  rw [Option.isSome_iff_exists]
  exact exists_congr fun u => behind?_eq_some.trans eq_comm

theorem hasPart_iff {part t : Text} : hasPart part t = true ↔ part <:+: t := by
  induction t with
  | nil => simp [hasPart, List.infix_nil]
  | cons c t ih =>
    rw [hasPart, Bool.or_eq_true, startsWith, behind?_isSome, ih, List.infix_cons_iff]

theorem startsWith_iff {part t : Text} : startsWith t part = true ↔ part <+: t :=
  behind?_isSome

theorem endsWith_iff {part t : Text} : endsWith t part = true ↔ part <:+ t := by
  rw [endsWith, startsWith, behind?_isSome, List.reverse_prefix]

theorem capitals_append (s t : Text) : capitals (s ++ t) = capitals s ++ capitals t :=
  List.flatMap_append

theorem capitals_spaced (ts : List Text) : capitals (spaced ts) = spaced (ts.map capitals) := by
  induction ts with
  | nil => rfl
  | cons t ts ih =>
    have hspace : capitals [' '] = [' '] := by decide
    have hshape : spaced (t :: ts) = [' '] ++ (t ++ spaced ts) := rfl
    rw [hshape, capitals_append, capitals_append, hspace, ih]
    rfl

theorem suffix_append_cons {w a b : Text} {sep : Char} (h : sep ∉ w) :
    w <:+ a ++ sep :: b ↔ w <:+ b := by
  rw [← List.reverse_prefix, List.reverse_append, List.reverse_cons, List.append_assoc,
    List.singleton_append, isPrefix_append_cons (by simpa using h), List.reverse_prefix]

theorem phrase_infix_append {u v a b : Text} (hu : ' ' ∉ u) (hv : ' ' ∉ v) :
    u ++ ' ' :: v <:+: a ++ ' ' :: b ↔
      u ++ ' ' :: v <:+: a ∨ u ++ ' ' :: v <:+: b ∨ (u <:+ a ∧ v <+: b) := by
  constructor
  · intro h
    rcases List.infix_append_iff.mp h with ha | hb | ⟨l, m, heq, hl, hm⟩
    · exact .inl ha
    · rcases List.infix_cons_iff.mp hb with hp | hb
      · cases u with
        | nil => exact .inr (.inr ⟨List.nil_suffix, (List.cons_prefix_cons.mp hp).2⟩)
        | cons x u =>
          obtain ⟨rfl, -⟩ := List.cons_prefix_cons.mp hp
          exact absurd List.mem_cons_self hu
      · exact .inr (.inl hb)
    · cases m with
      | nil => exact .inl (by simpa [heq] using hl.isInfix)
      | cons x m =>
        obtain ⟨rfl, hback⟩ := List.cons_prefix_cons.mp hm
        rcases List.append_eq_append_iff.mp heq with ⟨w, rfl, hw⟩ | ⟨w, rfl, hw⟩
        · cases w with
          | nil =>
            obtain rfl := (List.cons.inj hw).2
            exact .inr (.inr ⟨by simpa using hl, hback⟩)
          | cons y w =>
            obtain ⟨rfl, rfl⟩ := List.cons.inj hw
            exact absurd (List.mem_append_right w List.mem_cons_self) hv
        · cases w with
          | nil =>
            obtain rfl := (List.cons.inj hw).2
            exact .inr (.inr ⟨by simpa using hl, hback⟩)
          | cons y w =>
            obtain ⟨rfl, rfl⟩ := List.cons.inj hw
            exact absurd (List.mem_append_right l List.mem_cons_self) hu
  · rintro (ha | hb | ⟨⟨s, rfl⟩, ⟨t, rfl⟩⟩)
    · exact ha.trans (List.prefix_append a _).isInfix
    · exact hb.trans ((List.suffix_cons ' ' b).trans (List.suffix_append a _)).isInfix
    · exact ⟨s, t, by simp⟩

theorem phrase_infix_spaced {u v t : Text} {ts : List Text} (hu : ' ' ∉ u) (hv : ' ' ∉ v)
    (hcross : ∀ a ∈ t :: ts, ∀ b ∈ ts, ¬(u <:+ a ∧ v <+: b)) :
    u ++ ' ' :: v <:+: t ++ spaced ts ↔ ∃ a ∈ t :: ts, u ++ ' ' :: v <:+: a := by
  induction ts generalizing t with
  | nil => simp
  | cons s ts ih =>
    have hshape : t ++ spaced (s :: ts) = (t ++ ' ' :: s) ++ spaced ts := by simp
    have hrest := ih (t := t ++ ' ' :: s) fun a ha b hb => by
      rcases List.mem_cons.mp ha with rfl | ha
      · rw [suffix_append_cons hu]
        exact hcross s (by simp) b (by simp [hb])
      · exact hcross a (by simp [ha]) b (by simp [hb])
    have hfirst := hcross t List.mem_cons_self s List.mem_cons_self
    rw [hshape, hrest]
    simp only [List.mem_cons, exists_eq_or_imp, phrase_infix_append hu hv, hfirst, or_false, or_assoc]

theorem word_infix_spaced {w t : Text} {ts : List Text} (hw : ' ' ∉ w) :
    w <:+: t ++ spaced ts ↔ ∃ a ∈ t :: ts, w <:+: a := by
  induction ts generalizing t with
  | nil => simp
  | cons s ts ih =>
    have hshape : t ++ spaced (s :: ts) = (t ++ ' ' :: s) ++ spaced ts := by simp
    rw [hshape, ih]
    simp only [List.mem_cons, exists_eq_or_imp, isInfix_append_cons hw, or_assoc]

end DdlAtlas.Text
