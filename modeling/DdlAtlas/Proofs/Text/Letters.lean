import DdlAtlas.Proofs.Text.Mention
import DdlAtlas.Proofs.Text.Spelled

/-!
# Letters without regard to case

Every character is read as one letter. The dotted and the dotless i, the long s and the Kelvin sign are read as
i, s and k, and everything else as its small form. Two texts have the same letters just when they are read alike,
so that a text can begin with at most one of several words none of which begins another.
-/

namespace DdlAtlas.Text

def letterOf (c : Char) : Char :=
  if c = '\u0131' ∨ c = '\u0130' then 'i'
  else if c = '\u017f' then 's'
  else if c = '\u212a' then 'k'
  else c.toLower

def letters (t : Text) : Text :=
  t.map letterOf

def IsAscii (t : Text) : Prop :=
  ∀ c ∈ t, c.toNat < 128

instance (t : Text) : Decidable t.IsAscii :=
  List.decidableBAll _ t

def marked : List Char :=
  ['\u0131', '\u0130', '\u017f', '\u212a']

theorem sameLetter_iff_letterOf {p c : Char} (hp : p.toNat < 128) : sameLetter p c = true ↔ letterOf c = p.toLower := by
  by_cases hc : c ∈ marked
  · have hcodes : (List.range' 0 128).all (fun n => marked.all fun c =>
        sameLetter (Char.ofNat n) c == (letterOf c == (Char.ofNat n).toLower)) = true := by
      decide +kernel
    have hletter := all_of_codes (P := fun p => marked.all fun c => sameLetter p c == (letterOf c == p.toLower))
      hcodes (List.mem_range'_1.mpr (by omega) : p.toNat ∈ List.range' 0 128)
    rw [beq_iff_eq.mp (List.all_eq_true.mp hletter c hc), beq_iff_eq]
  · simp only [marked, List.mem_cons, List.not_mem_nil, or_false, not_or] at hc
    obtain ⟨hdotless, hdotted, hlong, hkelvin⟩ := hc
    have hread : letterOf c = c.toLower := by
      rw [letterOf, if_neg (by simp [hdotless, hdotted]), if_neg hlong, if_neg hkelvin]
    rw [hread, sameLetter]
    split <;> simp [hdotless, hdotted, hlong, hkelvin]

theorem sameLetters_iff {w s : Text} (hw : IsAscii w) : SameLetters w s ↔ letters s = folded w := by
  induction w generalizing s with
  | nil => simp [letters, folded]
  | cons p w ih =>
    have hrest := fun {s} => ih (s := s) fun c hc => hw c (List.mem_cons_of_mem p hc)
    cases s with
    | nil => simp [letters, folded]
    | cons c s =>
      have hcons : SameLetters (p :: w) (c :: s) ↔ sameLetter p c = true ∧ SameLetters w s := List.forall₂_cons
      rw [hcons, sameLetter_iff_letterOf (hw p List.mem_cons_self), hrest]
      simp [letters, folded]

theorem sameLetters_refl (w : Text) : SameLetters w w :=
  List.forall₂_same.mpr fun _ _ => by simp [sameLetter]

def Begins (word t : Text) : Prop :=
  ∃ s, SameLetters word s ∧ s <+: t

theorem begins_iff {w t : Text} (hw : IsAscii w) : Begins w t ↔ folded w <+: letters t := by
  constructor
  · rintro ⟨s, hs, rest, rfl⟩
    rw [letters, List.map_append, ← letters, (sameLetters_iff hw).mp hs]
    exact List.prefix_append _ _
  · intro h
    refine ⟨t.take w.length, (sameLetters_iff hw).mpr ?_, List.take_prefix _ _⟩
    have hlength : w.length = (folded w).length := (List.length_map _).symm
    rw [letters, List.map_take, ← letters, hlength]
    exact (List.prefix_iff_eq_take.mp h).symm

def Apart (w v : Text) : Prop :=
  ¬folded w <+: folded v ∧ ¬folded v <+: folded w

instance (w v : Text) : Decidable (Apart w v) :=
  inferInstanceAs (Decidable (_ ∧ _))

theorem Apart.not_begins {w v t : Text} (h : Apart w v) (hw : IsAscii w) (hv : IsAscii v) (hbegins : Begins w t) :
    ¬Begins v t := by
  intro hbegins'
  rcases List.prefix_or_prefix_of_prefix ((begins_iff hw).mp hbegins) ((begins_iff hv).mp hbegins') with hp | hp
  · exact h.1 hp
  · exact h.2 hp

end DdlAtlas.Text
