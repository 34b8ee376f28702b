import DdlAtlas.Proofs.Text.Mention
import DdlAtlas.Text.Letter

/-!
# Changes of case

A word that is read without regard to case is itself in capitals again, as long as it holds no dotted i and no
Kelvin sign: these are read as i and k and are capitals of their own. Lower-casing turns letters into letters. The
characters below the letters, which are the controls, the blank, the digits and most of the marks, stay where they
are in a text, and no new ones come in.
-/

namespace DdlAtlas.Text

def BelowLetters (x : Char) : Prop :=
  0 < x.toNat ∧ x.toNat < 65

instance (x : Char) : Decidable (BelowLetters x) :=
  inferInstanceAs (Decidable (_ ∧ _))

theorem toNat_of_ofNat {n : Nat} {c : Char} (h : Char.ofNat n = c) : c.toNat = n ∨ c.toNat = 0 := by
  subst h
  by_cases hn : n.isValidChar
  · left
    rw [Char.ofNat, dif_pos hn]
    rfl
  · right
    rw [Char.ofNat, dif_neg hn]
    rfl

theorem toNat_of_sameLetter {p x : Char} (hp : 65 ≤ p.toNat ∧ p.toNat ≤ 90) (h : sameLetter p x = true) :
    x.toNat ∈ List.range' 0 128 ++ [304, 305, 383, 8490] := by
  have hcodes : (List.range' 65 26).all (fun n => decide ((Char.ofNat n).toLower.toNat < 128)) = true := by decide
  have hcode : p.toNat ∈ List.range' 65 26 := List.mem_range'_1.mpr (by omega)
  have hsmall := of_decide_eq_true (all_of_codes (P := fun c => decide (c.toLower.toNat < 128)) hcodes hcode)
  simp only [sameLetter, Bool.or_eq_true, beq_iff_eq] at h
  rcases h with h | h
  · refine List.mem_append_left _ (List.mem_range'_1.mpr ⟨Nat.zero_le _, ?_⟩)
    by_cases hx : x.toLower = x
    · rw [← hx, h]
      omega
    · have := toNat_of_toLower_ne hx
      omega
  · refine List.mem_append_right _ ?_
    split at h
    · rcases (Bool.or_eq_true _ _).mp h with h | h
      all_goals
        rw [beq_iff_eq.mp h]
        decide
    · rw [beq_iff_eq.mp h]
      decide
    · rw [beq_iff_eq.mp h]
      decide
    · exact absurd h (by simp)

/-- Written as a capital, a letter read without regard to case is the letter it was read as, except for the
dotted i and the Kelvin sign, which are capitals already. -/
theorem capital_of_sameLetter {p x : Char} (hp : 65 ≤ p.toNat ∧ p.toNat ≤ 90) (h : sameLetter p x = true) :
    capital x = [p] ∨ (p = 'I' ∧ x = '\u0130') ∨ (p = 'K' ∧ x = '\u212a') := by
  have hcodes : (List.range' 65 26).all (fun m => (List.range' 0 128 ++ [304, 305, 383, 8490]).all fun n =>
      !sameLetter (Char.ofNat m) (Char.ofNat n) || (capital (Char.ofNat n) == [Char.ofNat m] ||
        (Char.ofNat m == 'I' && Char.ofNat n == '\u0130' || Char.ofNat m == 'K' && Char.ofNat n == '\u212a'))) =
      true := by
    decide +kernel
  have hletter := all_of_codes (P := fun p => (List.range' 0 128 ++ [304, 305, 383, 8490]).all fun n =>
    !sameLetter p (Char.ofNat n) || (capital (Char.ofNat n) == [p] ||
      (p == 'I' && Char.ofNat n == '\u0130' || p == 'K' && Char.ofNat n == '\u212a'))) hcodes
    (List.mem_range'_1.mpr (by omega) : p.toNat ∈ List.range' 65 26)
  have hpair := all_of_codes (P := fun x => !sameLetter p x || (capital x == [p] ||
    (p == 'I' && x == '\u0130' || p == 'K' && x == '\u212a'))) hletter (toNat_of_sameLetter hp h)
  simpa [h] using hpair

section Words

variable {w s : Text} (hw : w.all (fun p => 65 ≤ p.toNat && p.toNat ≤ 90) = true) (h : SameLetters w s)
include hw h

theorem mem_of_sameLetters : ('\u0130' ∈ s → 'I' ∈ w) ∧ ('\u212a' ∈ s → 'K' ∈ w) := by
  have hcodes : (List.range' 65 26).all (fun n => (!sameLetter (Char.ofNat n) '\u0130' || Char.ofNat n == 'I') &&
      (!sameLetter (Char.ofNat n) '\u212a' || Char.ofNat n == 'K')) = true := by
    decide +kernel
  have hletter : ∀ p ∈ w, (sameLetter p '\u0130' = true → p = 'I') ∧
      (sameLetter p '\u212a' = true → p = 'K') := by
    intro p hp
    have hrange := List.all_eq_true.mp hw p hp
    rw [Bool.and_eq_true, decide_eq_true_iff, decide_eq_true_iff] at hrange
    have hboth := all_of_codes (P := fun p => (!sameLetter p '\u0130' || p == 'I') &&
      (!sameLetter p '\u212a' || p == 'K')) hcodes (List.mem_range'_1.mpr (by omega) : p.toNat ∈ List.range' 65 26)
    rw [Bool.and_eq_true] at hboth
    exact ⟨fun h => by simpa [h] using hboth.1, fun h => by simpa [h] using hboth.2⟩
  constructor
  · intro hs
    obtain ⟨p, hp, hsame⟩ := exists_of_mem_forall₂ h hs
    rwa [← (hletter p hp).1 hsame]
  · intro hs
    obtain ⟨p, hp, hsame⟩ := exists_of_mem_forall₂ h hs
    rwa [← (hletter p hp).2 hsame]

theorem capitals_of_sameLetters (hs : '\u0130' ∉ s ∧ '\u212a' ∉ s) : capitals s = w := by
  induction h with
  | nil => rfl
  | @cons p x w s hp _ ih =>
    rw [List.all_cons, Bool.and_eq_true, Bool.and_eq_true, decide_eq_true_iff, decide_eq_true_iff] at hw
    simp only [List.mem_cons, not_or] at hs
    have hx : capital x = [p] := by
      rcases capital_of_sameLetter hw.1 hp with hx | ⟨-, rfl⟩ | ⟨-, rfl⟩
      · exact hx
      · exact absurd rfl hs.1.1
      · exact absurd rfl hs.2.1
    have hrest := ih hw.2 ⟨hs.1.2, hs.2.2⟩
    rw [capitals] at hrest ⊢
    rw [List.flatMap_cons, hx, hrest]
    rfl

end Words

theorem lower_ne_nil {t : Text} (h : t ≠ []) : lower t ≠ [] := by
  obtain ⟨c, rest, rfl⟩ := List.exists_cons_of_ne_nil h
  have hone : lowerChar c ≠ [] := by
    unfold lowerChar
    split
    · simp
    · split <;> simp
  rw [lower, lowerAfter]
  split
  · simp
  · exact List.append_ne_nil_of_left_ne_nil hone _

variable {x : Char} (hx : BelowLetters x)
include hx

theorem ne_of_small? {n : Nat} {r : LowerRun} {c : Char} (hr : 64 < (r.first : Int) + r.shift)
    (h : LowerRun.small? n r = some c) : c ≠ x := by
  rintro rfl
  obtain ⟨hzero, hbelow⟩ := hx
  unfold LowerRun.small? at h
  split at h
  · rename_i hn
    rcases toNat_of_ofNat (Option.some.inj h) with hnat | hnat
    · omega
    · omega
  · simp at h

theorem ne_of_le_toNat {c : Char} (h : 65 ≤ c.toNat) : c ≠ x := by
  rintro rfl
  exact absurd hx.2 (Nat.not_lt.mpr h)

theorem toLower_eq_iff {c : Char} : c.toLower = x ↔ c = x := by
  by_cases h : c.toLower = c
  · rw [h]
  · have hcodes : (List.range' 65 26).all (fun n =>
        65 ≤ (Char.ofNat n).toLower.toNat && 65 ≤ (Char.ofNat n).toNat) = true := by decide
    have hnat : c.toNat ∈ List.range' 65 26 := by
      have := toNat_of_toLower_ne h
      exact List.mem_range'_1.mpr (by omega)
    have hboth := all_of_codes (P := fun d => 65 ≤ d.toLower.toNat && 65 ≤ d.toNat) hcodes hnat
    simp only [Bool.and_eq_true, decide_eq_true_eq] at hboth
    exact iff_of_false (ne_of_le_toNat hx hboth.1) (ne_of_le_toNat hx hboth.2)

theorem count_lowerChar (c : Char) : (lowerChar c).count x = [c].count x := by
  unfold lowerChar
  split
  · simp [List.count_singleton, toLower_eq_iff hx]
  · rename_i hc
    have hother : c ≠ x := by
      rintro rfl
      refine hc (UInt32.lt_iff_toNat_lt.mpr ?_)
      rw [Char.toNat_val]
      exact Nat.lt_trans hx.2 (by decide)
    split
    · rename_i hi
      have hi' : 'i' ≠ x := ne_of_le_toNat hx (by decide)
      have hdot : '\u0307' ≠ x := ne_of_le_toNat hx (by decide)
      simp [hi', hdot, hother]
    · have hruns : lowerRuns.toList.all (fun r => decide (64 < (r.first : Int) + r.shift)) = true := by
        decide +kernel
      cases hs : lowerRuns.findSome? (LowerRun.small? c.toNat) with
      | none => rfl
      | some d =>
        obtain ⟨r, hr, hd⟩ := Array.exists_of_findSome?_eq_some hs
        have hrun := of_decide_eq_true (List.all_eq_true.mp hruns r hr.val)
        rw [Option.getD_some, List.count_singleton, List.count_singleton]
        simp [ne_of_small? hx hrun hd, hother]

theorem count_lower (t : Text) : (lower t).count x = t.count x := by
  unfold lower
  generalize ([] : Text) = before
  induction t generalizing before with
  | nil => rfl
  | cons c rest ih =>
    rw [lowerAfter, List.count_append, ih, ← List.singleton_append (l := rest), List.count_append]
    congr 1
    split
    · rename_i hc
      have hclosing : '\u03c2' ≠ x := ne_of_le_toNat hx (by decide)
      have hsigma : '\u03a3' ≠ x := ne_of_le_toNat hx (by decide)
      simp [hc.1, hclosing, hsigma]
    · exact count_lowerChar hx c

end DdlAtlas.Text
