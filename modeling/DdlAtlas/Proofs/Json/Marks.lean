import DdlAtlas.Proofs.Json.Line
import DdlAtlas.Proofs.Text.Blank
import DdlAtlas.Proofs.Text.LineBuffer

/-!
# Ends of lines in data values

A value is meant to stand on one line. Of the characters that end a line, all but three have to be escaped
between quotes. These three, the line marks beyond ASCII, stand there as they are and cut the text in two.
-/

namespace DdlAtlas.Json

open Text

def isLineMark (c : Char) : Bool :=
  c == '\u0085' || c == '\u2028' || c == '\u2029'

def isMarked (t : Text) : Bool :=
  t.any isLineMark

theorem endsLine_of_isLineMark {c : Char} (h : isLineMark c = true) (rest : Text) : EndsLine [c] rest := by
  simp only [isLineMark, Bool.or_eq_true, beq_iff_eq] at h
  rcases h with (rfl | rfl) | rfl <;> exact .inr ⟨_, rfl, by decide, fun hr => absurd hr (by decide)⟩

theorem not_needsEscape_of_isLineMark {c : Char} (h : isLineMark c = true) : ¬NeedsEscape c := by
  simp only [isLineMark, Bool.or_eq_true, beq_iff_eq] at h
  rcases h with (rfl | rfl) | rfl <;> decide

theorem isLineMark_of_isLineEnd {c : Char} (h : ¬NeedsEscape c) (hend : isLineEnd c = true) :
    isLineMark c = true := by
  have hcontrol : ∀ d : Char, d.val < 32 → ¬c ≤ d := by
    intro d hd hle
    exact h (.inr (.inr (UInt32.lt_of_le_of_lt hle hd)))
  simp only [isLineEnd, Bool.or_eq_true, Bool.and_eq_true, decide_eq_true_eq, beq_iff_eq] at hend
  simp only [isLineMark, Bool.or_eq_true, beq_iff_eq]
  rcases hend with (((⟨-, hle⟩ | ⟨-, hle⟩) | rfl) | rfl) | rfl
  · exact absurd hle (hcontrol _ (by decide))
  · exact absurd hle (hcontrol _ (by decide))
  · exact .inl (.inl rfl)
  · exact .inl (.inr rfl)
  · exact .inr rfl

theorem not_isLineEnd_of_printable {c : Char} (hlow : 32 ≤ c.toNat) (hhigh : c.toNat < 128) :
    isLineEnd c = false := by
  have hcodes : ((List.range' 32 96).all fun n => !isLineEnd (Char.ofNat n)) = true := by decide
  have hmem : c.toNat ∈ List.range' 32 96 := List.mem_range'_1.mpr ⟨hlow, by omega⟩
  simpa using Text.all_of_codes (P := fun c => !isLineEnd c) hcodes hmem

theorem not_isLineEnd_of_hexDigit? {c : Char} {n : Nat} (h : hexDigit? c = some n) :
    isLineEnd c = false := by
  have mono : ∀ a b : Char, a ≤ b → a.toNat ≤ b.toNat := fun a b hab => hab
  have hrange : '0' ≤ c ∧ c ≤ '9' ∨ 'a' ≤ c ∧ c ≤ 'f' ∨ 'A' ≤ c ∧ c ≤ 'F' := by
    unfold hexDigit? at h
    split at h
    · exact .inl ‹_›
    · split at h
      · exact .inr (.inl ‹_›)
      · split at h
        · exact .inr (.inr ‹_›)
        · simp at h
  rcases hrange with ⟨hlow, hhigh⟩ | ⟨hlow, hhigh⟩ | ⟨hlow, hhigh⟩
  all_goals
    have hlow := mono _ _ hlow
    have hhigh := mono _ _ hhigh
    simp only [Char.reduceToNat] at hlow hhigh
    exact not_isLineEnd_of_printable (by omega) (by omega)

theorem oneLine_append {s t : Text} : OneLine (s ++ t) ↔ OneLine s ∧ OneLine t :=
  List.forall_mem_append

theorem oneLine_of_escapesChar {c : Char} {e : Text} (h : EscapesChar c e) (hc : isLineMark c = false) :
    OneLine e := by
  have hslash : isLineEnd '\\' = false := by decide
  cases h with
  | raw hraw =>
    refine List.forall_mem_singleton.mpr (Bool.eq_false_iff.mpr fun hend => ?_)
    rw [isLineMark_of_isLineEnd hraw hend] at hc
    exact absurd hc (by decide)
  | short hneeds he =>
    refine List.forall_mem_cons.mpr ⟨hslash, List.forall_mem_singleton.mpr ?_⟩
    unfold shortEscape? at he
    split at he
    all_goals first
      | decide
      | simp at he
  | unit hneeds hunit =>
    simp only [hexUnit?] at hunit
    split at hunit
    · rename_i ha hb hd he
      simp only [OneLine, List.forall_mem_cons]
      exact ⟨hslash, by decide, not_isLineEnd_of_hexDigit? ha, not_isLineEnd_of_hexDigit? hb,
        not_isLineEnd_of_hexDigit? hd, not_isLineEnd_of_hexDigit? he, by simp⟩
    · simp at hunit

theorem oneLine_of_escapes {t s : Text} (h : Escapes t s) (ht : isMarked t = false) : OneLine s := by
  induction h with
  | nil => simp [OneLine]
  | cons hc hs ih =>
    obtain ⟨hmark, hrest⟩ := Bool.or_eq_false_iff.mp (by simpa only [isMarked, List.any_cons] using ht)
    exact oneLine_append.mpr ⟨oneLine_of_escapesChar hc hmark, ih hrest⟩

theorem cut_at_mark {t s : Text} (h : Escapes t s) (ht : isMarked t = true) :
    ∃ t₁ s₁ m t₂ s₂, Escapes t₁ s₁ ∧ OneLine s₁ ∧ isLineMark m = true ∧ Escapes t₂ s₂ ∧
      s = s₁ ++ m :: s₂ := by
  induction h with
  | nil => simp [isMarked] at ht
  | @cons c e t s hc hs ih =>
    cases hmark : isLineMark c with
    | true =>
      cases hc with
      | raw _ => exact ⟨[], [], c, t, s, .nil, by simp [OneLine], hmark, hs, rfl⟩
      | short hneeds => exact absurd hneeds (not_needsEscape_of_isLineMark hmark)
      | unit hneeds => exact absurd hneeds (not_needsEscape_of_isLineMark hmark)
    | false =>
      have hrest : isMarked t = true := by simpa [isMarked, hmark] using ht
      obtain ⟨t₁, s₁, m, t₂, s₂, h₁, hone, hm, h₂, rfl⟩ := ih hrest
      exact ⟨c :: t₁, e ++ s₁, m, t₂, s₂, .cons hc h₁,
        oneLine_append.mpr ⟨oneLine_of_escapesChar hc hmark, hone⟩, hm, h₂, by simp⟩

theorem oneLine_of_laid {parts : List Text} {s : Text} (h : Laid parts s) (hparts : ∀ p ∈ parts, OneLine p) :
    OneLine s :=
  h.forall (by decide) (by decide) hparts

end DdlAtlas.Json
