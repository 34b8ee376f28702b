import DdlAtlas.Proofs.Text.Blank
import DdlAtlas.Text.Letter
import DdlAtlas.Text.Word
import Mathlib.Data.List.Forall2

/-!
# Words that a text mentions

A text mentions a word where it spells it, in whatever case, between characters that belong to no word.
A separator that belongs to no word keeps the mentions on its two sides apart.
-/

namespace DdlAtlas

theorem exists_of_mem_forall₂ {α β : Type} {R : α → β → Prop} {l : List α} {u : List β}
    (h : List.Forall₂ R l u) {b : β} (hb : b ∈ u) : ∃ a ∈ l, R a b := by
  induction h with
  | nil => exact absurd hb List.not_mem_nil
  | @cons a c l u hac _ ih =>
    rcases List.mem_cons.mp hb with rfl | hb
    · exact ⟨a, List.mem_cons_self, hac⟩
    · obtain ⟨a', ha', hR⟩ := ih hb
      exact ⟨a', List.mem_cons_of_mem a ha', hR⟩

namespace Text

def spells : Text → Text → Bool
  | [], t => !t.head?.any isWord
  | _ :: _, [] => false
  | p :: word, c :: t => sameLetter p c && spells word t

/-- The word stands somewhere in a text that follows the given character. -/
def mentions (word : Text) : Option Char → Text → Bool
  | _, [] => false
  | before, c :: t => (!before.any isWord && spells word (c :: t)) || mentions word (some c) t

def Parts (sep : Char) (word : Text) : Prop :=
  isWord sep = false ∧ word.all (fun p => !sameLetter p sep) = true

instance (sep : Char) (word : Text) : Decidable (Parts sep word) :=
  inferInstanceAs (Decidable (_ ∧ _))

theorem spells_append {sep : Char} {word : Text} (h : Parts sep word) (a b : Text) :
    spells word (a ++ sep :: b) = spells word a := by
  obtain ⟨hsep, hletters⟩ := h
  induction word generalizing a with
  | nil =>
    cases a with
    | nil => simp [spells, hsep]
    | cons x a => simp [spells]
  | cons p word ih =>
    rw [List.all_cons, Bool.and_eq_true] at hletters
    cases a with
    | nil =>
      have hp : sameLetter p sep = false := by simpa using hletters.1
      simp [spells, hp]
    | cons x a => simp [spells, ih a hletters.2]

theorem mentions_append {sep : Char} {word : Text} (h : Parts sep word) (hne : word ≠ [])
    (before : Option Char) (a b : Text) :
    mentions word before (a ++ sep :: b) =
      (mentions word before a || mentions word (some sep) b) := by
  induction a generalizing before with
  | nil =>
    have hspells : spells word (sep :: b) = false := by
      rw [← List.nil_append (sep :: b), spells_append h]
      obtain ⟨p, word, rfl⟩ := List.exists_cons_of_ne_nil hne
      rfl
    simp [mentions, hspells]
  | cons x a ih =>
    rw [List.cons_append, mentions, mentions, ih, ← List.cons_append, spells_append h, Bool.or_assoc]

theorem not_mentions_behind {word before u v : Text}
    (h : mentions word before.head? (u ++ v) = false) :
    mentions word (u.reverse ++ before).head? v = false := by
  induction u generalizing before with
  | nil => exact h
  | cons x u ih =>
    rw [List.cons_append, mentions, Bool.or_eq_false_iff] at h
    have hrest : mentions word (u.reverse ++ x :: before).head? v = false := ih h.2
    simpa using hrest

theorem not_spells_of_not_mentions {word t : Text} {before : Option Char}
    (h : mentions word before t = false) (hbefore : before.any isWord = false) (hne : word ≠ []) :
    spells word t = false := by
  cases t with
  | nil =>
    obtain ⟨p, word, rfl⟩ := List.exists_cons_of_ne_nil hne
    rfl
  | cons c t =>
    rw [mentions, hbefore, Bool.not_false, Bool.true_and, Bool.or_eq_false_iff] at h
    exact h.1

abbrev SameLetters (word s : Text) : Prop :=
  List.Forall₂ (fun p x => sameLetter p x = true) word s

theorem spells_of_sameLetters {word s rest : Text} (h : SameLetters word s)
    (hrest : rest.head?.any isWord = false) : spells word (s ++ rest) = true := by
  induction h with
  | nil => simp [spells, hrest]
  | cons hp _ ih => simp [spells, hp, ih]

theorem isWord_of_isBlank {c : Char} (h : isBlank c = true) : isWord c = false := by
  have hcodes : blankCodes.all (fun n => !isWord (Char.ofNat n)) = true := by decide +kernel
  have hword : (!isWord c) = true := all_of_codes (P := fun c => !isWord c) hcodes (mem_blankCodes h)
  simpa using hword

theorem not_blank_of_isWord {c : Char} (h : isWord c = true) : isBlank c = false := by
  cases hc : isBlank c with
  | false => rfl
  | true =>
    rw [isWord_of_isBlank hc] at h
    exact absurd h (by simp)

theorem toNat_of_toLower_ne {c : Char} (h : c.toLower ≠ c) : 65 ≤ c.toNat ∧ c.toNat ≤ 90 := by
  by_contra hrange
  refine h (dif_neg ?_)
  rintro ⟨hlow, hhigh⟩
  simp only [ge_iff_le, UInt32.le_iff_toNat_le, Char.toNat_val, Char.reduceToNat] at hlow hhigh
  exact hrange ⟨hlow, hhigh⟩

theorem isWord_of_sameLetter {p x : Char} (hp : isWord p.toLower = true)
    (h : sameLetter p x = true) : isWord x = true := by
  unfold sameLetter at h
  rcases (Bool.or_eq_true _ _).mp h with h | h
  · by_cases hx : x.toLower = x
    · rwa [← hx, beq_iff_eq.mp h]
    · have hcodes : (List.range' 65 26).all (fun n => isWord (Char.ofNat n)) = true := by decide
      have hnat := toNat_of_toLower_ne hx
      exact all_of_codes hcodes (List.mem_range'_1.mpr (by omega))
  · split at h
    · rcases (Bool.or_eq_true _ _).mp h with h | h
      · rw [beq_iff_eq.mp h]
        decide +kernel
      · rw [beq_iff_eq.mp h]
        decide +kernel
    · rw [beq_iff_eq.mp h]
      decide +kernel
    · rw [beq_iff_eq.mp h]
      decide +kernel
    · exact absurd h (by simp)

/-- Every letter belongs to a word, in every form. -/
def IsKeyword (word : Text) : Prop :=
  word ≠ [] ∧ word.all (fun p => isWord p.toLower) = true

instance (word : Text) : Decidable (IsKeyword word) :=
  inferInstanceAs (Decidable (_ ∧ _))

theorem IsKeyword.parts {word : Text} (h : IsKeyword word) {sep : Char} (hsep : isWord sep = false) :
    Parts sep word := by
  refine ⟨hsep, List.all_eq_true.mpr fun p hp => ?_⟩
  cases hletter : sameLetter p sep with
  | false => rfl
  | true =>
    rw [isWord_of_sameLetter (List.all_eq_true.mp h.2 p hp) hletter] at hsep
    exact absurd hsep (by simp)

theorem IsKeyword.isWord_of_sameLetters {word s : Text} (h : IsKeyword word)
    (hs : SameLetters word s) :
    s ≠ [] ∧ ∀ x ∈ s, isWord x = true := by
  obtain ⟨hne, hall⟩ := h
  refine ⟨?_, ?_⟩
  · rintro rfl
    exact hne (List.forall₂_nil_right_iff.mp hs)
  · clear hne
    induction hs with
    | nil => simp
    | cons hp _ ih =>
      rw [List.all_cons, Bool.and_eq_true] at hall
      intro x hx
      rcases List.mem_cons.mp hx with rfl | hx
      · exact isWord_of_sameLetter hall.1 hp
      · exact ih hall.2 x hx

theorem mentions_of_not_isWord {word : Text} {before : Option Char} (h : before.any isWord = false)
    (t : Text) : mentions word before t = mentions word none t := by
  cases t with
  | nil => rfl
  | cons c t => simp [mentions, h]

theorem IsKeyword.mentions_append {word : Text} (h : IsKeyword word) {sep : Char}
    (hsep : isWord sep = false) (a b : Text) :
    mentions word none (a ++ sep :: b) = (mentions word none a || mentions word none b) := by
  have hbefore : mentions word (some sep) b = mentions word none b :=
    mentions_of_not_isWord (by simpa using hsep) b
  rw [Text.mentions_append (h.parts hsep) h.1, hbefore]

end Text

end DdlAtlas
