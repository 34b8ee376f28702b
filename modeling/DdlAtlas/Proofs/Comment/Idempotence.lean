import DdlAtlas.Proofs.Comment.Blocks
import DdlAtlas.Proofs.Comment.Lines
import DdlAtlas.Schema.Assembly

/-!
# A text without comments stays as it is

Each pass of comment removal leaves a text that it would not change again, and the second pass leaves
nothing for the first one to do: where it cuts, a line break follows, so that no two characters meet
that were apart before. Comments are thus removed once and for all, and the schema of a text and the
notes on it depend on the text without its comments only.
-/

namespace DdlAtlas.Sql

def Blockless (t : Text) : Prop :=
  ∀ c rest, c :: rest <:+ t → opensBlock c rest = false

theorem opensBlock_eq_false {c : Char} {rest : Text} (h : ¬(c = '/' ∧ rest.head? = some '*')) :
    opensBlock c rest = false := by
  rw [Bool.eq_false_iff]
  intro hopen
  obtain ⟨more, after, rfl, rfl, -⟩ := exists_of_opensBlock hopen
  exact h ⟨rfl, rfl⟩

theorem blockless_nil : Blockless [] := by
  intro c rest h
  simp at h

theorem blockless_cons {c : Char} {rest : Text} (hc : opensBlock c rest = false)
    (h : Blockless rest) : Blockless (c :: rest) := by
  intro d tail hd
  rcases List.suffix_cons_iff.mp hd with heq | hd
  · obtain ⟨rfl, rfl⟩ := List.cons.inj heq
    exact hc
  · exact h d tail hd

theorem blockless_of_absent {t : Text} (h : ¬['/', '*'] <:+: t) : Blockless t := by
  rintro c rest ⟨front, rfl⟩
  apply opensBlock_eq_false
  apply head?_ne_of_absent
  exact fun hw => h (hw.trans (List.suffix_append front (c :: rest)).isInfix)

theorem Blockless.of_suffix {t u : Text} (h : Blockless t) (hu : u <:+ t) : Blockless u :=
  fun c rest hc => h c rest (hc.trans hu)

theorem Blockless.withoutBlocks_eq {t : Text} (h : Blockless t) : withoutBlocks t = t := by
  induction t with
  | nil => rw [withoutBlocks]
  | cons c rest ih =>
    rw [withoutBlocks_cons (h c rest List.suffix_rfl), ih (h.of_suffix (List.suffix_cons c rest))]

theorem behindBlock?_of_suffix {t u : Text} (hu : u <:+ t) (h : behindBlock? t = none) :
    behindBlock? u = none := by
  induction t with
  | nil =>
    rw [List.suffix_nil.mp hu]
    exact h
  | cons c rest ih =>
    rcases List.suffix_cons_iff.mp hu with rfl | hu
    · exact h
    · exact ih hu (behindBlock?_cons_eq_none h)

theorem blockless_withoutBlocks (t : Text) : Blockless (withoutBlocks t) := by
  induction t using withoutBlocks_induction with
  | nil =>
    rw [withoutBlocks]
    exact blockless_nil
  | closed more after hafter ih =>
    rw [withoutBlocks_closed hafter]
    exact blockless_cons (by simp [opensBlock]) ih
  | cons c rest hopen ih =>
    rw [withoutBlocks_cons hopen]
    refine blockless_cons ?_ ih
    -- a star that comes out first was first before, and what is behind it is not closed
    by_cases hstar : c = '/' ∧ rest.head? = some '*'
    · obtain ⟨rfl, hd⟩ := hstar
      obtain ⟨more, rfl⟩ := List.head?_eq_some_iff.mp hd
      have hnone : behindBlock? more = none := by simpa [opensBlock] using hopen
      rw [withoutBlocks_cons_of_not (by simp), withoutBlocks_of_unclosed hnone]
      exact hopen
    · rw [← head?_withoutBlocks (by decide) (by decide)] at hstar
      exact opensBlock_eq_false hstar

theorem uncommented_induction {P : Option Char → Text → Prop} (nil : ∀ s, P s [])
    (hyphens : ∀ t, P none (fromBreak t) → P none ('-' :: '-' :: t))
    (cons : ∀ s c t, ¬(s = none ∧ c = '-' ∧ t.head? = some '-') → P (lineQuote s c) t → P s (c :: t))
    (s : Option Char) (t : Text) : P s t := by
  induction hn : t.length using Nat.strongRecOn generalizing s t with
  | ind n ih =>
    cases t with
    | nil => exact nil s
    | cons c rest =>
      by_cases h : s = none ∧ c = '-' ∧ rest.head? = some '-'
      · obtain ⟨rfl, rfl, hd⟩ := h
        obtain ⟨more, rfl⟩ := List.head?_eq_some_iff.mp hd
        have hlen : (fromBreak more).length ≤ more.length :=
          (List.dropWhile_suffix _).length_le
        apply hyphens
        exact ih _ (by simp at hn; omega) none (fromBreak more) rfl
      · apply cons s c rest h
        exact ih rest.length (by simp at hn; omega) _ rest rfl

theorem head?_of_uncommented {s : Option Char} {t : Text} {x : Char} (hx : x ≠ '\n')
    (h : (uncommented s t).head? = some x) : t.head? = some x := by
  cases t with
  | nil => simp at h
  | cons c rest =>
    by_cases hcut : s = none ∧ c = '-' ∧ rest.head? = some '-'
    · obtain ⟨rfl, rfl, hd⟩ := hcut
      obtain ⟨more, rfl⟩ := List.head?_eq_some_iff.mp hd
      rw [uncommented_hyphens] at h
      cases hb : fromBreak more with
      | nil => simp [hb] at h
      | cons d tail =>
        obtain rfl : d = '\n' := head?_fromBreak (by rw [hb, List.head?_cons])
        rw [hb, uncommented_newline, List.head?_cons, Option.some.injEq] at h
        exact absurd h.symm hx
    · rw [uncommented_cons hcut] at h
      exact h

theorem uncommented_idem (s : Option Char) (t : Text) :
    uncommented s (uncommented s t) = uncommented s t := by
  induction s, t using uncommented_induction with
  | nil s => rw [uncommented_nil, uncommented_nil]
  | hyphens t ih => rw [uncommented_hyphens, ih]
  | cons s c t hcut ih =>
    have hagain : ¬(s = none ∧ c = '-' ∧ (uncommented (lineQuote s c) t).head? = some '-') :=
      fun h => hcut ⟨h.1, h.2.1, head?_of_uncommented (by decide) h.2.2⟩
    rw [uncommented_cons hcut, uncommented_cons hagain, ih]

theorem uncommented_hyphens_ne (t : Text) : uncommented none ('-' :: '-' :: t) ≠ '-' :: '-' :: t := by
  rw [uncommented_hyphens]
  intro h
  apply head?_uncommented_fromBreak t
  rw [h, List.head?_cons]

theorem uncommented_append_cons_eq_self_iff {s : Option Char} {u rest : Text} {x : Char}
    (hx : x ≠ '-') :
    uncommented s (u ++ x :: rest) = u ++ x :: rest ↔
      uncommented s u = u ∧ uncommented (u.foldl lineQuote s) (x :: rest) = x :: rest := by
  induction u generalizing s with
  | nil => simp
  | cons c u ih =>
    have hhead : (u ++ x :: rest).head? = some '-' ↔ u.head? = some '-' := by
      cases u <;> simp [hx]
    by_cases hcut : s = none ∧ c = '-' ∧ u.head? = some '-'
    · obtain ⟨rfl, rfl, hd⟩ := hcut
      obtain ⟨more, rfl⟩ := List.head?_eq_some_iff.mp hd
      simp only [List.cons_append, uncommented_hyphens_ne, false_and]
    · rw [List.cons_append, uncommented_cons (by rwa [hhead]), uncommented_cons hcut,
        List.cons.injEq, List.cons.injEq, ih]
      simp

theorem behindBlock?_uncommented (s : Option Char) (t : Text) (h : behindBlock? t = none) :
    behindBlock? (uncommented s t) = none := by
  induction s, t using uncommented_induction with
  | nil s => rwa [uncommented_nil]
  | hyphens t ih =>
    rw [uncommented_hyphens]
    apply ih
    exact behindBlock?_of_suffix ((List.dropWhile_suffix _).trans ⟨['-', '-'], rfl⟩) h
  | cons s c t hcut ih =>
    rw [uncommented_cons hcut, behindBlock?, if_neg]
    · exact ih (behindBlock?_cons_eq_none h)
    · rintro ⟨rfl, hd⟩
      rw [behindBlock?, if_pos ⟨rfl, head?_of_uncommented (by decide) hd⟩] at h
      simp at h

theorem Blockless.uncommented {s : Option Char} {t : Text} (h : Blockless t) :
    Blockless (uncommented s t) := by
  induction s, t using uncommented_induction with
  | nil s => rwa [uncommented_nil]
  | hyphens t ih =>
    rw [uncommented_hyphens]
    apply ih
    exact h.of_suffix ((List.dropWhile_suffix _).trans ⟨['-', '-'], rfl⟩)
  | cons s c t hcut ih =>
    rw [uncommented_cons hcut]
    refine blockless_cons ?_ (ih (h.of_suffix (List.suffix_cons c t)))
    rw [Bool.eq_false_iff]
    intro hopen
    obtain ⟨more, after, rfl, hmore, hafter⟩ := exists_of_opensBlock hopen
    have hstar : t.head? = some '*' := head?_of_uncommented (by decide) (by rw [hmore]; rfl)
    obtain ⟨tail, rfl⟩ := List.head?_eq_some_iff.mp hstar
    have hnone : behindBlock? tail = none := by
      simpa [opensBlock] using h '/' ('*' :: tail) List.suffix_rfl
    rw [uncommented_cons (by simp), List.cons.injEq] at hmore
    rw [← hmore.2, behindBlock?_uncommented _ _ hnone] at hafter
    simp at hafter

theorem withoutComments_eq_self_iff {t : Text} :
    withoutComments t = t ↔ Blockless t ∧ uncommented none t = t := by
  rw [withoutComments_eq_uncommented]
  constructor
  · intro h
    have hblocks : Blockless t := by
      rw [← h]
      exact (blockless_withoutBlocks t).uncommented
    rw [hblocks.withoutBlocks_eq] at h
    exact ⟨hblocks, h⟩
  · rintro ⟨hblocks, h⟩
    rw [hblocks.withoutBlocks_eq, h]

theorem withoutComments_idem (t : Text) : withoutComments (withoutComments t) = withoutComments t := by
  rw [withoutComments_eq_self_iff, withoutComments_eq_uncommented]
  exact ⟨(blockless_withoutBlocks t).uncommented, uncommented_idem none _⟩

end DdlAtlas.Sql

namespace DdlAtlas.Schema

open Sql

/-- Comments are gone after one removal, and a text without its comments has the same statements, the
same schema and the same notes, offsets included. -/
theorem read_withoutComments (t : Text) :
    withoutComments (withoutComments t) = withoutComments t ∧
      Statements.locate (withoutComments t) = Statements.locate t ∧
      read (withoutComments t) = read t := by
  have hidem := withoutComments_idem t
  have hlocate : Statements.locate (withoutComments t) = Statements.locate t := by
    simp only [Statements.locate, hidem]
  exact ⟨hidem, hlocate, by simp only [read, hlocate]⟩

end DdlAtlas.Schema
