import DdlAtlas.Proofs.Nesting.Agreement
import DdlAtlas.Proofs.Nesting.Pieces
import DdlAtlas.Proofs.Table.Keys
import DdlAtlas.Proofs.Text.Collapse

/-!
# Spacing of a table body

A body is cut at its commas first, and the blanks of the pieces are collapsed behind that. No blank is
cut at, and none changes the nesting that decides where to cut; so the words of the pieces are the same
whether the blanks are collapsed before the cuts or behind them. What a body declares therefore depends
on its words alone, however they are spread over lines.
-/

namespace DdlAtlas

namespace Text

theorem words_cons_congr {c : Char} {s t : Text} (hc : isBlank c = false) (hwords : words s = words t)
    (hends : wordEndsBefore s = wordEndsBefore t) : words (c :: s) = words (c :: t) := by
  simp [words, hc, hwords, hends]

end Text

namespace Sql

namespace Nesting

variable {s : Nesting} {c : Char} {t : Text}

theorem pieces_cons_of_cut (hcut : s.cutsAt [','] c = true) :
    pieces [','] s (c :: t) = [] :: pieces [','] s t := by
  rw [pieces, if_pos hcut]

theorem pieces_cons_of_not_cut (hcut : s.cutsAt [','] c = false) :
    pieces [','] s (c :: t) = (pieces [','] (s.step c) t).modifyHead (c :: ·) := by
  rw [pieces, if_neg (by simp [hcut])]

theorem pieces_cons_blank (hs : ∀ q ∈ s.quote, isQuote q = true) (hc : Text.isBlank c = true) :
    pieces [','] s (c :: t) = (pieces [','] s t).modifyHead (c :: ·) := by
  have hcut : s.cutsAt [','] c = false := by
    have hcomma : c ≠ ',' := by
      rintro rfl
      exact absurd hc (by decide)
    simp [cutsAt, hcomma.symm]
  rw [pieces_cons_of_not_cut hcut, step_of_isPlain hs (isPlain_of_isBlank hc)]

theorem words_pieces_cons_blank (hs : ∀ q ∈ s.quote, isQuote q = true) (hc : Text.isBlank c = true) :
    (pieces [','] s (c :: t)).map Text.words = (pieces [','] s t).map Text.words := by
  obtain ⟨p, ps, hp⟩ := List.exists_cons_of_ne_nil (pieces_ne_nil [','] s t)
  rw [pieces_cons_blank hs hc, hp, List.modifyHead_cons, List.map_cons, List.map_cons,
    Text.words_cons_blank hc]

theorem wordEndsBefore_head {p : Text} {ps : List Text} (h : pieces [','] s (c :: t) = p :: ps) :
    Text.wordEndsBefore p = (s.cutsAt [','] c || Text.isBlank c) := by
  cases hcut : s.cutsAt [','] c with
  | true =>
    rw [pieces_cons_of_cut hcut] at h
    obtain ⟨rfl, -⟩ := List.cons.inj h
    rfl
  | false =>
    obtain ⟨q, qs, hq⟩ := List.exists_cons_of_ne_nil (pieces_ne_nil [','] (s.step c) t)
    rw [pieces_cons_of_not_cut hcut, hq, List.modifyHead_cons] at h
    obtain ⟨rfl, -⟩ := List.cons.inj h
    rfl

theorem wordEndsBefore_collapsedBehind {p q : Text} {ps qs : List Text}
    (hp : pieces [','] s (Text.collapsedBehind t) = p :: ps) (hq : pieces [','] s t = q :: qs) :
    Text.wordEndsBefore p = Text.wordEndsBefore q := by
  have hspace : Text.isBlank ' ' = true := by decide
  cases t with
  | nil =>
    obtain ⟨rfl, -⟩ := List.cons.inj (hp.symm.trans hq)
    rfl
  | cons d rest =>
    cases hd : Text.isBlank d with
    | true =>
      rw [wordEndsBefore_head hq, hd, Bool.or_true]
      by_cases hrest : Text.words (d :: rest) = []
      · have hnone : Text.collapsedBehind (d :: rest) = [] := by
          simp [Text.collapsedBehind, Text.collapse, hrest, Text.join]
        rw [hnone] at hp
        obtain ⟨rfl, -⟩ := List.cons.inj hp
        rfl
      · rw [Text.collapsedBehind, if_pos ⟨hd, hrest⟩] at hp
        rw [wordEndsBefore_head hp, hspace, Bool.or_true]
    | false =>
      rw [Text.collapsedBehind, if_neg (by simp [Text.wordEndsBefore, hd]), Text.collapse_cons hd] at hp
      rw [wordEndsBefore_head hp, wordEndsBefore_head hq]

/-- The words of the pieces are the same whether the blanks are collapsed before the cuts or behind them. -/
theorem words_pieces_collapse (hs : ∀ q ∈ s.quote, isQuote q = true) (t : Text) :
    (pieces [','] s (Text.collapse t)).map Text.words = (pieces [','] s t).map Text.words := by
  induction t generalizing s with
  | nil => rfl
  | cons c rest ih =>
    cases hc : Text.isBlank c with
    | true => rw [Text.collapse_cons_blank hc, ih hs, words_pieces_cons_blank hs hc]
    | false =>
      have hbehind : ∀ {s : Nesting}, (∀ q ∈ s.quote, isQuote q = true) →
          (pieces [','] s (Text.collapsedBehind rest)).map Text.words =
            (pieces [','] s rest).map Text.words := by
        intro s hs
        unfold Text.collapsedBehind
        split
        · rw [words_pieces_cons_blank hs (by decide), ih hs]
        · exact ih hs
      rw [Text.collapse_cons hc]
      cases hcut : s.cutsAt [','] c with
      | true => rw [pieces_cons_of_cut hcut, pieces_cons_of_cut hcut, List.map_cons, List.map_cons, hbehind hs]
      | false =>
        have hstep := isQuote_of_step hs c
        obtain ⟨p, ps, hp⟩ := List.exists_cons_of_ne_nil
          (pieces_ne_nil [','] (s.step c) (Text.collapsedBehind rest))
        obtain ⟨q, qs, hq⟩ := List.exists_cons_of_ne_nil (pieces_ne_nil [','] (s.step c) rest)
        have hwords := hbehind hstep
        rw [hp, hq, List.map_cons, List.map_cons] at hwords
        obtain ⟨hhead, htail⟩ := List.cons.inj hwords
        have hends := wordEndsBefore_collapsedBehind hp hq
        rw [pieces_cons_of_not_cut hcut, pieces_cons_of_not_cut hcut, hp, hq, List.modifyHead_cons,
          List.modifyHead_cons, List.map_cons, List.map_cons, htail, Text.words_cons_congr hc hhead hends]

end Nesting

theorem filter_dropEmptyLast (parts : List Text) :
    ((dropEmptyLast parts).map Text.collapse).filter (· ≠ []) = (parts.map Text.collapse).filter (· ≠ []) := by
  rw [dropEmptyLast]
  split
  · rename_i hlast
    obtain ⟨front, rfl⟩ := List.getLast?_eq_some_iff.mp hlast
    simp [Text.collapse, Text.words, Text.join]
  · rfl

theorem logicalLines_eq (body : Text) : logicalLines body =
    (((Nesting.pieces [','] .outside (withoutComments body)).map Text.words).map
      (Text.join [' '])).filter (· ≠ []) := by
  rw [logicalLines, splitTopLevel, List.map_map]
  exact filter_dropEmptyLast _

theorem logicalLines_congr {body body' : Text}
    (h : Text.words (withoutComments body) = Text.words (withoutComments body')) :
    logicalLines body = logicalLines body' := by
  have houtside : ∀ q ∈ Nesting.outside.quote, isQuote q = true := by simp [Nesting.outside]
  have hcollapse : Text.collapse (withoutComments body) = Text.collapse (withoutComments body') := by
    rw [Text.collapse, Text.collapse, h]
  rw [logicalLines_eq, logicalLines_eq, ← Nesting.words_pieces_collapse houtside, hcollapse,
    Nesting.words_pieces_collapse houtside]

/-- Two bodies without comment marks that consist of the same words have the same lines, so that they
declare the same columns and keys and give rise to the same notes. -/
theorem TableBody.read_of_words {body body' : Text} (hunmarked : Unmarked body) (hunmarked' : Unmarked body')
    (hwords : Text.words body = Text.words body') (table : Text) :
    logicalLines body = logicalLines body' ∧
      (∃ b, read body table = .ok b ∧ read body' table = .ok b) ∧
      notes body table = notes body' table := by
  have hlines : logicalLines body = logicalLines body' :=
    logicalLines_congr (by rw [hunmarked.withoutComments_eq, hunmarked'.withoutComments_eq, hwords])
  obtain ⟨b, hb, -⟩ := read_total body table
  refine ⟨hlines, ⟨b, hb, ?_⟩, ?_⟩
  · rw [← hb, read, read, hlines]
  · rw [notes, notes, hlines]

def wrappedBody : Text :=
  "\n  a\u00a0int\tDEFAULT\r\n 'x , y',\u2003FOREIGN KEY\n(a)\u3000REFERENCES\n  s.t(b) ,\u2028 c text CHECK (c IN ('p',\n 'q'))\n"

def flatBody : Text :=
  "a int DEFAULT 'x , y', FOREIGN KEY (a) REFERENCES s.t(b) , c text CHECK (c IN ('p', 'q'))"

theorem TableBody.read_wrappedBody :
    (Unmarked wrappedBody ∧ Unmarked flatBody ∧ Text.words wrappedBody = Text.words flatBody) ∧
      logicalLines wrappedBody = logicalLines flatBody ∧
      (∃ b, read wrappedBody "orders" = .ok b ∧ read flatBody "orders" = .ok b) ∧
      notes wrappedBody "orders" = notes flatBody "orders" := by
  have hwrapped : Unmarked wrappedBody := by decide +kernel
  have hflat : Unmarked flatBody := by decide +kernel
  have hwords : Text.words wrappedBody = Text.words flatBody := by decide +kernel
  exact ⟨⟨hwrapped, hflat, hwords⟩, read_of_words hwrapped hflat hwords "orders"⟩

end Sql

end DdlAtlas
