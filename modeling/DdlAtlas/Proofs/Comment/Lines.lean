import DdlAtlas.Proofs.Comment.Blocks
import DdlAtlas.Proofs.Text.Join
import DdlAtlas.Proofs.Text.Spelled

/-!
# Comment removal character by character

Comment removal works in two passes: block comments leave the whole text, then every line is cut by
itself. Here the second pass is unrolled along the text. What it does behind a character depends only
on the quote of the literal that the line seems to stand in, and a line break clears that quote. To a
text in which no comment begins neither pass does anything.
-/

namespace DdlAtlas.Sql

open Text (cells join)

def restOfLine (t : Text) : Text :=
  t.takeWhile (· != '\n')

def fromBreak (t : Text) : Text :=
  t.dropWhile (· != '\n')

theorem restOfLine_append_fromBreak (t : Text) : restOfLine t ++ fromBreak t = t :=
  List.takeWhile_append_dropWhile

theorem not_mem_restOfLine (t : Text) : '\n' ∉ restOfLine t := by
  intro h
  simpa using List.all_eq_true.mp List.all_takeWhile _ h

theorem fromBreak_newline (t : Text) : fromBreak ('\n' :: t) = '\n' :: t := by
  simp [fromBreak]

theorem fromBreak_cons {c : Char} (hc : c ≠ '\n') (t : Text) : fromBreak (c :: t) = fromBreak t := by
  simp [fromBreak, hc]

theorem head?_fromBreak {t : Text} {c : Char} (h : (fromBreak t).head? = some c) : c = '\n' := by
  induction t with
  | nil => simp [fromBreak] at h
  | cons d rest ih =>
    by_cases hd : d = '\n'
    · rw [hd, fromBreak_newline] at h
      simpa using h.symm
    · exact ih (by rwa [fromBreak_cons hd] at h)

theorem fromBreak_append {line tail : Text} (hline : '\n' ∉ line)
    (htail : ∀ c ∈ tail.head?, c = '\n') : fromBreak (line ++ tail) = tail := by
  induction line with
  | nil =>
    cases tail with
    | nil => rfl
    | cons c rest =>
      obtain rfl := htail c rfl
      exact fromBreak_newline rest
  | cons d line ih =>
    simp only [List.mem_cons, not_or] at hline
    rw [List.cons_append, fromBreak_cons (fun hd => hline.1 hd.symm), ih hline.2]

def lineQuote (s : Option Char) (c : Char) : Option Char :=
  if c = '\n' then none
  else match s with
    | some q => if c = q then none else some q
    | none => if isQuote c then some c else none

/-- The text with every line cut at its comment, where the first line is read with a quote. -/
def uncommented (s : Option Char) (t : Text) : Text :=
  match cells '\n' t with
  | [] => []
  | line :: more => join ['\n'] (lineWithoutComment s line :: more.map (lineWithoutComment none))

theorem withoutComments_eq_uncommented (t : Text) :
    withoutComments t = uncommented none (withoutBlocks t) := by
  unfold withoutComments uncommented
  cases h : cells '\n' (withoutBlocks t) with
  | nil => exact absurd h (Text.cells_ne_nil _ _)
  | cons line more => rfl

@[simp] theorem uncommented_nil (s : Option Char) : uncommented s [] = [] := by
  cases s <;> rfl

theorem uncommented_newline (s : Option Char) (t : Text) :
    uncommented s ('\n' :: t) = '\n' :: uncommented none t := by
  unfold uncommented
  cases h : cells '\n' t with
  | nil => exact absurd h (Text.cells_ne_nil _ _)
  | cons line more => cases s <;> simp [cells, h, Text.join_cons_cons, lineWithoutComment]

theorem lineWithoutComment_cons {s : Option Char} {c : Char} {rest : Text} (hc : c ≠ '\n')
    (h : ¬(s = none ∧ c = '-' ∧ rest.head? = some '-')) :
    lineWithoutComment s (c :: rest) = c :: lineWithoutComment (lineQuote s c) rest := by
  cases s with
  | some q => simp [lineWithoutComment, lineQuote, hc]
  | none =>
    have h' : ¬(c = '-' ∧ rest.head? = some '-') := fun hd => h ⟨rfl, hd⟩
    by_cases hq : isQuote c = true
    · simp [lineWithoutComment, lineQuote, hc, hq]
    · simp [lineWithoutComment, lineQuote, hc, hq, h']

theorem head?_of_cells {sep : Char} {t line : Text} {more : List Text}
    (h : cells sep t = line :: more) {c : Char} (hc : c ≠ sep) :
    line.head? = some c ↔ t.head? = some c := by
  cases t with
  | nil =>
    simp only [cells, List.cons.injEq] at h
    simp [← h.1]
  | cons d rest =>
    unfold cells at h
    split at h
    · rename_i hd
      simp only [List.cons.injEq] at h
      simp only [← h.1, List.head?_nil, List.head?_cons, Option.some.injEq, reduceCtorEq, false_iff]
      exact fun he => hc (he.symm.trans hd)
    · cases hr : cells sep rest with
      | nil => exact absurd hr (Text.cells_ne_nil _ _)
      | cons first others =>
        simp only [hr, List.modifyHead_cons, List.cons.injEq] at h
        simp [← h.1]

theorem uncommented_cons {s : Option Char} {c : Char} {t : Text}
    (h : ¬(s = none ∧ c = '-' ∧ t.head? = some '-')) :
    uncommented s (c :: t) = c :: uncommented (lineQuote s c) t := by
  by_cases hc : c = '\n'
  · subst hc
    simp [uncommented_newline, lineQuote]
  · unfold uncommented
    cases hcells : cells '\n' t with
    | nil => exact absurd hcells (Text.cells_ne_nil _ _)
    | cons line more =>
      have hline : ¬(s = none ∧ c = '-' ∧ line.head? = some '-') := by
        rw [head?_of_cells hcells (by decide)]
        exact h
      simp only [cells, hc, if_false, hcells, List.modifyHead_cons]
      rw [lineWithoutComment_cons hc hline, Text.join_cons_head]

theorem cells_fromBreak (t : Text) : cells '\n' (fromBreak t) = [] :: (cells '\n' t).tail := by
  induction t with
  | nil => rfl
  | cons c rest ih =>
    by_cases hc : c = '\n'
    · subst hc
      simp [fromBreak_newline, cells]
    · rw [fromBreak_cons hc, ih]
      cases h : cells '\n' rest with
      | nil => exact absurd h (Text.cells_ne_nil _ _)
      | cons line more => simp [cells, hc, h]

theorem uncommented_hyphens (t : Text) :
    uncommented none ('-' :: '-' :: t) = uncommented none (fromBreak t) := by
  unfold uncommented
  rw [cells_fromBreak]
  cases h : cells '\n' t with
  | nil => exact absurd h (Text.cells_ne_nil _ _)
  | cons line more =>
    simp only [cells, h, show ¬('-' = '\n') by decide, if_false, List.modifyHead_cons,
      List.tail_cons]
    rfl

theorem head?_uncommented_fromBreak (t : Text) :
    (uncommented none (fromBreak t)).head? ≠ some '-' := by
  cases h : fromBreak t with
  | nil => simp
  | cons c rest =>
    obtain rfl : c = '\n' := head?_fromBreak (by rw [h, List.head?_cons])
    simp [uncommented_newline]

def Unmarked (t : Text) : Prop :=
  ¬['-', '-'] <:+: t ∧ ¬['/', '*'] <:+: t

instance (t : Text) : Decidable (Unmarked t) :=
  inferInstanceAs (Decidable (_ ∧ _))

theorem absent_of_cons {w : Text} {c : Char} {rest : Text} (h : ¬w <:+: c :: rest) :
    ¬w <:+: rest :=
  fun hr => h (hr.trans (List.suffix_cons c rest).isInfix)

theorem head?_ne_of_absent {x y c : Char} {rest : Text} (h : ¬[x, y] <:+: c :: rest) :
    ¬(c = x ∧ rest.head? = some y) := by
  rintro ⟨rfl, hd⟩
  obtain ⟨more, rfl⟩ := List.head?_eq_some_iff.mp hd
  exact h ⟨[], more, rfl⟩

theorem unmarked_nil : Unmarked [] :=
  ⟨by simp, by simp⟩

theorem Unmarked.append_cons {s t : Text} {x : Char} (hs : Unmarked s) (ht : Unmarked t)
    (hx : x ≠ '-' ∧ x ≠ '/' ∧ x ≠ '*') : Unmarked (s ++ x :: t) := by
  obtain ⟨hhyphen, hslash, hstar⟩ := hx
  have hline : x ∉ ['-', '-'] := by simp [hhyphen]
  have hblock : x ∉ ['/', '*'] := by simp [hslash, hstar]
  exact ⟨fun hw => ((Text.isInfix_append_cons hline).mp hw).elim hs.1 ht.1,
    fun hw => ((Text.isInfix_append_cons hblock).mp hw).elim hs.2 ht.2⟩

theorem Unmarked.of_part {s t : Text} (h : Unmarked t) (hs : s <:+: t) : Unmarked s :=
  ⟨fun hw => h.1 (hw.trans hs), fun hw => h.2 (hw.trans hs)⟩

theorem Unmarked.append {s t : Text} (hs : Unmarked s) (ht : Unmarked t)
    (hlast : ∀ x ∈ s.getLast?, x ≠ '-' ∧ x ≠ '/' ∧ x ≠ '*') : Unmarked (s ++ t) := by
  rcases List.eq_nil_or_concat s with rfl | ⟨init, x, rfl⟩
  · exact ht
  · rw [List.concat_eq_append] at hs ⊢
    have hinit : Unmarked init := hs.of_part ⟨[], [x], rfl⟩
    rw [List.append_assoc]
    exact hinit.append_cons ht (hlast x (by simp))

theorem Unmarked.cons {t : Text} {x : Char} (ht : Unmarked t)
    (hx : x ≠ '-' ∧ x ≠ '/' ∧ x ≠ '*') : Unmarked (x :: t) :=
  unmarked_nil.append_cons ht hx

theorem withoutBlocks_of_absent {t : Text} (h : ¬['/', '*'] <:+: t) : withoutBlocks t = t := by
  induction t with
  | nil => rw [withoutBlocks]
  | cons c rest ih =>
    rw [withoutBlocks_cons_of_not (head?_ne_of_absent h), ih (absent_of_cons h)]

theorem uncommented_of_absent {s : Option Char} {t : Text} (h : ¬['-', '-'] <:+: t) :
    uncommented s t = t := by
  induction t generalizing s with
  | nil => simp
  | cons c rest ih =>
    rw [uncommented_cons fun hd => head?_ne_of_absent h hd.2, ih (absent_of_cons h)]

theorem unmarked_of_not_mem {t : Text} (hhyphen : '-' ∉ t) (hslash : '/' ∉ t) : Unmarked t :=
  ⟨fun h => hhyphen (h.subset (by simp)), fun h => hslash (h.subset (by simp))⟩

theorem Unmarked.withoutComments_eq {t : Text} (h : Unmarked t) : withoutComments t = t := by
  rw [withoutComments_eq_uncommented, withoutBlocks_of_absent h.2, uncommented_of_absent h.1]

theorem Unmarked.withoutComments_append {t : Text} (h : Unmarked t)
    (hlast : ∀ c ∈ t.getLast?, c ≠ '-' ∧ c ≠ '/') (rest : Text) :
    ∃ r, withoutComments (t ++ rest) = t ++ r := by
  have htail : ∀ {c z : Char} {u : Text}, z ∈ u.getLast? → z ∈ (c :: u).getLast? := by
    intro c z u hz
    simp [List.getLast?_cons, Option.mem_def.mp hz]
  have hmeet : ∀ {x y c : Char} {u v : Text}, ¬[x, y] <:+: c :: u → (∀ z ∈ (c :: u).getLast?, z ≠ x) →
      ¬(c = x ∧ (u ++ v).head? = some y) := by
    rintro x y c u v habsent hend ⟨rfl, hhead⟩
    cases u with
    | nil => exact hend c rfl rfl
    | cons d u => exact head?_ne_of_absent habsent ⟨rfl, hhead⟩
  have hblocks : withoutBlocks (t ++ rest) = t ++ withoutBlocks rest := by
    obtain ⟨-, habsent⟩ := h
    induction t with
    | nil => rfl
    | cons c t ih =>
      rw [List.cons_append, withoutBlocks_cons_of_not (hmeet habsent fun z hz => (hlast z hz).2),
        ih (fun z hz => hlast z (htail hz)) (absent_of_cons habsent)]
      rfl
  rw [withoutComments_eq_uncommented, hblocks]
  clear hblocks
  generalize none = s
  obtain ⟨habsent, -⟩ := h
  induction t generalizing s with
  | nil => exact ⟨_, rfl⟩
  | cons c t ih =>
    obtain ⟨r, hr⟩ := ih (fun z hz => hlast z (htail hz)) (lineQuote s c)
      (absent_of_cons habsent)
    refine ⟨r, ?_⟩
    rw [List.cons_append, uncommented_cons fun hd => hmeet habsent (fun z hz => (hlast z hz).1) hd.2, hr]
    rfl

end DdlAtlas.Sql
