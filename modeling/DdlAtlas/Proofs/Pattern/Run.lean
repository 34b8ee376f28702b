import DdlAtlas.Proofs.Pattern.Reads
import DdlAtlas.Proofs.Text.Blank
import DdlAtlas.Proofs.Text.Spelled
import Mathlib.Data.List.Forall2

/-!
# Running a pattern over known text

Where the text at a position is known, so is the position behind it: words, gaps and solid runs lead
on to the end of the stretch they cover, whatever has to follow. A pattern that can read nothing there
hands over to the alternative behind it.
-/

namespace DdlAtlas.Pattern

variable {next : Cursor → Option Cursor} {before rest : Text} {position : Nat}
  {groups : List Capture}

theorem run_sequence_cons (p : Pattern) (ps : List Pattern) (c : Cursor) :
    (sequence (p :: ps)).run next c = p.run ((sequence ps).run next) c := by
  cases ps <;> rfl

theorem run_sequence_nil (c : Cursor) : (sequence []).run next c = next c :=
  rfl

theorem run_eq_none_of_reads {p : Pattern} {c : Cursor} (h : ∀ d, ¬p.Reads c d) :
    p.run next c = none := by
  cases hr : p.run next c with
  | none => rfl
  | some e =>
    obtain ⟨d, hd, -⟩ := reads_of_run hr
    exact absurd hd (h d)

theorem match?_eq_none {p : Pattern} {t : Text} (h : ∀ d, ¬p.Reads (.start t) d) : p.match? t = none := by
  rw [match?, matchAt?, run_eq_none_of_reads h, Option.map_none]

theorem match?_of_run {p : Pattern} {t : Text} {d : Cursor} (h : p.run some (.start t) = some d) :
    p.match? t = some ⟨.start t, d⟩ := by
  rw [match?, matchAt?, h, Option.map_some]

theorem run_letters {test : Char → Char → Bool} (h : ∀ x, test x x = true) (t : Text) :
    (sequence (t.map fun x => one (test x))).run next ⟨before, t ++ rest, position, groups⟩ =
      next ⟨t.reverse ++ before, rest, position + t.length, groups⟩ := by
  induction t generalizing before position with
  | nil => rfl
  | cons x t ih =>
    rw [List.map_cons, run_sequence_cons, List.cons_append]
    simp only [run, h, if_true]
    rw [ih]
    simp only [List.reverse_cons, List.append_assoc, List.singleton_append, List.length_cons]
    congr 2
    omega

theorem run_word (t : Text) :
    (word t).run next ⟨before, t ++ rest, position, groups⟩ =
      next ⟨t.reverse ++ before, rest, position + t.length, groups⟩ :=
  run_letters (fun x => by simp [Text.sameLetter]) t

theorem run_exactly (t : Text) :
    (exactly t).run next ⟨before, t ++ rest, position, groups⟩ =
      next ⟨t.reverse ++ before, rest, position + t.length, groups⟩ :=
  run_letters (fun x => by simp) t

theorem past_append {test : Char → Bool} {s : Text} (hs : ∀ x ∈ s, test x = true)
    (hr : ∀ x ∈ rest.head?, test x = false) :
    Cursor.past test groups position before (s ++ rest) =
      ⟨s.reverse ++ before, rest, position + s.length, groups⟩ := by
  induction s generalizing before position with
  | nil =>
    cases rest with
    | nil => rfl
    | cons x rest => simp [Cursor.past, hr x rfl]
  | cons x s ih =>
    rw [List.cons_append, Cursor.past, if_pos (hs x List.mem_cons_self),
      ih fun y hy => hs y (List.mem_cons_of_mem x hy)]
    simp only [List.reverse_cons, List.append_assoc, List.singleton_append, List.length_cons]
    congr 1
    omega

theorem run_solid {test : Char → Bool} {s : Text} (hs : ∀ x ∈ s, test x = true)
    (hr : ∀ x ∈ rest.head?, test x = false) :
    (solid test).run next ⟨before, s ++ rest, position, groups⟩ =
      next ⟨s.reverse ++ before, rest, position + s.length, groups⟩ := by
  rw [run, past_append hs hr]

theorem run_solid1 {test : Char → Bool} {s : Text} (hne : s ≠ []) (hs : ∀ x ∈ s, test x = true)
    (hr : ∀ x ∈ rest.head?, test x = false) :
    (solid1 test).run next ⟨before, s ++ rest, position, groups⟩ =
      next ⟨s.reverse ++ before, rest, position + s.length, groups⟩ := by
  obtain ⟨x, s, rfl⟩ := List.exists_cons_of_ne_nil hne
  have hx := hs x List.mem_cons_self
  have htail : ∀ y ∈ s, test y = true := fun y hy => hs y (List.mem_cons_of_mem x hy)
  simp only [solid1, run, List.cons_append, hx, if_true]
  rw [past_append htail hr]
  simp only [List.reverse_cons, List.append_assoc, List.singleton_append, List.length_cons]
  congr 2
  omega

theorem run_group_solid1 {test : Char → Bool} {label : Nat} {s : Text} (hne : s ≠ [])
    (hs : ∀ x ∈ s, test x = true) (hr : ∀ x ∈ rest.head?, test x = false) :
    (group label (solid1 test)).run next ⟨before, s ++ rest, position, groups⟩ =
      next ⟨s.reverse ++ before, rest, position + s.length,
        ⟨label, s ++ rest, s.length⟩ :: groups⟩ := by
  rw [run, run_solid1 hne hs hr]
  simp [Cursor.close]

theorem run_blanks {blanks : Text} (hne : blanks ≠ []) (hblanks : ∀ x ∈ blanks, Text.isBlank x = true)
    (hr : ∀ x ∈ rest.head?, Text.isBlank x = false) :
    space.run next ⟨before, blanks ++ rest, position, groups⟩ =
      next ⟨blanks.reverse ++ before, rest, position + blanks.length, groups⟩ :=
  run_solid1 hne hblanks hr

theorem run_space (hr : ∀ x ∈ rest.head?, Text.isBlank x = false) :
    space.run next ⟨before, ' ' :: rest, position, groups⟩ =
      next ⟨' ' :: before, rest, position + 1, groups⟩ :=
  run_blanks (List.cons_ne_nil ' ' []) (by simp [Text.isBlank]) hr

theorem run_gap_space (hr : ∀ x ∈ rest.head?, Text.isBlank x = false) :
    gap.run next ⟨before, ' ' :: rest, position, groups⟩ =
      next ⟨' ' :: before, rest, position + 1, groups⟩ :=
  run_solid (s := [' ']) (by simp [Text.isBlank]) hr

theorem run_alt_of_some {p q : Pattern} {c d : Cursor} (h : p.run next c = some d) :
    (alt p q).run next c = some d := by
  rw [run, h]
  rfl

theorem run_alt_of_none {p q : Pattern} {c : Cursor} (h : p.run next c = none) :
    (alt p q).run next c = q.run next c := by
  rw [run, h]
  rfl

theorem run_alt_of_last_none {p q : Pattern} {c : Cursor}
    (h : q.run next c = none) : (alt p q).run next c = p.run next c := by
  rw [run, h]
  cases p.run next c <;> rfl

theorem run_run1_space (hr : ∀ x ∈ rest.head?, Text.isBlank x = false) :
    (run1 Text.isBlank).run next ⟨before, ' ' :: rest, position, groups⟩ =
      next ⟨' ' :: before, rest, position + 1, groups⟩ := by
  have hspace : Text.isBlank ' ' = true := by decide
  have hstop : Cursor.farthest Text.isBlank none groups [] (position + 1) (' ' :: before) rest =
      [⟨' ' :: before, rest, position + 1, groups⟩] := by
    cases rest with
    | nil => rfl
    | cons x rest => simp [Cursor.farthest, Front.admits, hr x rfl]
  simp only [run1, greedy, run, hspace, if_true, hstop]
  cases hnext : next ⟨' ' :: before, rest, position + 1, groups⟩ <;> simp [hnext]

theorem run_optional_of_none {p : Pattern} {c : Cursor} (h : p.run next c = none) :
    (optional p).run next c = next c := by
  simp [optional, run, h]

theorem head?_past (test : Char → Bool) (position : Nat) (before rest : Text) :
    ∀ x ∈ (Cursor.past test groups position before rest).rest.head?, test x = false := by
  induction rest generalizing position before with
  | nil => simp [Cursor.past]
  | cons c rest ih =>
    unfold Cursor.past
    split
    · exact ih (position + 1) (c :: before)
    · rename_i hc
      intro x hx
      obtain rfl : c = x := by simpa using hx
      simpa using hc

theorem reads_word {w : Text} {c d : Cursor} (h : (word w).Reads c d) :
    ∃ s, c.Passed s d ∧ List.Forall₂ (fun p x => Text.sameLetter p x = true) w s := by
  induction w generalizing c with
  | nil =>
    obtain rfl : d = c := h
    exact ⟨[], .refl d, .nil⟩
  | cons p w ih =>
    obtain ⟨e, ⟨x, rest, hc, hx, rfl⟩, hd⟩ := reads_sequence_cons.mp h
    obtain ⟨s, hs, hall⟩ := ih hd
    have hone : c.Passed [x] ⟨x :: c.before, rest, c.position + 1, c.groups⟩ := ⟨hc, rfl, rfl⟩
    exact ⟨x :: s, hone.trans hs, .cons hx hall⟩

theorem not_reads_word {w t : Text} {c d : Cursor} (hc : c.rest = t ++ rest)
    (h : (List.zipWith Text.sameLetter w t).all id = false) : ¬(word w).Reads c d := by
  intro hd
  obtain ⟨s, hs, hall⟩ := reads_word hd
  have heq : t ++ rest = s ++ d.rest := by rw [← hc, hs.rest]
  clear hd hs hc
  induction hall generalizing t with
  | nil => simp at h
  | @cons p x w s hp _ ih =>
    cases t with
    | nil => simp at h
    | cons y t =>
      obtain ⟨rfl, htail⟩ := List.cons.inj heq
      refine ih ?_ htail
      rwa [List.zipWith_cons_cons, List.all_cons, hp, id, Bool.true_and] at h

theorem head?_append_not_blank {w : Text} (hne : w ≠ []) (h : Text.Unbroken w) :
    ∀ x ∈ (w ++ rest).head?, Text.isBlank x = false := by
  obtain ⟨y, w, rfl⟩ := List.exists_cons_of_ne_nil hne
  intro x hx
  obtain rfl : y = x := by simpa using hx
  exact h y List.mem_cons_self

theorem reads_solid {test : Char → Bool} {c d : Cursor} (h : (solid test).Reads c d) :
    ∃ s, c.Passed s d ∧ (∀ x ∈ s, test x = true) ∧ ∀ x ∈ d.rest.head?, test x = false := by
  obtain rfl := h
  obtain ⟨s, hs, hpassed⟩ := Cursor.passed_past test c.groups c.position c.before c.rest c.groups
  exact ⟨s, hpassed, hs, head?_past test _ _ _⟩

theorem rest_of_reads_solid1 {test : Char → Bool} {s : Text} {c d : Cursor}
    (h : (solid1 test).Reads c d) (hc : c.rest = s ++ rest) (hne : s ≠ [])
    (hs : ∀ x ∈ s, test x = true) (hr : ∀ x ∈ rest.head?, test x = false) : d.rest = rest := by
  obtain ⟨x, s, rfl⟩ := List.exists_cons_of_ne_nil hne
  obtain ⟨e, ⟨y, tail, hy, -, rfl⟩, hd⟩ := h
  obtain ⟨rfl, rfl⟩ := List.cons.inj (hy.symm.trans hc)
  have hd : d = Cursor.past test c.groups (c.position + 1) (y :: c.before) (s ++ rest) := hd
  rw [hd, past_append (fun z hz => hs z (List.mem_cons_of_mem y hz)) hr]

theorem reads_solid1 {test : Char → Bool} {c d : Cursor} (h : (solid1 test).Reads c d) :
    ∃ s, c.Passed s d ∧ s ≠ [] ∧ (∀ x ∈ s, test x = true) ∧ ∀ x ∈ d.rest.head?, test x = false := by
  obtain ⟨e, ⟨x, rest, hc, hx, rfl⟩, hd⟩ := h
  obtain ⟨s, hs, hall, hhead⟩ := reads_solid hd
  have hone : c.Passed [x] ⟨x :: c.before, rest, c.position + 1, c.groups⟩ := ⟨hc, rfl, rfl⟩
  exact ⟨x :: s, hone.trans hs, by simp, List.forall_mem_cons.mpr ⟨hx, hall⟩, hhead⟩

theorem reads_group_solid1 {label : Nat} {test : Char → Bool} {c d : Cursor}
    (h : (group label (solid1 test)).Reads c d) :
    ∃ s, c.Passed s d ∧ s ≠ [] ∧ (∀ x ∈ s, test x = true) ∧
      ∃ g : Capture, d.groups = g :: c.groups ∧ g.label = label ∧ g.opened.take g.width = s := by
  obtain ⟨e, he, rfl⟩ := h
  obtain ⟨s, hs, hne, hall, -⟩ := reads_solid1 he
  refine ⟨s, hs.close label c, hne, hall, ⟨label, c.rest, e.position - c.position⟩, ?_, rfl, hs.take_eq⟩
  simp [Cursor.close, he.groups_eq rfl]

theorem reads_space {c d : Cursor} (h : space.Reads c d) :
    ∃ s, c.Passed s d ∧ s ≠ [] ∧ (∀ x ∈ s, Text.isBlank x = true) ∧
      ∀ x ∈ d.rest.head?, Text.isBlank x = false :=
  reads_solid1 h

theorem reads_single_space {c d : Cursor} (h : space.Reads c d) (hc : c.rest = ' ' :: rest)
    (hr : ∀ x ∈ rest.head?, Text.isBlank x = false) : d.rest = rest := by
  obtain ⟨b, hb, hne, hblank, -⟩ := reads_space h
  obtain ⟨y, b, rfl⟩ := List.exists_cons_of_ne_nil hne
  have heq : ' ' :: rest = y :: (b ++ d.rest) := by rw [← hc, hb.rest, List.cons_append]
  obtain ⟨-, hback⟩ := List.cons.inj heq
  cases b with
  | nil => exact hback.symm
  | cons z b =>
    have hz : Text.isBlank z = true := hblank z (by simp)
    rw [hr z (by simp [hback])] at hz
    exact absurd hz (by simp)

theorem isBlank_of_sameLetter {p x : Char} (hp : Text.isBlank p.toLower = false)
    (h : Text.sameLetter p x = true) : Text.isBlank x = false := by
  unfold Text.sameLetter at h
  rcases (Bool.or_eq_true _ _).mp h with h | h
  · cases hx : Text.isBlank x with
    | false => rfl
    | true =>
      rw [← beq_iff_eq.mp h, Text.toLower_of_isBlank hx, hx] at hp
      exact absurd hp (by simp)
  · split at h
    · rcases (Bool.or_eq_true _ _).mp h with h | h
      · rw [beq_iff_eq.mp h]
        decide
      · rw [beq_iff_eq.mp h]
        decide
    · rw [beq_iff_eq.mp h]
      decide
    · rw [beq_iff_eq.mp h]
      decide
    · exact absurd h (by simp)

theorem not_blank_of_sameLetters {w s : Text}
    (h : List.Forall₂ (fun p x => Text.sameLetter p x = true) w s)
    (hw : Text.Unbroken (Text.folded w)) : Text.Unbroken s := by
  induction h with
  | nil => exact (by decide : Text.Unbroken [])
  | cons hp _ ih =>
    intro x hx
    rcases List.mem_cons.mp hx with rfl | hx
    · exact isBlank_of_sameLetter (hw _ List.mem_cons_self) hp
    · exact ih (fun q hq => hw q (List.mem_cons_of_mem _ hq)) x hx

theorem reads_word_blank {w m : Text} {ps : List Pattern} {c d : Cursor}
    (h : (sequence (word w :: space :: ps)).Reads c d) (hc : c.rest = m ++ rest)
    (hw : Text.Unbroken (Text.folded w)) (hm : Text.Unbroken m)
    (hr : ∀ x ∈ rest.head?, Text.isBlank x = true) :
    List.Forall₂ (fun p x => Text.sameLetter p x = true) w m ∧
      ∃ e, e.rest = rest ∧ (sequence (space :: ps)).Reads e d := by
  obtain ⟨e, hword, h⟩ := reads_sequence_cons.mp h
  obtain ⟨f, hspace, -⟩ := reads_sequence_cons.mp h
  obtain ⟨s, hs, hall⟩ := reads_word hword
  obtain ⟨b, hb, hne, hblank, -⟩ := reads_space hspace
  obtain ⟨y, b, rfl⟩ := List.exists_cons_of_ne_nil hne
  have hy : Text.isBlank y = true := hblank y List.mem_cons_self
  have heq : m ++ rest = s ++ y :: (b ++ f.rest) := by
    rw [← hc, hs.rest, hb.rest, List.cons_append]
  have hsolid := not_blank_of_sameLetters hall hw
  have hfront := congrArg (List.takeWhile fun x => !Text.isBlank x) heq
  rw [List.takeWhile_append_of_pos (by simpa [Text.Unbroken] using hm),
    List.takeWhile_append_of_pos (by simpa [Text.Unbroken] using hsolid)] at hfront
  have hstop : rest.takeWhile (fun x => !Text.isBlank x) = [] := by
    cases rest with
    | nil => rfl
    | cons x rest => simp [hr x rfl]
  rw [hstop, List.takeWhile_cons, hy] at hfront
  simp only [List.append_nil, Bool.not_true, Bool.false_eq_true, if_false] at hfront
  subst hfront
  refine ⟨hall, e, ?_, h⟩
  rw [hb.rest, List.cons_append, List.append_cancel_left heq]

theorem reads_word_space {w m : Text} {ps : List Pattern} {c d : Cursor}
    (h : (sequence (word w :: space :: ps)).Reads c d) (hc : c.rest = m ++ ' ' :: rest)
    (hw : Text.Unbroken (Text.folded w)) (hm : Text.Unbroken m)
    (hr : ∀ x ∈ rest.head?, Text.isBlank x = false) :
    List.Forall₂ (fun p x => Text.sameLetter p x = true) w m ∧
      ∃ e, e.rest = rest ∧ (sequence ps).Reads e d := by
  obtain ⟨hall, e, he, h⟩ := reads_word_blank h hc hw hm (by simp [Text.isBlank])
  obtain ⟨f, hspace, hps⟩ := reads_sequence_cons.mp h
  exact ⟨hall, f, reads_single_space hspace he hr, hps⟩

end DdlAtlas.Pattern
