import DdlAtlas.Proofs.Pattern.Places
import DdlAtlas.Proofs.Text.Words

/-!
# Keywords in front of a parenthesis

A clause begins with keywords and an opening parenthesis. The pattern for such an opener matches just where
one stands that no word runs on into, and an opener goes up to its first parenthesis. Of two openers, the
one can only end the other if their last keywords are the same.
-/

namespace DdlAtlas.Pattern

/-- Keywords in some letter case with blanks between them, and an opening parenthesis behind the last. -/
inductive Opener : List Text → Text → Prop
  | last {word s blanks : Text} (hs : Text.SameLetters word s)
      (hblanks : ∀ x ∈ blanks, Text.isBlank x = true) : Opener [word] (s ++ (blanks ++ ['(']))
  | more {word s blanks t : Text} {words : List Text} (hs : Text.SameLetters word s) (hne : blanks ≠ [])
      (hblanks : ∀ x ∈ blanks, Text.isBlank x = true) (ht : Opener words t) :
      Opener (word :: words) (s ++ (blanks ++ t))

def openerParts : List Text → List Pattern
  | [] => [exactly "("]
  | [k] => [word k, gap, exactly "("]
  | k :: ks => word k :: space :: openerParts ks

def opener (keywords : List Text) : Pattern :=
  sequence (wordEdge :: openerParts keywords)

theorem opener_of_reads {ks : List Text} (hne : ks ≠ []) {c d : Cursor}
    (h : (sequence (openerParts ks)).Reads c d) : ∃ s, Opener ks s ∧ c.Passed s d := by
  induction ks generalizing c with
  | nil => exact absurd rfl hne
  | cons k ks ih =>
    cases ks with
    | nil =>
      simp only [openerParts, reads_sequence_cons] at h
      obtain ⟨e, hword, f, hgap, g, hparen, hd⟩ := h
      obtain rfl : d = g := hd
      obtain ⟨s, hs, hletters⟩ := reads_word hword
      obtain ⟨blanks, hpassed, hblanks, -⟩ := reads_solid hgap
      obtain ⟨x, rest, hrest, hx, rfl⟩ := hparen
      obtain rfl : x = '(' := beq_iff_eq.mp hx
      have hone : f.Passed ['('] ⟨'(' :: f.before, rest, f.position + 1, f.groups⟩ := ⟨hrest, rfl, rfl⟩
      exact ⟨_, .last hletters hblanks, hs.trans (hpassed.trans hone)⟩
    | cons k' ks =>
      simp only [openerParts, reads_sequence_cons] at h
      obtain ⟨e, hword, f, hspace, hd⟩ := h
      obtain ⟨s, hs, hletters⟩ := reads_word hword
      obtain ⟨blanks, hpassed, hblank, hblanks, -⟩ := reads_space hspace
      obtain ⟨t, ht, hlater⟩ := ih (by simp) hd
      exact ⟨_, .more hletters hblank hblanks ht, hs.trans (hpassed.trans hlater)⟩

section Run

variable {next : Cursor → Option Cursor} {before rest : Text} {position : Nat} {groups : List Capture}

theorem run_sameLetters {w s : Text} (h : Text.SameLetters w s) :
    (word w).run next ⟨before, s ++ rest, position, groups⟩ =
      next ⟨s.reverse ++ before, rest, position + s.length, groups⟩ := by
  induction h generalizing before position with
  | nil => rfl
  | @cons p x w s hp _ ih =>
    have hword : word (p :: w) = sequence (one (Text.sameLetter p) :: w.map fun q => one (Text.sameLetter q)) :=
      rfl
    rw [hword, run_sequence_cons, List.cons_append]
    simp only [run, hp, if_true]
    refine ih.trans ?_
    simp only [List.reverse_cons, List.append_assoc, List.singleton_append, List.length_cons]
    congr 2
    omega

variable {ks : List Text} {s : Text}

theorem Opener.head (h : Opener ks s) (hks : ∀ k ∈ ks, Text.IsKeyword k) :
    ∃ x more, s = x :: more ∧ Text.isWord x = true := by
  cases h with
  | last hs | more hs =>
    obtain ⟨hne, hword⟩ := (hks _ List.mem_cons_self).isWord_of_sameLetters hs
    obtain ⟨x, more, rfl⟩ := List.exists_cons_of_ne_nil hne
    exact ⟨x, _, rfl, hword x List.mem_cons_self⟩

theorem run_openerParts (h : Opener ks s) (hks : ∀ k ∈ ks, Text.IsKeyword k) :
    (sequence (openerParts ks)).run next ⟨before, s ++ rest, position, groups⟩ =
      next ⟨s.reverse ++ before, rest, position + s.length, groups⟩ := by
  induction h generalizing before position with
  | @last word s blanks hs hblanks =>
    have hparen : ∀ x ∈ ("(" ++ rest : Text).head?, Text.isBlank x = false := by
      intro x hx
      obtain rfl : '(' = x := by simpa using hx
      decide
    have hshape : s ++ (blanks ++ ['(']) ++ rest = s ++ (blanks ++ ("(" ++ rest)) := by simp
    rw [hshape, openerParts, run_sequence_cons, run_sameLetters hs, run_sequence_cons]
    refine (run_solid hblanks hparen).trans ((run_exactly "(").trans ?_)
    simp [Nat.add_assoc]
  | @more word s blanks t words hs hne hblanks ht ih =>
    have hwords : ∀ k ∈ words, Text.IsKeyword k := fun k hk => hks k (List.mem_cons_of_mem _ hk)
    obtain ⟨x, tail, hx, hword⟩ := ht.head hwords
    have hhead : ∀ y ∈ (t ++ rest).head?, Text.isBlank y = false := by
      intro y hy
      obtain rfl : x = y := by simpa [hx] using hy
      exact Text.not_blank_of_isWord hword
    have hparts : openerParts (word :: words) = Pattern.word word :: space :: openerParts words := by
      cases ht <;> rfl
    have hshape : s ++ (blanks ++ t) ++ rest = s ++ (blanks ++ (t ++ rest)) := by simp
    rw [hshape, hparts, run_sequence_cons, run_sameLetters hs, run_sequence_cons]
    refine (run_solid1 hne hblanks hhead).trans ((ih hwords).trans ?_)
    simp [Nat.add_assoc]

theorem words_append_blanks {s blanks : Text} (hne : blanks ≠ [])
    (hblanks : ∀ x ∈ blanks, Text.isBlank x = true) (t : Text) :
    Text.words (s ++ (blanks ++ t)) = Text.words s ++ Text.words t := by
  obtain ⟨b, blanks, rfl⟩ := List.exists_cons_of_ne_nil hne
  rw [List.cons_append, Text.words_append_blank (hblanks b List.mem_cons_self)]
  congr 1
  have htail := fun x hx => hblanks x (List.mem_cons_of_mem b hx)
  clear hblanks hne
  induction blanks with
  | nil => rfl
  | cons c blanks ih =>
    rw [List.cons_append, Text.words_cons_blank (htail c List.mem_cons_self)]
    exact ih fun x hx => htail x (List.mem_cons_of_mem c hx)

theorem words_sameLetters {w s : Text} (hw : Text.IsKeyword w) (h : Text.SameLetters w s) :
    Text.words s = [s] := by
  obtain ⟨hne, hword⟩ := hw.isWord_of_sameLetters h
  exact Text.words_eq_self hne fun x hx => Text.not_blank_of_isWord (hword x hx)

theorem Opener.cut (h : Opener ks s) (hks : ∀ k ∈ ks, Text.IsKeyword k) :
    ∃ front, s = front ++ ['('] ∧ (∀ x ∈ front, Text.isWord x = true ∨ Text.isBlank x = true) ∧
      List.Forall₂ Text.SameLetters ks (Text.words front) := by
  induction h with
  | @last word s blanks hs hblanks =>
    have hword := hks word List.mem_cons_self
    refine ⟨s ++ blanks, by simp, fun x hx => ?_, ?_⟩
    · rcases List.mem_append.mp hx with hx | hx
      · exact .inl ((hword.isWord_of_sameLetters hs).2 x hx)
      · exact .inr (hblanks x hx)
    · have hwords : Text.words (s ++ blanks) = [s] := by
        by_cases hne : blanks = []
        · rw [hne, List.append_nil, words_sameLetters hword hs]
        · rw [← List.append_nil blanks, words_append_blanks hne hblanks, words_sameLetters hword hs]
          rfl
      rw [hwords]
      exact .cons hs .nil
  | @more word s blanks t words hs hne hblanks ht ih =>
    have hword := hks word List.mem_cons_self
    obtain ⟨front, rfl, hfront, hall⟩ := ih fun k hk => hks k (List.mem_cons_of_mem _ hk)
    refine ⟨s ++ (blanks ++ front), by simp, fun x hx => ?_, ?_⟩
    · simp only [List.mem_append] at hx
      rcases hx with hx | hx | hx
      · exact .inl ((hword.isWord_of_sameLetters hs).2 x hx)
      · exact .inr (hblanks x hx)
      · exact hfront x hx
    · rw [words_append_blanks hne hblanks, words_sameLetters hword hs]
      exact .cons hs hall

end Run

theorem atWordEdge_iff_of_isWord {c : Cursor} {x : Char} {more : Text} (hrest : c.rest = x :: more)
    (hx : Text.isWord x = true) : c.atWordEdge = true ↔ c.before.head?.any Text.isWord = false := by
  simp [Cursor.atWordEdge, hrest, hx]

theorem atWordEdge_iff_of_sameLetters {k w rest : Text} (hk : Text.IsKeyword k) (hw : Text.SameLetters k w)
    {c : Cursor} (hrest : c.rest = w ++ rest) :
    c.atWordEdge = true ↔ c.before.head?.any Text.isWord = false := by
  obtain ⟨hne, hwords⟩ := hk.isWord_of_sameLetters hw
  obtain ⟨x, w, rfl⟩ := List.exists_cons_of_ne_nil hne
  exact atWordEdge_iff_of_isWord hrest (hwords x List.mem_cons_self)

variable {ks : List Text}

theorem standsAt_of_reads (hne : ks ≠ []) (hks : ∀ k ∈ ks, Text.IsKeyword k) {c d : Cursor}
    (h : (opener ks).Reads c d) : StandsAt (Opener ks) c.before c.rest := by
  obtain ⟨e, ⟨rfl, hedge⟩, hkeywords⟩ := reads_sequence_cons.mp h
  obtain ⟨s, hs, hpassed⟩ := opener_of_reads hne hkeywords
  obtain ⟨x, more, rfl, hword⟩ := hs.head hks
  exact ⟨(atWordEdge_iff_of_isWord hpassed.rest hword).mp hedge, _, hs, ⟨_, hpassed.rest.symm⟩⟩

theorem opener_announces {k : Text} (hk : Text.IsKeyword k) : (opener [k]).Announces k := by
  intro c d hd
  obtain ⟨hbefore, s, hs, rest, hrest⟩ := standsAt_of_reads (by simp) (by simpa using hk) hd
  refine ⟨[], c.rest, rfl, by simp, fun _ => hbefore, ?_⟩
  cases hs with
  | @last _ s blanks hletters hblanks =>
    rw [← hrest, List.append_assoc]
    refine Text.spells_of_sameLetters hletters ?_
    cases blanks with
    | nil => exact (by decide : Text.isWord '(' = false)
    | cons b blanks => simpa using Text.isWord_of_isBlank (hblanks b List.mem_cons_self)
  | more _ _ _ ht => cases ht

theorem run_opener {next : Cursor → Option Cursor} {before s : Text} (hks : ∀ k ∈ ks, Text.IsKeyword k)
    (hs : Opener ks s) (hbefore : before.head?.any Text.isWord = false) (rest : Text) (position : Nat)
    (groups : List Capture) : (opener ks).run next ⟨before, s ++ rest, position, groups⟩ =
      next ⟨s.reverse ++ before, rest, position + s.length, groups⟩ := by
  obtain ⟨x, more, hx, hword⟩ := hs.head hks
  have hedge : Cursor.atWordEdge ⟨before, s ++ rest, position, groups⟩ = true :=
    (atWordEdge_iff_of_isWord (congrArg (· ++ rest) hx) hword).mpr hbefore
  rw [opener, run_sequence_cons, run, if_pos hedge, run_openerParts hs hks]

theorem opener_finds (hne : ks ≠ []) (hks : ∀ k ∈ ks, Text.IsKeyword k) :
    (opener ks).Finds (Opener ks) := by
  intro c
  constructor
  · intro h
    obtain ⟨m, hm⟩ := Option.isSome_iff_exists.mp h
    exact standsAt_of_reads hne hks (reads_of_matchAt? hm).2
  · rintro ⟨hbefore, s, hs, rest, hrest⟩
    obtain ⟨before, t, position, groups⟩ := c
    obtain rfl : s ++ rest = t := hrest
    rw [matchAt?, run_opener hks hs hbefore]
    rfl

theorem misses_opener_of_not_isWord (hne : ks ≠ []) (hks : ∀ k ∈ ks, Text.IsKeyword k) {s : Text}
    (h : ∀ x ∈ s, Text.isWord x = false) (before rest : Text) : (opener ks).Misses before s rest := by
  refine (opener_finds hne hks).misses_iff.mpr fun u v huv hv => ?_
  obtain ⟨x, v, rfl⟩ := List.exists_cons_of_ne_nil hv
  rintro ⟨-, o, ho, hbegins⟩
  obtain ⟨y, more, rfl, hword⟩ := ho.head hks
  obtain rfl := (List.cons_prefix_cons.mp hbegins).1
  rw [h y (by simp [huv])] at hword
  exact absurd hword (by simp)

theorem misses_opener_of_not_mem (hne : ks ≠ []) (hks : ∀ k ∈ ks, Text.IsKeyword k) {s : Text}
    (h : '(' ∉ s) (before : Text) : (opener ks).Misses before s [] := by
  refine (opener_finds hne hks).misses_iff.mpr fun u v huv hv => ?_
  rintro ⟨-, o, ho, hbegins⟩
  obtain ⟨front, rfl, -⟩ := ho.cut hks
  rw [List.append_nil] at hbegins
  exact h (huv ▸ List.mem_append_right u (hbegins.subset (by simp)))

def WordNext (rest : Text) : Prop :=
  ∀ x r, rest = x :: r → x = ' ' ∧ r.head?.any Text.isWord = true

theorem WordNext.head {rest : Text} (h : WordNext rest) : ∀ x ∈ rest.head?, x = ' ' := by
  cases rest with
  | nil => simp
  | cons x r =>
    intro y hy
    obtain rfl : x = y := by simpa using hy
    exact (h x r rfl).1

theorem wordNext_nil : WordNext [] :=
  fun _ _ h => nomatch h

theorem wordNext_cons {r : Text} (h : r.head?.any Text.isWord = true) : WordNext (' ' :: r) := by
  intro x u hu
  obtain ⟨rfl, rfl⟩ := List.cons.inj hu
  exact ⟨rfl, h⟩

theorem Opener.prefix_of_wordNext {k s t rest : Text} (hk : Text.IsKeyword k) (hs : Opener [k] s)
    (hne : t ≠ []) (hrest : WordNext rest) (h : s <+: t ++ rest) : s <+: t := by
  rcases List.prefix_or_prefix_of_prefix h (List.prefix_append t rest) with hpre | ⟨r, rfl⟩
  · exact hpre
  · obtain ⟨more, rfl⟩ := (List.prefix_append_right_inj t).mp h
    have hks : ∀ w ∈ [k], Text.IsKeyword w := by simpa using hk
    obtain ⟨front, hfront, -, hall⟩ := hs.cut hks
    cases r with
    | nil => simp
    | cons x r =>
      obtain ⟨rfl, hword⟩ := hrest x (r ++ more) rfl
      rcases List.eq_nil_or_concat r with rfl | ⟨init, z, rfl⟩
      · have hlast := congrArg List.getLast? hfront
        simp at hlast
      · rw [List.concat_eq_append] at hfront hword
        obtain ⟨rfl, rfl⟩ : t ++ ' ' :: init = front ∧ z = '(' := by
          have hconcat : (t ++ ' ' :: init) ++ [z] = front ++ ['('] := by simpa using hfront
          simpa using List.append_inj' hconcat rfl
        obtain ⟨y, u, hy, hyword⟩ := hs.head hks
        obtain ⟨c, t, rfl⟩ := List.exists_cons_of_ne_nil hne
        obtain rfl : c = y := (List.cons.inj hy).1
        have hfirst := Text.words_ne_nil (Text.not_blank_of_isWord hyword) t
        have hsecond : Text.words init ≠ [] := by
          cases init with
          | nil => exact absurd hword (by simp; decide)
          | cons d init => exact Text.words_ne_nil (Text.not_blank_of_isWord (by simpa using hword)) init
        have hlength := hall.length_eq
        rw [Text.words_append_blank (by decide), List.length_append] at hlength
        have := List.length_pos_iff.mpr hfirst
        have := List.length_pos_iff.mpr hsecond
        simp only [List.length_singleton] at hlength
        omega

theorem forall₂_shared {α β : Type} {R : α → β → Prop} {l m : List α} {u : List β}
    (hl : List.Forall₂ R l u) (hm : List.Forall₂ R m u) :
    List.Forall₂ (fun a b => ∃ x, R a x ∧ R b x) l m := by
  induction hl generalizing m with
  | nil =>
    cases hm
    exact .nil
  | cons ha _ ih =>
    cases hm with
    | cons hb hm => exact .cons ⟨_, ha, hb⟩ (ih hm)

theorem endsAtParen_opener (hks : ∀ k ∈ ks, Text.IsKeyword k) :
    EndsAtParen (Opener ks) := by
  intro s hs
  obtain ⟨front, rfl, hfront, -⟩ := hs.cut hks
  have houtside : ∀ x, Text.isWord x = false → Text.isBlank x = false → x ∉ front := by
    intro x hword hblank hm
    rcases hfront x hm with h | h
    · exact absurd (hword.symm.trans h) (by simp)
    · exact absurd (hblank.symm.trans h) (by simp)
  exact ⟨front, rfl, houtside '(' (by decide) (by decide), houtside ')' (by decide) (by decide)⟩

theorem misses_opener_of_not_holds {k t rest before : Text} (hk : Text.IsKeyword k)
    (ht : ¬Holds (Opener [k]) t) (hrest : WordNext rest) (hbefore : before.head?.any Text.isWord = false) :
    (opener [k]).Misses before t rest := by
  have hks : ∀ w ∈ [k], Text.IsKeyword w := List.forall_mem_singleton.mpr hk
  have hfinds : (opener [k]).Finds (Opener [k]) := opener_finds (by simp) hks
  have halone : (opener [k]).Misses [] t [] := (hfinds.misses_iff_not_holds (endsAtParen_opener hks)).mpr ht
  refine (hfinds.misses_of_not_isWord hbefore).mpr (hfinds.misses_iff.mpr fun u v huv hv => ?_)
  rintro ⟨hedge, s, hs, hpre⟩
  refine hfinds.misses_iff.mp halone u v huv hv ⟨hedge, s, hs, ?_⟩
  rw [List.append_nil]
  exact hs.prefix_of_wordNext hk hv hrest hpre

/-- Where one opener ends another one behind a blank, its keywords are the last ones of the other, which
has more of them. -/
theorem Opener.keywords_of_append {ks' : List Text} {a s : Text} {b : Char}
    (h : Opener ks (a ++ b :: s)) (h' : Opener ks' s) (hb : Text.isBlank b = true)
    (hks : ∀ k ∈ ks, Text.IsKeyword k) (hks' : ∀ k ∈ ks', Text.IsKeyword k) :
    ks'.length < ks.length ∧ List.Forall₂ (fun k k' => ∃ w, Text.SameLetters k w ∧ Text.SameLetters k' w)
      (ks.drop (ks.length - ks'.length)) ks' := by
  obtain ⟨x, more, hx, hword⟩ := h.head hks
  obtain ⟨front, hfront, -, hall⟩ := h.cut hks
  obtain ⟨front', rfl, -, hall'⟩ := h'.cut hks'
  obtain rfl : front = a ++ b :: front' := by
    have : a ++ b :: front' ++ ['('] = front ++ ['('] := by simpa using hfront
    exact (List.append_cancel_right this).symm
  rw [Text.words_append_blank hb] at hall
  -- the outer opener begins with a word, which the inner one does not have
  have hpos : 0 < (Text.words a).length := by
    cases a with
    | nil =>
      obtain rfl : b = x := (List.cons.inj hx).1
      rw [Text.not_blank_of_isWord hword] at hb
      exact absurd hb (by simp)
    | cons y a =>
      obtain rfl : y = x := (List.cons.inj hx).1
      exact List.length_pos_iff.mpr (Text.words_ne_nil (Text.not_blank_of_isWord hword) a)
  have hlength := hall.length_eq
  rw [List.length_append, ← hall'.length_eq] at hlength
  refine ⟨by omega, ?_⟩
  have hlast := List.forall₂_drop_append _ _ _ hall
  rw [show ks.length - ks'.length = (Text.words a).length by omega]
  generalize ks.drop (Text.words a).length = later at hlast
  exact forall₂_shared hlast hall'

end DdlAtlas.Pattern
