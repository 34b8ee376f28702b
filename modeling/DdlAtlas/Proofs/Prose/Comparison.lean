import DdlAtlas.Proofs.Pattern.Language
import DdlAtlas.Proofs.Text.Letters
import DdlAtlas.Prose.Idiom

/-!
# Comparisons in a predicate

The pattern of a comparison reads its two sides in any letter case, with any blanks around the sign between them.
An occurrence in a predicate thus begins its right side behind one of the signs of the predicate, and what stands
there decides which columns can be meant.
-/

namespace DdlAtlas.Prose

open Pattern

/-- A comparison as it may be written: both sides in some letter case, and blanks around the sign. -/
inductive Comparison (left right : Text) : Text → Prop
  | mk {a b blanks blanks' : Text} (hleft : Text.SameLetters left a)
      (hblanks : ∀ x ∈ blanks, Text.isBlank x = true) (hblanks' : ∀ x ∈ blanks', Text.isBlank x = true)
      (hright : Text.SameLetters right b) : Comparison left right (a ++ (blanks ++ '=' :: (blanks' ++ b)))

structure IsSide (w : Text) : Prop where
  ne_nil : w ≠ []
  ascii : w.IsAscii
  unbroken : Text.Unbroken (Text.folded w)
  signless : '=' ∉ Text.folded w

instance (w : Text) : Decidable (IsSide w) :=
  decidable_of_iff (w ≠ [] ∧ w.IsAscii ∧ Text.Unbroken (Text.folded w) ∧ '=' ∉ Text.folded w)
    ⟨fun h => ⟨h.1, h.2.1, h.2.2.1, h.2.2.2⟩, fun h => ⟨h.ne_nil, h.ascii, h.unbroken, h.signless⟩⟩

namespace IsSide

variable {w s : Text}

theorem unbroken_of_sameLetters (h : IsSide w) (hs : Text.SameLetters w s) : Text.Unbroken s :=
  not_blank_of_sameLetters hs h.unbroken

theorem ne_nil_of_sameLetters (h : IsSide w) (hs : Text.SameLetters w s) : s ≠ [] := by
  rintro rfl
  exact h.ne_nil (List.forall₂_nil_right_iff.mp hs)

theorem head?_not_blank (h : IsSide w) (hs : Text.SameLetters w s) (rest : Text) :
    ∀ x ∈ (s ++ rest).head?, Text.isBlank x = false :=
  head?_append_not_blank (h.ne_nil_of_sameLetters hs) (h.unbroken_of_sameLetters hs)

theorem not_mem_of_sameLetters (h : IsSide w) (hs : Text.SameLetters w s) : '=' ∉ s := by
  intro hmem
  refine h.signless ?_
  rw [← (Text.sameLetters_iff h.ascii).mp hs]
  exact List.mem_map_of_mem hmem

end IsSide

variable {left right : Text}

theorem takes_equation (hright : IsSide right) : (equation left right).Takes (Comparison left right) where
  reads {c d} h := by
    simp only [equation, reads_sequence_cons] at h
    obtain ⟨e, hleft, f, hgap, g, hsign, k, hgap', l, hword, hd⟩ := h
    obtain rfl : d = l := hd
    obtain ⟨a, ha, hletters⟩ := reads_word hleft
    obtain ⟨blanks, hpassed, hblanks, -⟩ := reads_solid hgap
    obtain ⟨blanks', hpassed', hblanks', -⟩ := reads_solid hgap'
    obtain ⟨b, hb, hletters'⟩ := reads_word hword
    have hstretch := ha.trans (hpassed.trans ((reads_exactly hsign).trans (hpassed'.trans hb)))
    exact ⟨_, .mk hletters hblanks hblanks' hletters', hstretch⟩
  run {s} hs next before rest position groups := by
    obtain ⟨hletters, hblanks, hblanks', hletters'⟩ := hs
    rename_i a b blanks blanks'
    have hsign : ∀ x ∈ ("=" ++ (blanks' ++ (b ++ rest)) : Text).head?, Text.isBlank x = false := by
      intro x hx
      obtain rfl : '=' = x := by simpa using hx
      decide
    have hshape : a ++ (blanks ++ '=' :: (blanks' ++ b)) ++ rest =
        a ++ (blanks ++ ("=" ++ (blanks' ++ (b ++ rest)))) := by
      simp
    rw [hshape, equation, run_sequence_cons, run_sameLetters hletters, run_sequence_cons]
    refine (run_solid hblanks hsign).trans ?_
    rw [run_sequence_cons, run_exactly, run_sequence_cons]
    refine (run_solid hblanks' (hright.head?_not_blank hletters' rest)).trans ((run_sameLetters hletters').trans ?_)
    simp [Nat.add_assoc, Nat.add_comm 1]

theorem eq_or_behind {a b u v : Text} {x : Char} (ha : x ∉ a) (h : u ++ x :: v = a ++ x :: b) :
    (u = a ∧ v = b) ∨ ∃ w, b = w ++ x :: v := by
  rcases List.append_eq_append_iff.mp h with ⟨w, rfl, hw⟩ | ⟨w, rfl, hw⟩
  · cases w with
    | nil => exact .inl ⟨(List.append_nil u).symm, (List.cons.inj hw).2⟩
    | cons y w =>
      obtain rfl := (List.cons.inj hw).1
      exact absurd (List.mem_append_right u List.mem_cons_self) ha
  · cases w with
    | nil => exact .inl ⟨List.append_nil a, ((List.cons.inj hw).2).symm⟩
    | cons y w => exact .inr ⟨w, (List.cons.inj hw).2⟩

theorem Comparison.head?_not_blank {s : Text} (h : Comparison left right s) (hleft : IsSide left) (rest : Text) :
    ∀ x ∈ (s ++ rest).head?, Text.isBlank x = false := by
  obtain ⟨hletters, -, -, -⟩ := h
  rw [List.append_assoc]
  exact hleft.head?_not_blank hletters _

theorem Comparison.getLast?_not_blank {s : Text} (h : Comparison left right s) (hright : IsSide right) :
    s ≠ [] ∧ ∀ x ∈ s.getLast?, Text.isBlank x = false := by
  obtain ⟨-, -, -, hletters⟩ := h
  rename_i a b blanks blanks'
  refine ⟨by simp, fun x hx => hright.unbroken_of_sameLetters hletters x (List.mem_of_mem_getLast? ?_)⟩
  have hshape : a ++ (blanks ++ '=' :: (blanks' ++ b)) = (a ++ (blanks ++ '=' :: blanks')) ++ b := by
    simp
  rwa [hshape, List.getLast?_append_of_ne_nil _ (hright.ne_nil_of_sameLetters hletters)] at hx

theorem signless_of_isBlank {t : Text} (h : ∀ x ∈ t, Text.isBlank x = true) : '=' ∉ t :=
  fun hmem => absurd (h _ hmem) (by decide)

theorem Comparison.exists_cut {s : Text} (h : Comparison left right s) (hleft : IsSide left) (hright : IsSide right) :
    ∃ u v b, s = u ++ '=' :: v ∧ '=' ∉ u ∧ '=' ∉ v ∧ Text.SameLetters right b ∧
      ∀ rest, Text.trimStart (v ++ rest) = b ++ rest := by
  obtain ⟨hletters, hblanks, hblanks', hletters'⟩ := h
  rename_i a b blanks blanks'
  refine ⟨a ++ blanks, blanks' ++ b, b, by simp, ?_, ?_, hletters', fun rest => ?_⟩
  · exact List.not_mem_append (hleft.not_mem_of_sameLetters hletters) (signless_of_isBlank hblanks)
  · exact List.not_mem_append (signless_of_isBlank hblanks') (hright.not_mem_of_sameLetters hletters')
  · rw [List.append_assoc]
    exact (List.dropWhile_append_of_pos hblanks').trans
      (Text.trimStart_eq_self (hright.head?_not_blank hletters' rest))

theorem exists_cut_of_occursIn {t : Text} (hleft : IsSide left) (hright : IsSide right)
    (h : (equation left right).occursIn t = true) :
    ∃ u v, t = u ++ '=' :: v ∧ Text.Begins right (Text.trimStart v) := by
  obtain ⟨s, hs, before, rest, rfl⟩ := (takes_equation hright).occursIn_iff.mp h
  obtain ⟨u, v, b, rfl, -, -, hletters, htrim⟩ := hs.exists_cut hleft hright
  refine ⟨before ++ u, v ++ rest, by simp, b, hletters, ?_⟩
  rw [htrim]
  exact List.prefix_append b rest

theorem Comparison.behind_cut {s u v : Text} (h : Comparison left right s) (hleft : IsSide left)
    (hright : IsSide right) (hs : s = u ++ '=' :: v) : '=' ∉ v ∧ Text.SameLetters right (Text.trimStart v) := by
  obtain ⟨u', v', b, rfl, hu, hv, hletters, htrim⟩ := h.exists_cut hleft hright
  rcases eq_or_behind hu hs.symm with ⟨-, rfl⟩ | ⟨w, rfl⟩
  · have htrim' := htrim []
    rw [List.append_nil, List.append_nil] at htrim'
    exact ⟨hv, htrim' ▸ hletters⟩
  · exact absurd (List.mem_append_right w List.mem_cons_self) hv

theorem Comparison.occursIn_iff {column s : Text} (h : Comparison left right s) (hleft : IsSide left)
    (hright : IsSide right) (hcolumn : IsSide column) :
    (equation left column).occursIn s = true ↔ Text.folded column <+: Text.folded right := by
  have hread : ∀ {b}, Text.SameLetters right b → (Text.Begins column b ↔ Text.folded column <+: Text.folded right) :=
    fun hb => by rw [Text.begins_iff hcolumn.ascii, (Text.sameLetters_iff hright.ascii).mp hb]
  constructor
  · intro hoccurs
    obtain ⟨u, v, hcut, hbegins⟩ := exists_cut_of_occursIn hleft hcolumn hoccurs
    obtain ⟨-, hletters⟩ := h.behind_cut hleft hright hcut
    exact (hread hletters).mp hbegins
  · intro hbegins
    obtain ⟨hletters, hblanks, hblanks', hletters'⟩ := h
    rename_i a b blanks blanks'
    obtain ⟨c, hc, rest, rfl⟩ := (hread hletters').mpr hbegins
    exact (takes_equation hcolumn).occursIn_iff.mpr ⟨_, .mk hletters hblanks hblanks' hc, [], rest, by simp⟩

end DdlAtlas.Prose
