import DdlAtlas.Proofs.Prose.Catalogue
import DdlAtlas.Proofs.Prose.Comparison

/-!
# Two-sided comparisons

A predicate that lets the two sides of a message see it compares the user with both of them. The pattern for it
has the sender first. In this order the sentence names both sides, however the predicate is written. In the other
order the pattern is found nowhere, and the sentence speaks of the sender alone.
-/

namespace DdlAtlas.Prose

open Pattern

/-- Two comparisons of the same left side with the word OR between them, in some letter case and spacing. -/
inductive Alternatives (left first second : Text) : Text → Prop
  | mk {x y o blanks blanks' : Text} (hfirst : Comparison left first x) (hne : blanks ≠ [])
      (hblanks : ∀ c ∈ blanks, Text.isBlank c = true) (hor : Text.SameLetters "OR" o) (hne' : blanks' ≠ [])
      (hblanks' : ∀ c ∈ blanks', Text.isBlank c = true) (hsecond : Comparison left second y) :
      Alternatives left first second (x ++ (blanks ++ (o ++ (blanks' ++ y))))

def alternatives (left first second : Text) : Pattern :=
  sequence [equation left first, space, word "OR", space, equation left second]

theorem isSide_or : IsSide "OR" := by
  decide

theorem isSide_user : IsSide "auth.uid()" := by
  decide

variable {left first second s : Text}

theorem takes_alternatives (hleft : IsSide left) (hfirst : IsSide first) (hsecond : IsSide second) :
    (alternatives left first second).Takes (Alternatives left first second) where
  reads {c d} h := by
    simp only [alternatives, reads_sequence_cons] at h
    obtain ⟨e, hread, f, hspace, g, hor, k, hspace', l, hread', hd⟩ := h
    obtain rfl : d = l := hd
    obtain ⟨x, hx, hpassed⟩ := (takes_equation hfirst).reads hread
    obtain ⟨blanks, hpassed₁, hne, hblanks, -⟩ := reads_space hspace
    obtain ⟨o, hpassed₂, ho⟩ := reads_word hor
    obtain ⟨blanks', hpassed₃, hne', hblanks', -⟩ := reads_space hspace'
    obtain ⟨y, hy, hpassed₄⟩ := (takes_equation hsecond).reads hread'
    have hstretch := hpassed.trans (hpassed₁.trans (hpassed₂.trans (hpassed₃.trans hpassed₄)))
    exact ⟨_, .mk hx hne hblanks ho hne' hblanks' hy, hstretch⟩
  run {s} hs next before rest position groups := by
    obtain ⟨hx, hne, hblanks, ho, hne', hblanks', hy⟩ := hs
    rename_i x y o blanks blanks'
    have hshape : x ++ (blanks ++ (o ++ (blanks' ++ y))) ++ rest =
        x ++ (blanks ++ (o ++ (blanks' ++ (y ++ rest)))) := by
      simp
    rw [hshape, alternatives, run_sequence_cons, (takes_equation hfirst).run hx, run_sequence_cons,
      run_blanks hne hblanks (isSide_or.head?_not_blank ho _), run_sequence_cons, run_sameLetters ho, run_sequence_cons,
      run_blanks hne' hblanks' (hy.head?_not_blank hleft rest)]
    refine ((takes_equation hsecond).run hy ..).trans ?_
    simp [Nat.add_assoc]

theorem exists_cut_of_occursIn_alternatives {t : Text} (hleft : IsSide left) (hfirst : IsSide first)
    (hsecond : IsSide second) (h : (alternatives left first second).occursIn t = true) :
    ∃ u v, t = u ++ '=' :: v ∧ '=' ∈ v ∧ Text.Begins first (Text.trimStart v) := by
  obtain ⟨s, hs, before, rest, rfl⟩ := (takes_alternatives hleft hfirst hsecond).occursIn_iff.mp h
  obtain ⟨hx, -, -, -, -, -, hy⟩ := hs
  rename_i o blanks blanks'
  obtain ⟨u, v, b, rfl, -, -, hletters, htrim⟩ := hx.exists_cut hleft hfirst
  obtain ⟨u', v', -, rfl, -⟩ := hy.exists_cut hleft hsecond
  refine ⟨before ++ u, v ++ (blanks ++ (o ++ (blanks' ++ (u' ++ '=' :: v'))) ++ rest), by simp, by simp,
    b, hletters, ?_⟩
  rw [htrim]
  exact List.prefix_append _ _

namespace Alternatives

theorem behind_cut (h : Alternatives left first second s) (hleft : IsSide left) (hfirst : IsSide first)
    (hsecond : IsSide second) {u v : Text} (hs : s = u ++ '=' :: v) :
    ('=' ∈ v ∧ Text.Begins first (Text.trimStart v)) ∨ ('=' ∉ v ∧ Text.Begins second (Text.trimStart v)) := by
  obtain ⟨hx, -, hblanks, ho, -, hblanks', hy⟩ := h
  rename_i o blanks blanks'
  obtain ⟨u₁, v₁, b₁, rfl, hu₁, hv₁, hletters₁, htrim₁⟩ := hx.exists_cut hleft hfirst
  obtain ⟨u₂, v₂, b₂, rfl, hu₂, hv₂, hletters₂, htrim₂⟩ := hy.exists_cut hleft hsecond
  have hbetween : '=' ∉ v₁ ++ (blanks ++ (o ++ (blanks' ++ u₂))) := by
    simp [hv₁, signless_of_isBlank hblanks, isSide_or.not_mem_of_sameLetters ho, signless_of_isBlank hblanks', hu₂]
  have hcut : u ++ '=' :: v = u₁ ++ '=' :: (v₁ ++ (blanks ++ (o ++ (blanks' ++ u₂))) ++ '=' :: v₂) := by
    rw [← hs]
    simp
  rcases eq_or_behind hu₁ hcut with ⟨-, rfl⟩ | ⟨w, hw⟩
  · refine .inl ⟨by simp, b₁, hletters₁, ?_⟩
    rw [List.append_assoc, htrim₁]
    exact List.prefix_append _ _
  · rcases eq_or_behind hbetween hw.symm with ⟨-, rfl⟩ | ⟨w', rfl⟩
    · have htrim := htrim₂ []
      rw [List.append_nil, List.append_nil] at htrim
      exact .inr ⟨hv₂, b₂, hletters₂, htrim ▸ List.prefix_rfl⟩
    · exact absurd (List.mem_append_right w' List.mem_cons_self) hv₂

theorem not_occursIn_equation (h : Alternatives left first second s) (hleft : IsSide left) (hfirst : IsSide first)
    (hsecond : IsSide second) {column : Text} (hcolumn : IsSide column) (hapart : Text.Apart column first)
    (hapart' : Text.Apart column second) : (equation left column).occursIn s = false := by
  refine Bool.eq_false_iff.mpr fun hoccurs => ?_
  obtain ⟨u, v, hcut, hbegins⟩ := exists_cut_of_occursIn hleft hcolumn hoccurs
  rcases h.behind_cut hleft hfirst hsecond hcut with ⟨-, hside⟩ | ⟨-, hside⟩
  · exact hapart.not_begins hcolumn.ascii hfirst.ascii hbegins hside
  · exact hapart'.not_begins hcolumn.ascii hsecond.ascii hbegins hside

theorem not_occursIn_swapped (h : Alternatives left first second s) (hleft : IsSide left) (hfirst : IsSide first)
    (hsecond : IsSide second) (hapart : Text.Apart second first) :
    (alternatives left second first).occursIn s = false := by
  refine Bool.eq_false_iff.mpr fun hoccurs => ?_
  obtain ⟨u, v, hcut, hsign, hbegins⟩ := exists_cut_of_occursIn_alternatives hleft hsecond hfirst hoccurs
  rcases h.behind_cut hleft hfirst hsecond hcut with ⟨-, hside⟩ | ⟨hnone, -⟩
  · exact hapart.not_begins hsecond.ascii hfirst.ascii hbegins hside
  · exact hnone hsign

theorem occursIn_second (h : Alternatives left first second s) (hsecond : IsSide second) :
    (equation left second).occursIn s = true := by
  obtain ⟨-, -, -, -, -, -, hy⟩ := h
  rename_i x y o blanks blanks'
  exact (takes_equation hsecond).occursIn_iff.mpr ⟨y, hy, x ++ (blanks ++ (o ++ blanks')), [], by simp⟩

theorem trim_eq (h : Alternatives left first second s) (hleft : IsSide left) (hsecond : IsSide second)
    {blanks blanks' : Text} (hblanks : ∀ x ∈ blanks, Text.isBlank x = true)
    (hblanks' : ∀ x ∈ blanks', Text.isBlank x = true) : Text.trim (blanks ++ (s ++ blanks')) = s := by
  obtain ⟨hx, -, -, -, -, -, hy⟩ := h
  refine Text.trim_surrounded hblanks hblanks' ?_ ?_
  · rw [List.append_assoc]
    exact hx.head?_not_blank hleft _
  · obtain ⟨hne, hlast⟩ := hy.getLast?_not_blank hsecond
    rwa [← List.append_assoc, ← List.append_assoc, ← List.append_assoc, List.getLast?_append_of_ne_nil _ hne]

end Alternatives

section Messages

variable {blanks blanks' : Text}

theorem Alternatives.not_owner (h : Alternatives "auth.uid()" first second s)
    (hcolumns : first = "sender_id" ∧ second = "recipient_id" ∨ first = "recipient_id" ∧ second = "sender_id") :
    ∀ e ∈ usingIdioms.take 2, e.pattern.occursIn s = false := by
  have hmissed : ∀ column : Text, IsSide column → Text.Apart column "sender_id" → Text.Apart column "recipient_id" →
      (userIs column).occursIn s = false := by
    intro column hcolumn hapart hapart'
    rcases hcolumns with ⟨rfl, rfl⟩ | ⟨rfl, rfl⟩
    · exact h.not_occursIn_equation isSide_user (by decide) (by decide) hcolumn hapart hapart'
    · exact h.not_occursIn_equation isSide_user (by decide) (by decide) hcolumn hapart' hapart
  refine List.forall_mem_cons.mpr ⟨hmissed "user_id" ?_ ?_ ?_, List.forall_mem_singleton.mpr (hmissed "id" ?_ ?_ ?_)⟩
  all_goals decide

/-- A predicate that names both sides of a message, written in some letter case and spacing, is described by both
sides just when the sender comes first. In the other order it is described by the sender alone. -/
theorem describeUsing_alternatives
    (hcolumns : first = "sender_id" ∧ second = "recipient_id" ∨ first = "recipient_id" ∧ second = "sender_id")
    (hs : Alternatives "auth.uid()" first second s) (hblanks : ∀ x ∈ blanks, Text.isBlank x = true)
    (hblanks' : ∀ x ∈ blanks', Text.isBlank x = true) :
    (describeUsing (blanks ++ (s ++ blanks')) = "only messages they sent or received" ∧
        describeUsing (blanks ++ (s ++ blanks')) ≠ "only messages they sent" ∧
        describeUsing (blanks ++ (s ++ blanks')) ≠ "only messages they received" ↔ first = "sender_id") ∧
      (first = "recipient_id" → describeUsing (blanks ++ (s ++ blanks')) = "only messages they sent") := by
  have hsender : IsSide "sender_id" := by decide
  have hrecipient : IsSide "recipient_id" := by decide
  have howner := hs.not_owner hcolumns
  have hchosen := fun k i (hi : usingIdioms[k]? = some i) =>
    idiom?_map_iff Idiom.fragment hi nodup_fragments_usingIdioms (blanks ++ (s ++ blanks'))
  rcases hcolumns with ⟨rfl, rfl⟩ | ⟨rfl, rfl⟩
  · have hboth : describeUsing (blanks ++ (s ++ blanks')) = "only messages they sent or received" := by
      refine (describeUsing_eq_iff (by decide)).mpr ((hchosen 2 usingIdioms[2] rfl).mpr ?_)
      rw [hs.trim_eq isSide_user hrecipient hblanks hblanks']
      exact ⟨(takes_alternatives isSide_user hsender hrecipient).occursIn_iff.mpr ⟨s, hs, List.infix_rfl⟩, howner⟩
    rw [hboth]
    exact ⟨by decide, fun h => absurd h (by decide)⟩
  · have hsent : describeUsing (blanks ++ (s ++ blanks')) = "only messages they sent" := by
      refine (describeUsing_eq_iff (by decide)).mpr ((hchosen 3 usingIdioms[3] rfl).mpr ?_)
      rw [hs.trim_eq isSide_user hsender hblanks hblanks']
      have hswapped := hs.not_occursIn_swapped isSide_user hrecipient hsender (by decide)
      have htake : usingIdioms.take 3 = usingIdioms.take 2 ++ [usingIdioms[2]] := rfl
      rw [htake, List.forall_mem_append, List.forall_mem_singleton]
      exact ⟨hs.occursIn_second hsender, howner, hswapped⟩
    rw [hsent]
    exact ⟨by decide, fun _ => rfl⟩

def messagePredicate (first second : Text) : Text :=
  ("AUTH.uid()".toList ++ ([] ++ '=' :: ([] ++ first))) ++
    ("\n ".toList ++ ("oR".toList ++ (" ".toList ++ ("auth.UID()".toList ++ (" \t".toList ++ '=' ::
      ("  ".toList ++ second))))))

theorem alternatives_messagePredicate {a b : Text} (ha : Text.SameLetters first a) (hb : Text.SameLetters second b) :
    Alternatives "auth.uid()" first second (messagePredicate a b) := by
  have hblank : ∀ {blanks : Text}, blanks.all Text.isBlank = true → ∀ x ∈ blanks, Text.isBlank x = true :=
    List.all_eq_true.mp
  exact .mk (.mk (by decide) (hblank (by decide)) (hblank (by decide)) ha) (by decide) (hblank (by decide)) (by decide)
    (by decide) (hblank (by decide)) (.mk (by decide) (hblank (by decide)) (hblank (by decide)) hb)

theorem describeUsing_messagePredicate :
    (Alternatives "auth.uid()" "sender_id" "recipient_id" (messagePredicate "Sender_ID" "recipient_id") ∧
      ∀ x ∈ (" \t" : Text), Text.isBlank x = true) ∧
    describeUsing (" \t" ++ (messagePredicate "Sender_ID" "recipient_id" ++ " \t")) =
      "only messages they sent or received" := by
  have hs := @alternatives_messagePredicate "sender_id" "recipient_id" "Sender_ID" "recipient_id"
    (by decide) (by decide)
  have hblanks : ∀ x ∈ (" \t" : Text), Text.isBlank x = true := List.all_eq_true.mp (by decide)
  exact ⟨⟨hs, hblanks⟩, ((describeUsing_alternatives (.inl ⟨rfl, rfl⟩) hs hblanks hblanks).1.mpr rfl).1⟩

theorem describeUsing_recipientFirst :
    describeUsing "auth.uid() = recipient_id OR auth.uid() = sender_id" = "only messages they sent" := by
  decide +kernel

end Messages

end DdlAtlas.Prose
