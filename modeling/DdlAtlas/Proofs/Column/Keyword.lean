import DdlAtlas.Proofs.Pattern.Language
import DdlAtlas.Sql.Declaration

/-!
# The keywords of default values and conditions

A default value begins behind DEFAULT and a blank, unless BY stands right in front of the keyword, and a condition
behind CHECK and a parenthesis. A text holds such a beginning or not whatever the search for it does, and the search
tells which of the two it is.
-/

namespace DdlAtlas.Sql

open Pattern

def EndsInBy (q : Text) : Prop :=
  ∃ a x y, q = a ++ [x, y] ∧ Text.sameLetter 'B' x = true ∧ Text.sameLetter 'Y' y = true ∧
    a.reverse.head?.any Text.isWord = false

def BehindBy (u : Text) : Prop :=
  ∃ q b, u = q ++ [b] ∧ Text.isBlank b = true ∧ EndsInBy q

def DefaultFront (s : Text) : Prop :=
  ∃ w b, s = w ++ [b] ∧ Text.SameLetters "DEFAULT" w ∧ Text.isBlank b = true

def HoldsDefault (t : Text) : Prop :=
  ∃ u v, t = u ++ v ∧ StandsAt DefaultFront u.reverse v ∧ ¬BehindBy u

def HoldsCheck (t : Text) : Prop :=
  Holds (Opener ["CHECK"]) t

theorem not_endsInBy_of_not_mentions {q : Text} (h : Text.mentions "BY" none q = false) : ¬EndsInBy q := by
  rintro ⟨a, x, y, rfl, hx, hy, hbefore⟩
  have hbehind : Text.mentions "BY" (a.reverse ++ []).head? [x, y] = false :=
    Text.not_mentions_behind h
  rw [List.append_nil] at hbehind
  have := Text.not_spells_of_not_mentions hbehind hbefore (by decide)
  simp [Text.spells, hx, hy] at this

theorem behindBy_append_blank {q : Text} {b : Char} (hb : Text.isBlank b = true) :
    BehindBy (q ++ [b]) ↔ EndsInBy q := by
  refine ⟨?_, fun h => ⟨q, b, rfl, hb, h⟩⟩
  rintro ⟨q', b', heq, -, h⟩
  obtain ⟨rfl, -⟩ := List.append_inj' heq rfl
  exact h

theorem endsInBy_of_reads {a : Text} {x y b : Char} {rest : Text} {position : Nat} {groups : List Capture}
    {d : Cursor} (h : (sequence [wordEdge, word "BY", one Text.isBlank]).Reads
      ⟨a, x :: y :: b :: rest, position, groups⟩ d) :
    EndsInBy (a.reverse ++ [x, y]) ∧ Text.isBlank b = true := by
  obtain ⟨c, ⟨rfl, hedge⟩, hletters⟩ := reads_sequence_cons.mp h
  obtain ⟨e, hword, z, more, hz, hblank, -⟩ := reads_sequence_cons.mp hletters
  obtain ⟨s, hpassed, hs⟩ := reads_word hword
  have hby : Text.SameLetters ['B', 'Y'] s := hs
  obtain ⟨x', t, hx, ht, rfl⟩ := List.forall₂_cons_left_iff.mp hby
  obtain ⟨y', u, hy, hu, rfl⟩ := List.forall₂_cons_left_iff.mp ht
  obtain rfl := List.forall₂_nil_left_iff.mp hu
  have hrest : x :: y :: b :: rest = [x', y'] ++ e.rest := hpassed.rest
  obtain ⟨rfl, rfl, rfl, -⟩ : x = x' ∧ y = y' ∧ b = z ∧ rest = more := by simpa [hz] using hrest
  have hbefore := (atWordEdge_iff_of_sameLetters (by decide) hs hpassed.rest).mp hedge
  exact ⟨⟨a.reverse, x, y, rfl, hx, hy, by rwa [List.reverse_reverse]⟩, hblank⟩

theorem notBehind_iff {c : Cursor} : ((c.back? 3).bind
    ((sequence [wordEdge, word "BY", one Text.isBlank]).run some)) = none ↔ ¬BehindBy c.before.reverse := by
  obtain ⟨before, rest, position, groups⟩ := c
  constructor
  · rintro hnone ⟨q, b, hbefore, hb, a, x, y, rfl, hx, hy, hedge⟩
    obtain rfl : before = b :: y :: x :: a.reverse := by simpa using congrArg List.reverse hbefore
    have hletters : Text.SameLetters "BY" [x, y] := .cons hx (.cons hy .nil)
    have hatEdge : Cursor.atWordEdge ⟨a.reverse, [x, y] ++ b :: rest, position - 1 - 1 - 1, groups⟩ = true :=
      (atWordEdge_iff_of_sameLetters (by decide) hletters rfl).mpr hedge
    simp only [Cursor.back?, Option.bind_some] at hnone
    rw [show x :: y :: b :: rest = [x, y] ++ b :: rest from rfl, run_sequence_cons, run, if_pos hatEdge,
      run_sequence_cons, run_sameLetters hletters] at hnone
    simp [Pattern.sequence, run, hb] at hnone
  · intro hby
    rcases before with _ | ⟨b, _ | ⟨y, _ | ⟨x, a⟩⟩⟩
    · rfl
    · rfl
    · rfl
    · simp only [Cursor.back?, Option.bind_some]
      refine run_eq_none_of_reads fun d hd => hby ?_
      obtain ⟨hends, hb⟩ := endsInBy_of_reads hd
      exact ⟨a.reverse ++ [x, y], b, by simp, hb, hends⟩

theorem standsAt_default_of_reads {c d : Cursor} (h : defaultKeyword.Reads c d) :
    StandsAt DefaultFront c.before c.rest ∧ ¬BehindBy c.before.reverse := by
  obtain ⟨c', ⟨rfl, hby⟩, hedged⟩ := reads_sequence_cons.mp h
  obtain ⟨c, ⟨rfl, hedge⟩, hletters⟩ := reads_sequence_cons.mp hedged
  obtain ⟨e, hword, hspace⟩ := reads_sequence_cons.mp hletters
  obtain ⟨w, hpassed, hw⟩ := reads_word hword
  obtain ⟨blanks, hblanks, hne, hblank, -⟩ := reads_space hspace
  obtain ⟨b, blanks, rfl⟩ := List.exists_cons_of_ne_nil hne
  have hrest : c.rest = w ++ b :: (blanks ++ d.rest) := by rw [hpassed.rest, hblanks.rest, List.cons_append]
  have hbefore := (atWordEdge_iff_of_sameLetters (by decide) hw hpassed.rest).mp hedge
  refine ⟨⟨hbefore, w ++ [b], ⟨w, b, rfl, hw, hblank b List.mem_cons_self⟩, blanks ++ d.rest, ?_⟩, notBehind_iff.mp hby⟩
  rw [hrest, List.append_assoc, List.singleton_append]

theorem defaultKeyword_announces : defaultKeyword.Announces "DEFAULT" := by
  intro c d hd
  obtain ⟨⟨hbefore, s, ⟨w, b, rfl, hw, hb⟩, rest, hrest⟩, -⟩ := standsAt_default_of_reads hd
  refine ⟨[], c.rest, rfl, by simp, fun _ => hbefore, ?_⟩
  rw [← hrest, List.append_assoc]
  exact Text.spells_of_sameLetters hw (by simpa using Text.isWord_of_isBlank hb)

theorem run_defaultKeyword {before w rest : Text} (hw : Text.SameLetters "DEFAULT" w)
    (hedge : before.head?.any Text.isWord = false) (hby : ¬BehindBy before.reverse)
    (next : Cursor → Option Cursor) (position : Nat) :
    defaultKeyword.run next ⟨before, w ++ rest, position, []⟩ =
      (sequence [space]).run next ⟨w.reverse ++ before, rest, position + w.length, []⟩ := by
  have hatEdge : Cursor.atWordEdge ⟨before, w ++ rest, position, []⟩ = true :=
    (atWordEdge_iff_of_sameLetters (by decide) hw rfl).mpr hedge
  rw [defaultKeyword, run_sequence_cons, run, notBehind_iff.mpr hby]
  simp only [Option.isSome_none, Bool.false_eq_true, if_false]
  rw [run_sequence_cons, run, if_pos hatEdge, run_sequence_cons, run_sameLetters hw]

theorem occursIn_default_iff {t : Text} : defaultKeyword.occursIn t = true ↔ HoldsDefault t := by
  rw [occursIn_iff_cut]
  constructor
  · rintro ⟨u, v, rfl, hmatch⟩
    obtain ⟨m, hm⟩ := Option.isSome_iff_exists.mp hmatch
    have hstands := standsAt_default_of_reads (reads_of_matchAt? hm).2
    exact ⟨u, v, rfl, hstands.1, by simpa using hstands.2⟩
  · rintro ⟨u, v, rfl, ⟨hedge, s, ⟨w, b, rfl, hw, hb⟩, rest, rfl⟩, hby⟩
    refine ⟨u, w ++ [b] ++ rest, rfl, ?_⟩
    rw [matchAt?, List.append_assoc, List.singleton_append,
      run_defaultKeyword hw hedge (by rwa [List.reverse_reverse])]
    simp [Pattern.sequence, space, solid1, run, hb]

theorem isKeyword_check : ∀ k ∈ (["CHECK"] : List Text), Text.IsKeyword k :=
  List.forall_mem_singleton.mpr (by decide)

theorem checkKeyword_finds : checkKeyword.Finds (Opener ["CHECK"]) :=
  opener_finds (by simp) isKeyword_check

theorem checkKeyword_announces : checkKeyword.Announces "CHECK" :=
  opener_announces (by decide)

theorem occursIn_check_iff {t : Text} : checkKeyword.occursIn t = true ↔ HoldsCheck t :=
  checkKeyword_finds.occursIn_iff

instance (t : Text) : Decidable (HoldsDefault t) :=
  decidable_of_iff _ occursIn_default_iff

instance (t : Text) : Decidable (HoldsCheck t) :=
  decidable_of_iff _ occursIn_check_iff

end DdlAtlas.Sql
