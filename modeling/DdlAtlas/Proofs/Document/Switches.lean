import DdlAtlas.Proofs.Document.Basic
import DdlAtlas.Proofs.Pattern.Harvest
import DdlAtlas.Sql.Statement

/-!
# The switches of a document

The tables whose row-level security a document switches on are those that its statements name, whatever
stands between them.
-/

namespace DdlAtlas.Sql

open Pattern

def Statement.switched? : Statement → Option Text
  | .enable mention => some mention.table.text
  | .table _ _ | .policy _ _ _ => none

theorem Mention.Proper.head?_append {m : Mention} (h : m.Proper) (rest : Text) :
    ∀ x ∈ (m.written ++ rest).head?, Text.isBlank x = false :=
  head?_append_not_blank (Mention.written_ne_nil h.1) (Mention.not_blank h.1)

theorem Mention.Proper.run_only {m : Mention} (h : m.Proper) {next : Cursor → Option Cursor}
    {before rest : Text} {position : Nat} {groups : List Capture}
    (hrest : ∀ x ∈ rest.head?, Text.isBlank x = false) :
    (sequence [word "ONLY", space]).run next ⟨before, m.written ++ ' ' :: rest, position, groups⟩ =
      none := by
  refine run_eq_none_of_reads fun d hd => ?_
  obtain ⟨hall, -⟩ := reads_word_space hd rfl (by decide) (Mention.not_blank h.1) hrest
  exact h.2.2.2 (folded_of_sameLetters (by decide) hall)

theorem Mention.run_ifClause {m : Mention} (h : m.Named) {w v : Text} {ps : List Pattern}
    {next : Cursor → Option Cursor} {before rest : Text} {position : Nat} {groups : List Capture}
    (hv : ∀ x ∈ (v ++ rest).head?, Text.isBlank x = false)
    (hw : (List.zipWith Text.sameLetter w v).all id = false) :
    (sequence (word "IF" :: space :: word w :: ps)).run next
      ⟨before, m.written ++ ' ' :: (v ++ rest), position, groups⟩ = none := by
  refine run_eq_none_of_reads fun d hd => ?_
  obtain ⟨-, e, he, hd⟩ := reads_word_space hd rfl (by decide) (Mention.not_blank h) hv
  obtain ⟨f, hf, -⟩ := reads_sequence_cons.mp hd
  exact not_reads_word he hw hf

theorem rlsSwitch_of_enable {m : Mention} (h : m.Proper) (position : Nat) (before rest : Text) :
    ∃ r, rlsSwitch.matchAt? ⟨before, (Statement.enable m).core ++ rest, position, []⟩ = some r ∧
      r.group 1 = m.written ∧ r.width = (Statement.enable m).core.length := by
  have hcore : (Statement.enable m).core ++ rest = "ALTER" ++ ' ' :: ("TABLE" ++ ' ' ::
      (m.written ++ ' ' :: ("ENABLE" ++ ' ' :: ("ROW" ++ ' ' :: ("LEVEL" ++ ' ' ::
        ("SECURITY" ++ rest)))))) := by
    simp [Statement.core, Text.concat]
  have hword : ∀ {w : Text} {t : Text}, w ≠ [] → Text.Unbroken w →
      ∀ x ∈ (w ++ t).head?, Text.isBlank x = false := head?_append_not_blank
  have hblank : ∀ t : Text, ∀ x ∈ (' ' :: t).head?, (!Text.isBlank x) = false := by
    intro t x hx
    obtain rfl : ' ' = x := by simpa using hx
    decide
  rw [hcore, matchAt?, rlsSwitch]
  rw [run_sequence_cons, run_word, run_sequence_cons, run_space (hword (by decide) (by decide)),
    run_sequence_cons, run_word, run_sequence_cons, run_space (h.head?_append _),
    run_sequence_cons, run_optional_of_none (Mention.run_ifClause h.1 (hword (by decide) (by decide)) (by decide)),
    run_sequence_cons, run_optional_of_none (h.run_only (hword (by decide) (by decide))),
    run_sequence_cons, run_group_solid1 (Mention.written_ne_nil h.1)
      (fun x hx => by simp [Mention.not_blank h.1 x hx]) (hblank _),
    run_sequence_cons, run_space (hword (by decide) (by decide)),
    run_sequence_cons, run_word, run_sequence_cons, run_space (hword (by decide) (by decide)),
    run_sequence_cons, run_word, run_sequence_cons, run_space (hword (by decide) (by decide)),
    run_sequence_cons, run_word, run_sequence_cons, run_space (hword (by decide) (by decide)),
    run_sequence_cons, run_word, run_sequence_nil]
  refine ⟨_, rfl, by simp [Match.group, Match.group?], ?_⟩
  simp [Match.width, Statement.core, Text.concat]
  omega

theorem harvest_switches {doc : List Statement} (h : ∀ s ∈ doc, s.Canonical) (position : Nat)
    (before : Text) :
    (Cursor.harvest rlsSwitch.front (fun c => (rlsSwitch.matchAt? c).map fun m => (m, m.width)) 0
      position before (written doc)).map (fun m => (QualifiedName.ofText (m.group 1)).name) =
      doc.filterMap Statement.switched? := by
  have hfind : ∀ c : Cursor, ¬Text.folded "ALTER" <+: Text.folded c.rest →
      ((rlsSwitch.matchAt? c).map fun m => (m, m.width)) = none := fun c hc => by
    rw [rlsSwitch, matchAt?_eq_none (by decide) hc, Option.map_none]
  refine harvest_written hfind (by decide) (fun t ht => ht.2.2) ?missed ?found h position before
  case missed =>
    intro s position before rest _ hswitch
    cases s with
    | enable mention => simp [Statement.switched?] at hswitch
    | table mention body | policy name mention body => rfl
  case found =>
    intro s name position before rest hs hswitch
    cases s with
    | table mention body | policy name mention body => simp [Statement.switched?] at hswitch
    | enable mention =>
      obtain rfl : mention.table.text = name := Option.some.inj hswitch
      obtain ⟨r, hr, hgroup, hwidth⟩ := rlsSwitch_of_enable hs position before (';' :: '\n' :: rest)
      refine ⟨rfl, r, ?_, ?_⟩
      · rw [hr, Option.map_some, hwidth]
      · rw [hgroup, Mention.ofText_written hs.1]

end DdlAtlas.Sql
