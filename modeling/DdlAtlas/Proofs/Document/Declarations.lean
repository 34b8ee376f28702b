import DdlAtlas.Proofs.Document.Switches

/-!
# The table declarations of a document

Each table declaration of a document is found with the body that its parentheses enclose, and nothing
else is taken for one.
-/

namespace DdlAtlas.Sql

open Pattern

def Statement.head? : Statement → Option TableHead
  | .table mention body => some (.closed (.ofHead mention.written body))
  | .enable _ | .policy _ _ _ => none

theorem tableHeader_of_table {m : Mention} (h : m.Proper) (body : Text) (position : Nat)
    (before rest : Text) :
    ∃ r, tableHeader.matchAt? ⟨before, (Statement.table m body).core ++ rest, position, []⟩ = some r ∧
      r.group 1 = m.written ∧ r.stop.rest = body ++ ')' :: rest ∧
      r.stop.position + (body.length + 1) = position + (Statement.table m body).core.length := by
  have hcore : (Statement.table m body).core ++ rest = "CREATE" ++ ' ' :: ("TABLE" ++ ' ' ::
      (m.written ++ ' ' :: ("(" ++ (body ++ ')' :: rest)))) := by
    simp [Statement.core, Text.concat]
  have hword : ∀ {w : Text} {t : Text}, w ≠ [] → Text.Unbroken w →
      ∀ x ∈ (w ++ t).head?, Text.isBlank x = false := head?_append_not_blank
  have hname : ∀ x ∈ m.written, (!Text.isBlank x && x != '(') = true := by
    intro x hx
    have hparen : x ≠ '(' := fun he =>
      Mention.not_mem_written h.1 (by decide) (by decide) (by decide) (he ▸ hx)
    simp [Mention.not_blank h.1 x hx, hparen]
  have hstop : ∀ t : Text, ∀ x ∈ (' ' :: t).head?, (!Text.isBlank x && x != '(') = false := by
    intro t x hx
    obtain rfl : ' ' = x := by simpa using hx
    decide
  rw [hcore, matchAt?, tableHeader]
  rw [run_sequence_cons, run_word, run_sequence_cons, run_space (hword (by decide) (by decide)),
    run_sequence_cons, run_optional_of_none rfl, run_sequence_cons, run_optional_of_none rfl,
    run_sequence_cons, run_word, run_sequence_cons, run_space (h.head?_append _),
    run_sequence_cons, run_optional_of_none (Mention.run_ifClause h.1 (hword (by decide) (by decide)) (by decide)),
    run_sequence_cons, run_group_solid1 (Mention.written_ne_nil h.1) hname (hstop _),
    run_sequence_cons, run_gap_space (hword (by decide) (by decide)),
    run_sequence_cons, run_exactly, run_sequence_nil]
  refine ⟨_, rfl, by simp [Match.group, Match.group?], rfl, ?_⟩
  simp [Statement.core, Text.concat]
  omega

theorem tableHeadAt?_of_table {m : Mention} {body : Text} (h : (Statement.table m body).Canonical)
    (position : Nat) (before rest : Text) :
    tableHeadAt? ⟨before, (Statement.table m body).core ++ rest, position, []⟩ =
      some (.closed (.ofHead m.written body), (Statement.table m body).core.length) := by
  obtain ⟨hproper, hclosed, hquiet⟩ := h
  obtain ⟨⟨start, stop⟩, hmatch, hgroup, hrest, hposition⟩ :=
    tableHeader_of_table hproper body position before rest
  obtain ⟨stopBefore, stopRest, stopPosition, groups⟩ := stop
  obtain rfl : stopRest = body ++ ')' :: rest := hrest
  have hadvance : Cursor.advance (body.length + 1)
      ⟨stopBefore, body ++ ')' :: rest, stopPosition, groups⟩ =
      ⟨(body ++ [')']).reverse ++ stopBefore, rest, stopPosition + (body.length + 1), groups⟩ := by
    simpa using Cursor.advance_append stopBefore (body ++ [')']) rest stopPosition groups
  rw [tableHeadAt?, hmatch, Option.map_some, hgroup, bodyAt?,
    hclosed.closingDistance? hquiet.1 rest]
  simp only [List.take_left, hadvance, hposition, Nat.add_sub_cancel_left]

theorem harvest_heads {doc : List Statement} (h : ∀ s ∈ doc, s.Canonical) (position : Nat)
    (before : Text) :
    Cursor.harvest tableHeader.front tableHeadAt? 0 position before (written doc) =
      doc.filterMap Statement.head? := by
  have hfind : ∀ c : Cursor, ¬Text.folded "CREATE" <+: Text.folded c.rest →
      tableHeadAt? c = none := fun c hc => by
    rw [tableHeadAt?, tableHeader, matchAt?_eq_none (by decide) hc, Option.map_none]
  rw [← List.map_id (Cursor.harvest _ _ _ _ _ _)]
  refine harvest_written hfind (by decide) (fun t ht => ht.2.1) ?missed ?found h position before
  case missed =>
    intro s position before rest _ hhead
    cases s with
    | table mention body => simp [Statement.head?] at hhead
    | enable mention | policy name mention body => rfl
  case found =>
    intro s head position before rest hs hhead
    cases s with
    | enable mention | policy name mention body => simp [Statement.head?] at hhead
    | table mention body =>
      exact ⟨rfl, _, tableHeadAt?_of_table hs position before _, Option.some.inj hhead⟩

end DdlAtlas.Sql
