import DdlAtlas.Proofs.Column.Flags
import DdlAtlas.Proofs.Column.Type
import DdlAtlas.Proofs.Column.Values
import DdlAtlas.Proofs.Pattern.Harvest

/-!
# Lines that declare a column

A written column is read as a name and a declaration, whatever the name, and the declaration gives back the
column that was written.
-/

namespace DdlAtlas.Sql

open Pattern

theorem followed_spaced (cs : List Clause) : Followed (Text.spaced (cs.map Clause.written)) := by
  cases cs with
  | nil => exact .inl rfl
  | cons c cs =>
    refine .inr ⟨c, c.argument ++ Text.spaced (cs.map Clause.written), ?_, ?_⟩
    · simp [Clause.written]
    · cases c with
      | default _ | check _ => simp [Clause.argument, eq_comm]
      | notNull | unique | primaryKey =>
        simpa [Clause.argument] using ColumnDeclaration.head?_spaced (cs.map Clause.written)

theorem columnOf_declared {d : ColumnDeclaration} (hd : d.Proper) (hplain : d.Plain) :
    columnOf d.name.text d.declared = .ok d.column := by
  have htype : columnType d.declared = .ok d.type.written :=
    columnType_written hd.type (followed_spaced d.clauses) hplain.type
  simp only [columnOf, htype, ColumnDeclaration.hasPart_notNull hplain,
    ColumnDeclaration.hasPart_primaryKey hplain, ColumnDeclaration.isUnique_declared hplain,
    ColumnDeclaration.defaultValue?_declared hd hplain,
    ColumnDeclaration.checkConstraint?_declared hd hplain]
  simp [Except.map, ColumnDeclaration.column]

theorem not_reads_columnEnd {t : Text} (hne : t ≠ [])
    (hlast : ∀ x ∈ t.getLast?, Text.isBlank x = false ∧ x ≠ ',') {c d : Cursor} (hc : c.rest = t) :
    ¬columnEnd.Reads c d := by
  intro hd
  obtain ⟨e, hcomma, -, hend⟩ := hd
  have hstop : ∀ x ∈ e.rest, Text.isBlank x = true := by
    have : e.rest = [] ∨ e.rest = ['\n'] := by simpa [Cursor.atLineEnd] using hend
    rcases this with he | he <;> simp [he, Text.isBlank]
  have hall : ∀ x ∈ t, x = ',' ∨ Text.isBlank x = true := by
    rcases hcomma with hcomma | rfl
    · obtain ⟨f, ⟨x, rest, hx, heq, rfl⟩, hgap⟩ := hcomma
      obtain ⟨b, hb, hblank, -⟩ := reads_solid hgap
      have hrest : rest = b ++ e.rest := hb.rest
      rw [← hc, hx, hrest]
      intro y hy
      rcases List.mem_cons.mp hy with rfl | hy
      · exact .inl (beq_iff_eq.mp heq)
      · rcases List.mem_append.mp hy with hy | hy
        · exact .inr (hblank y hy)
        · exact .inr (hstop y hy)
    · exact hc ▸ fun x hx => .inr (hstop x hx)
  obtain ⟨z, hz⟩ : ∃ z, t.getLast? = some z := Option.isSome_iff_exists.mp (by simp [hne])
  obtain ⟨hblank, hcomma'⟩ := hlast z hz
  rcases hall z (List.mem_of_mem_getLast? hz) with hz' | hz'
  · exact hcomma' hz'
  · rw [hblank] at hz'
    exact absurd hz' (by simp)

theorem run_declaration {declared : Text} (hne : declared ≠ [])
    (hfront : ∀ x ∈ declared.head?, Text.isBlank x = false)
    (hback : ∀ x ∈ declared.getLast?, Text.isBlank x = false ∧ x ≠ ',') (before : Text)
    (position : Nat) (groups : List Capture) :
    ∃ e, (sequence [run1 Text.isBlank,
        group 3 (seq (one fun _ => true) (shortest (fun _ => true) columnEnd.front)), columnEnd]).run some
        ⟨before, ' ' :: declared, position, groups⟩ = some e ∧
      e.groups = ⟨3, declared, declared.length⟩ :: groups := by
  obtain ⟨x, rest, rfl⟩ := List.exists_cons_of_ne_nil hne
  have hmissed : ∀ c : Cursor, c.rest ≠ [] → c.rest <:+ rest → columnEnd.run some c = none := by
    intro c hc hsuffix
    refine run_eq_none_of_reads fun d => not_reads_columnEnd hc (fun z hz => hback z ?_) rfl
    obtain ⟨w, hw⟩ := hsuffix
    rw [← hw, ← List.cons_append, Option.mem_def, List.getLast?_append_of_ne_nil _ hc]
    exact hz
  rw [run_sequence_cons, run_run1_space hfront, run_sequence_cons, run, run, run]
  simp only [if_true, run]
  rw [Pattern.sequence, Cursor.firstAlong_end]
  · refine ⟨_, rfl, ?_⟩
    simp only [Cursor.close, List.cons.injEq, Capture.mk.injEq, and_true, true_and, List.length_cons]
    omega
  · exact fun _ _ _ hu hsuffix => hmissed _ hu hsuffix

theorem run_columnLine_quoted {t declared : Text} (hne : t ≠ []) (hquote : '"' ∉ t) (hdeclared : Piece declared) :
    ∃ e, columnLine.run some (.start ("\"" ++ (t ++ ("\"" ++ ' ' :: declared)))) = some e ∧
      e.groups = [⟨3, declared, declared.length⟩, ⟨1, t ++ ("\"" ++ ' ' :: declared), t.length⟩] := by
  have hneat := hdeclared.neat
  have hall : ∀ x ∈ t, (x != '"') = true := by
    intro x hx
    have : x ≠ '"' := fun he => hquote (he ▸ hx)
    simpa using this
  obtain ⟨e, he, hgroups⟩ := run_declaration hneat.ne_nil hneat.front
    (fun x hx => ⟨hneat.back x hx, hdeclared.not_comma x hx⟩)
    ('"' :: (t.reverse ++ ['"'])) (1 + t.length + 1) [⟨1, t ++ ("\"" ++ ' ' :: declared), t.length⟩]
  refine ⟨e, ?_, hgroups⟩
  rw [columnLine, run_sequence_cons]
  refine run_alt_of_some ?_
  rw [Cursor.start, run_sequence_cons, run_exactly, run_sequence_cons]
  refine (run_group_solid1 hne hall (fun x hx => ?_)).trans ((run_exactly "\"").trans ?_)
  · obtain rfl : '"' = x := by simpa using hx
    decide
  · simpa using he

theorem run_columnLine_bare {t declared : Text} (hne : t ≠ []) (hword : ∀ x ∈ t, Text.isWord x = true)
    (hdeclared : Piece declared) :
    ∃ e, columnLine.run some (.start (t ++ ' ' :: declared)) = some e ∧
      e.groups = [⟨3, declared, declared.length⟩, ⟨2, t ++ ' ' :: declared, t.length⟩] := by
  have hneat := hdeclared.neat
  obtain ⟨e, he, hgroups⟩ := run_declaration hneat.ne_nil hneat.front
    (fun x hx => ⟨hneat.back x hx, hdeclared.not_comma x hx⟩)
    t.reverse t.length [⟨2, t ++ ' ' :: declared, t.length⟩]
  refine ⟨e, ?_, hgroups⟩
  rw [columnLine, run_sequence_cons, run_alt_of_none]
  · rw [Cursor.start]
    refine (run_group_solid1 hne hword (fun x hx => ?_)).trans (by simpa using he)
    obtain rfl : ' ' = x := by simpa using hx
    decide
  · refine run_eq_none_of_reads fun d hd => ?_
    obtain ⟨f, ⟨x, rest, hx, heq, -⟩, -⟩ := reads_sequence_cons.mp hd
    obtain rfl : x = '"' := beq_iff_eq.mp heq
    obtain ⟨y, more, rfl⟩ := List.exists_cons_of_ne_nil hne
    have hx : y :: (more ++ ' ' :: declared) = '"' :: rest := hx
    obtain rfl : y = '"' := (List.cons.inj hx).1
    exact absurd (hword '"' List.mem_cons_self) (by decide)

theorem columnLine_written {n : WrittenName} (hne : n.text ≠ [])
    (hname : if n.quoted then '"' ∉ n.text else n.text.all Text.isWord = true) {declared : Text}
    (hdeclared : Piece declared) : ∃ m, columnLine.match? (n.written ++ ' ' :: declared) = some m ∧
      m.group? 1 = (if n.quoted then some n.text else none) ∧
      m.group 2 = (if n.quoted then [] else n.text) ∧ m.group 3 = declared := by
  cases hq : n.quoted with
  | true =>
    obtain ⟨e, hrun, hgroups⟩ := run_columnLine_quoted hne (by simpa [hq] using hname) hdeclared
    have hline : n.written ++ ' ' :: declared = "\"" ++ (n.text ++ ("\"" ++ ' ' :: declared)) := by
      simp [WrittenName.written, hq]
    rw [hline]
    refine ⟨_, by rw [match?, matchAt?, hrun, Option.map_some], ?_⟩
    simp [Match.group, Match.group?, hgroups]
  | false =>
    obtain ⟨e, hrun, hgroups⟩ := run_columnLine_bare hne (by simpa [hq] using hname) hdeclared
    have hline : n.written ++ ' ' :: declared = n.text ++ ' ' :: declared := by
      simp [WrittenName.written, hq]
    rw [hline]
    refine ⟨_, by rw [match?, matchAt?, hrun, Option.map_some], ?_⟩
    simp [Match.group, Match.group?, hgroups]

end DdlAtlas.Sql
