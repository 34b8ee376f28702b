import DdlAtlas.Proofs.Pattern.Captures
import DdlAtlas.Proofs.Pattern.Opener
import DdlAtlas.Proofs.Table.Declared
import DdlAtlas.Proofs.Text.Letters

/-!
# Foreign key clauses

A foreign key is written as a clause at the front of a line: the name of the constraint, if it has one, keywords in
some letter case, a list of columns between parentheses, the table and a second list. Whatever else the lists hold, a
line is read as a foreign key just when such a clause stands in front of it, and then what is read is that clause.
-/

namespace DdlAtlas

namespace Pattern

theorem group?_eq (m : Match) (label : Nat) :
    m.group? label = (m.stop.groups.find? (·.label == label)).map Capture.text :=
  rfl

theorem begins_of_reads_word {w : Text} {c d : Cursor} (h : (word w).Reads c d) : Text.Begins w c.rest := by
  obtain ⟨s, hs, hletters⟩ := reads_word h
  exact ⟨s, hletters, hs.rest ▸ List.prefix_append s d.rest⟩

theorem Opener.begins {k t : Text} {ks : List Text} (h : Opener (k :: ks) t) (rest : Text) :
    Text.Begins k (t ++ rest) := by
  cases h with
  | last hs | more hs => exact ⟨_, hs, by simp⟩

end Pattern

namespace Sql

open Pattern

/-- A foreign key as it is written: the name of the constraint, if it has one, the list of its columns, the table
and the list of columns that it refers to. -/
structure KeyClause where
  name : Option Text
  columns : Text
  table : Text
  referenced : Text
deriving DecidableEq, Repr

namespace KeyClause

inductive Label : Option Text → Text → Prop
  | none : Label none []
  | some {word blanks name blanks' : Text} (hword : Text.SameLetters "CONSTRAINT" word)
      (hne : blanks ≠ []) (hblanks : ∀ x ∈ blanks, Text.isBlank x = true)
      (hname : name ≠ []) (hsolid : Text.Unbroken name)
      (hne' : blanks' ≠ []) (hblanks' : ∀ x ∈ blanks', Text.isBlank x = true) :
      Label (some name) (word ++ (blanks ++ (name ++ blanks')))

structure Leads (w : Text) : Prop where
  isKeyword : Text.IsKeyword w
  isAscii : w.IsAscii
  apart : Text.Apart "CONSTRAINT" w

instance (w : Text) : Decidable (Leads w) :=
  decidable_of_iff (Text.IsKeyword w ∧ w.IsAscii ∧ Text.Apart "CONSTRAINT" w)
    ⟨fun h => ⟨h.1, h.2.1, h.2.2⟩, fun h => ⟨h.isKeyword, h.isAscii, h.apart⟩⟩

def Listed (t : Text) : Prop :=
  t ≠ [] ∧ ')' ∉ t

inductive Target (table referenced : Text) : Text → Prop
  | mk {word blanks blanks' : Text} (hword : Text.SameLetters "REFERENCES" word)
      (hne : blanks ≠ []) (hblanks : ∀ x ∈ blanks, Text.isBlank x = true)
      (htable : table ≠ []) (hsolid : ∀ x ∈ table, Text.isBlank x = false ∧ x ≠ '(')
      (hblanks' : ∀ x ∈ blanks', Text.isBlank x = true) (hreferenced : Listed referenced) :
      Target table referenced (word ++ (blanks ++ (table ++ (blanks' ++ '(' :: (referenced ++ [')'])))))

inductive Heads : KeyClause → Text → Prop
  | mk {name : Option Text} {columns table referenced label opening blanks target rest : Text}
      (hlabel : Label name label) (hopening : Opener ["FOREIGN", "KEY"] opening) (hcolumns : Listed columns)
      (hblanks : ∀ x ∈ blanks, Text.isBlank x = true) (htarget : Target table referenced target) :
      Heads ⟨name, columns, table, referenced⟩
        (label ++ (opening ++ (columns ++ ')' :: (blanks ++ (target ++ rest)))))

def ofMatch (m : Match) : KeyClause :=
  ⟨m.group? 1, m.group 2, m.group 3, m.group 4⟩

def line (k : KeyClause) : Line :=
  .foreignKey (k.name.map unquoted) (unquoted k.columns) (QualifiedName.ofText k.table).name
    (unquoted k.referenced)

section Reading

variable {line rest label target : Text} {name : Option Text} {k : KeyClause} {c d : Cursor} {m : Match}

theorem reads_enclosed {l : Nat} (h : (enclosed l).Reads c d) :
    ∃ s, c.Passed ('(' :: (s ++ [')'])) d ∧ Listed s ∧
      ∃ g : Capture, d.groups = g :: c.groups ∧ g.label = l ∧ g.text = s := by
  simp only [enclosed, reads_sequence_cons] at h
  obtain ⟨e, hopen, f, hgroup, f', hclose, hd⟩ := h
  obtain rfl : d = f' := hd
  obtain ⟨s, hs, hne, hall, g, hg, hlabel, htext⟩ := reads_group_solid1 hgroup
  have hpassed := (reads_exactly hopen).trans (hs.trans (reads_exactly hclose))
  refine ⟨s, hpassed, ⟨hne, fun hmem => ?_⟩, g, ?_, hlabel, htext⟩
  · simpa using hall _ hmem
  · rw [hclose.groups_eq rfl, hg, hopen.groups_eq rfl]

theorem label_of_reads (h : constraintName.Reads (.start line) d) :
    ∃ name label, Label name label ∧ (Cursor.start line).Passed label d ∧
      (d.groups.find? (·.label == 1)).map Capture.text = name := by
  rcases h with h | rfl
  · simp only [reads_sequence_cons] at h
    obtain ⟨c₁, hword, c₂, hspace, c₃, hgroup, c₄, hspace', hd⟩ := h
    obtain rfl : d = c₄ := hd
    obtain ⟨w, hw, hletters⟩ := reads_word hword
    obtain ⟨b, hb, hne, hblanks, -⟩ := reads_space hspace
    obtain ⟨n, hn, hname, hsolid, g, hg, hlabel, htext⟩ := reads_group_solid1 hgroup
    obtain ⟨b', hb', hne', hblanks', -⟩ := reads_space hspace'
    refine ⟨some n, _, .some hletters hne hblanks hname (fun x hx => by simpa using hsolid x hx) hne' hblanks',
      hw.trans (hb.trans (hn.trans hb')), ?_⟩
    rw [hspace'.groups_eq rfl, hg]
    simp [hlabel, Capture.text, htext]
  · exact ⟨none, [], .none, .refl _, rfl⟩

theorem opening_of_reads {ps : List Pattern} {l : Nat}
    (h : (sequence (word "FOREIGN" :: space :: word "KEY" :: gap :: enclosed l :: ps)).Reads c d) :
    ∃ opening columns e, Opener ["FOREIGN", "KEY"] opening ∧ Listed columns ∧
      c.Passed (opening ++ (columns ++ [')'])) e ∧ (sequence ps).Reads e d ∧
      ∃ g : Capture, e.groups = g :: c.groups ∧ g.label = l ∧ g.text = columns := by
  simp only [reads_sequence_cons] at h
  obtain ⟨c₁, hforeign, c₂, hspace, c₃, hkey, c₄, hgap, e, henclosed, hd⟩ := h
  obtain ⟨w, hw, hletters⟩ := reads_word hforeign
  obtain ⟨b, hb, hne, hblanks, -⟩ := reads_space hspace
  obtain ⟨w', hw', hletters'⟩ := reads_word hkey
  obtain ⟨b', hb', hblanks', -⟩ := reads_solid hgap
  obtain ⟨columns, hcolumns, hlisted, g, hg, hlabel, htext⟩ := reads_enclosed henclosed
  refine ⟨_, columns, e, .more hletters hne hblanks (.last hletters' hblanks'), hlisted, ?_, hd, g, ?_, hlabel,
    htext⟩
  · simpa using hw.trans (hb.trans (hw'.trans (hb'.trans hcolumns)))
  · rw [hg, hgap.groups_eq rfl, hkey.groups_eq rfl, hspace.groups_eq rfl, hforeign.groups_eq rfl]

theorem target_of_reads (h : (sequence [word "REFERENCES", space,
      group 3 (solid1 fun c => !Text.isBlank c && c != '('), gap, enclosed 4]).Reads c d) :
    ∃ table referenced target, Target table referenced target ∧ c.Passed target d ∧
      ∃ g g' : Capture, d.groups = g' :: g :: c.groups ∧ g.label = 3 ∧ g.text = table ∧ g'.label = 4 ∧
        g'.text = referenced := by
  simp only [reads_sequence_cons] at h
  obtain ⟨c₁, hword, c₂, hspace, c₃, htable, c₄, hgap, c₅, henclosed, hd⟩ := h
  obtain rfl : d = c₅ := hd
  obtain ⟨w, hw, hletters⟩ := reads_word hword
  obtain ⟨b, hb, hne, hblanks, -⟩ := reads_space hspace
  obtain ⟨table, ht, htne, hsolid, g, hg, hlabel, htext⟩ := reads_group_solid1 htable
  obtain ⟨b', hb', hblanks', -⟩ := reads_solid hgap
  obtain ⟨referenced, hr, hlisted, g', hg', hlabel', htext'⟩ := reads_enclosed henclosed
  refine ⟨table, referenced, _, .mk hletters hne hblanks htne (fun x hx => ?_) hblanks' hlisted,
    hw.trans (hb.trans (ht.trans (hb'.trans hr))), g, g', ?_, hlabel, htext, hlabel', htext'⟩
  · simpa using hsolid x hx
  · rw [hg', hgap.groups_eq rfl, hg, hspace.groups_eq rfl, hword.groups_eq rfl]

theorem heads_ofMatch (h : foreignKeyLine.match? line = some m) : (ofMatch m).Heads line := by
  obtain ⟨-, hreads⟩ := reads_of_matchAt? h
  rw [foreignKeyLine, reads_sequence_cons] at hreads
  obtain ⟨c₁, hname, hreads⟩ := hreads
  obtain ⟨name, label, hlabel, hpassed, hfound⟩ := label_of_reads hname
  obtain ⟨opening, columns, c₂, hopening, hcolumns, hpassed', hreads, g₂, hg₂, hlabel₂, htext₂⟩ :=
    opening_of_reads hreads
  rw [reads_sequence_cons] at hreads
  obtain ⟨c₃, hgap, hreads⟩ := hreads
  obtain ⟨blanks, hblanks, hall, -⟩ := reads_solid hgap
  obtain ⟨table, referenced, target, htarget, hpassed'', g₃, g₄, hgroups, hlabel₃, htext₃, hlabel₄, htext₄⟩ :=
    target_of_reads hreads
  have hmatch : ofMatch m = ⟨name, columns, table, referenced⟩ := by
    have hstop : m.stop.groups = g₄ :: g₃ :: g₂ :: c₁.groups := by rw [hgroups, hgap.groups_eq rfl, hg₂]
    simp [ofMatch, Match.group, group?_eq, hstop, hlabel₂, hlabel₃, hlabel₄, hfound, htext₂, htext₃, htext₄]
  have hrest : line = _ := (hpassed.trans (hpassed'.trans (hblanks.trans hpassed''))).rest
  have hline : line = label ++ (opening ++ (columns ++ ')' :: (blanks ++ (target ++ m.stop.rest)))) := by
    simpa using hrest
  rw [hmatch, hline]
  exact .mk hlabel hopening hcolumns hall htarget

theorem head?_not_blank_of_begins {w : Text} (hw : Text.IsKeyword w) (h : Text.Begins w rest) :
    ∀ x ∈ rest.head?, Text.isBlank x = false := by
  obtain ⟨s, hs, more, rfl⟩ := h
  obtain ⟨hne, hword⟩ := hw.isWord_of_sameLetters hs
  exact head?_append_not_blank hne fun x hx => Text.not_blank_of_isWord (hword x hx)

theorem Leads.not_begins {w : Text} (hw : Leads w) (h : Text.Begins w rest) : ¬Text.Begins "CONSTRAINT" rest :=
  fun hconstraint => hw.apart.not_begins (by decide) hw.isAscii hconstraint h

theorem head?_append_of_blanks {blanks : Text} (hne : blanks ≠ [])
    (hblanks : ∀ x ∈ blanks, Text.isBlank x = true) : ∀ x ∈ (blanks ++ rest).head?, Text.isBlank x = true := by
  obtain ⟨b, blanks, rfl⟩ := List.exists_cons_of_ne_nil hne
  intro x hx
  obtain rfl : b = x := by simpa using hx
  exact hblanks b List.mem_cons_self

theorem run_label (h : Label name label) {w : Text} (hw : Leads w) (hrest : Text.Begins w rest) :
    ∃ groups : List Capture, (groups.find? (·.label == 1)).map Capture.text = name ∧
      ∀ {next : Cursor → Option Cursor} {d : Cursor},
        next ⟨label.reverse, rest, label.length, groups⟩ = some d →
          constraintName.run next (.start (label ++ rest)) = some d := by
  cases h with
  | none =>
    refine ⟨[], rfl, fun {next d} hnext => ?_⟩
    refine (run_optional_of_none (run_eq_none_of_reads fun e he => ?_)).trans hnext
    obtain ⟨f, hword, -⟩ := reads_sequence_cons.mp he
    exact hw.not_begins hrest (begins_of_reads_word hword)
  | @some word blanks name blanks' hword hne hblanks hname hsolid hne' hblanks' =>
    refine ⟨[⟨1, name ++ (blanks' ++ rest), name.length⟩], by simp [Capture.text], fun {next d} hnext => ?_⟩
    have hshape : word ++ (blanks ++ (name ++ blanks')) ++ rest =
        word ++ (blanks ++ (name ++ (blanks' ++ rest))) := by simp
    rw [hshape, Cursor.start]
    refine run_alt_of_some ?_
    rw [run_sequence_cons, run_sameLetters hword, run_sequence_cons,
      run_blanks hne hblanks (head?_append_not_blank hname hsolid), run_sequence_cons,
      run_group_solid1 hname (fun x hx => by simp [hsolid x hx])
        (fun x hx => by simp [head?_append_of_blanks hne' hblanks' x hx])]
    refine (run_blanks hne' hblanks' (head?_not_blank_of_begins hw.isKeyword hrest)).trans ?_
    rw [← hnext]
    congr 2
    · simp
    · simp only [List.length_append]
      omega

theorem begins_of_reads_constraintName (h : Label name label) {w : Text} (hw : Leads w)
    (hrest : Text.Begins w rest) (he : constraintName.Reads (.start (label ++ rest)) d) :
    Text.Begins w d.rest ∨ Text.Begins "CONSTRAINT" d.rest := by
  rcases he with he | rfl
  · cases h with
    | none =>
      obtain ⟨f, hword, -⟩ := reads_sequence_cons.mp he
      exact absurd (begins_of_reads_word hword) (hw.not_begins hrest)
    | @some word blanks name blanks' hword hne hblanks hname hsolid hne' hblanks' =>
      have hkeyword : Text.IsKeyword "CONSTRAINT" := by decide
      have hshape : (Cursor.start (word ++ (blanks ++ (name ++ blanks')) ++ rest)).rest =
          word ++ (blanks ++ (name ++ (blanks' ++ rest))) := by simp [Cursor.start]
      obtain ⟨-, c₁, h₁, he⟩ := reads_word_blank he hshape (by decide)
        (fun x hx => Text.not_blank_of_isWord ((hkeyword.isWord_of_sameLetters hword).2 x hx))
        (head?_append_of_blanks hne hblanks)
      simp only [reads_sequence_cons] at he
      obtain ⟨c₂, hspace, c₃, ⟨c₄, hsolid1, rfl⟩, c₅, hspace', hd⟩ := he
      obtain rfl : d = c₅ := hd
      have h₂ := rest_of_reads_solid1 hspace h₁ hne hblanks (head?_append_not_blank hname hsolid)
      have h₄ := rest_of_reads_solid1 hsolid1 h₂ hname (fun x hx => by simp [hsolid x hx])
        (fun x hx => by simp [head?_append_of_blanks hne' hblanks' x hx])
      have h₅ := rest_of_reads_solid1 hspace' h₄ hne' hblanks' (head?_not_blank_of_begins hw.isKeyword hrest)
      exact .inl (h₅ ▸ hrest)
  · cases h with
    | none => exact .inl hrest
    | some hword => exact .inr ⟨_, hword, by simp [Cursor.start]⟩

theorem match?_eq_none_of_label (h : Label name label) {w k : Text} (hw : Leads w) (hrest : Text.Begins w rest)
    (hk : Leads k) (hother : Text.Apart k w) (ps : List Pattern) :
    (sequence (constraintName :: word k :: ps)).match? (label ++ rest) = none := by
  refine match?_eq_none fun d hd => ?_
  obtain ⟨e, hname, hd⟩ := reads_sequence_cons.mp hd
  obtain ⟨f, hword, -⟩ := reads_sequence_cons.mp hd
  have hbegins := begins_of_reads_word hword
  rcases begins_of_reads_constraintName h hw hrest hname with he | he
  · exact hother.not_begins hk.isAscii hw.isAscii hbegins he
  · exact hk.not_begins hbegins he

theorem run_enclosed {next : Cursor → Option Cursor} {before rest t : Text} {position l : Nat}
    {groups : List Capture} (h : Listed t) :
    (enclosed l).run next ⟨before, '(' :: (t ++ ')' :: rest), position, groups⟩ =
      next ⟨')' :: (t.reverse ++ '(' :: before), rest, position + 1 + t.length + 1,
        ⟨l, t ++ ')' :: rest, t.length⟩ :: groups⟩ := by
  have hall : ∀ x ∈ t, (x != ')') = true := fun x hx => by
    have : x ≠ ')' := fun he => h.2 (he ▸ hx)
    simpa using this
  rw [enclosed, run_sequence_cons]
  refine (run_exactly "(").trans ?_
  rw [run_sequence_cons]
  refine (run_group_solid1 h.1 hall fun x hx => ?_).trans (run_exactly ")")
  obtain rfl : ')' = x := by simpa using hx
  decide

theorem run_opening {k opening columns : Text} (h : Opener [k, "KEY"] opening) (hcolumns : Listed columns)
    (ps : List Pattern) (next : Cursor → Option Cursor) (before rest : Text) (position l : Nat)
    (groups : List Capture) :
    (sequence (word k :: space :: word "KEY" :: gap :: enclosed l :: ps)).run next
        ⟨before, opening ++ (columns ++ ')' :: rest), position, groups⟩ =
      (sequence ps).run next ⟨')' :: (columns.reverse ++ (opening.reverse ++ before)), rest,
        position + opening.length + columns.length + 1, ⟨l, columns ++ ')' :: rest, columns.length⟩ :: groups⟩ := by
  have hkeyword : Text.IsKeyword "KEY" := by decide
  have hopen : ∀ x ∈ ('(' :: (columns ++ ')' :: rest)).head?, Text.isBlank x = false := by
    simp [Text.isBlank]
  cases h with
  | @more _ s blanks _ _ hs hne hblanks ht =>
    cases ht with
    | @last _ s' blanks' hs' hblanks' =>
      have hkey : ∀ x ∈ (s' ++ (blanks' ++ '(' :: (columns ++ ')' :: rest))).head?, Text.isBlank x = false :=
        head?_not_blank_of_begins hkeyword ⟨s', hs', List.prefix_append _ _⟩
      have hshape : s ++ (blanks ++ (s' ++ (blanks' ++ ['(']))) ++ (columns ++ ')' :: rest) =
          s ++ (blanks ++ (s' ++ (blanks' ++ '(' :: (columns ++ ')' :: rest)))) := by simp
      rw [hshape, run_sequence_cons, run_sameLetters hs, run_sequence_cons, run_blanks hne hblanks hkey,
        run_sequence_cons, run_sameLetters hs', run_sequence_cons]
      refine (run_solid hblanks' hopen).trans ?_
      rw [run_sequence_cons, run_enclosed hcolumns]
      congr 2
      · simp
      · simp only [List.length_append, List.length_singleton]
        omega
    | more _ _ _ hnone => cases hnone

theorem run_target {table referenced target : Text} (h : Target table referenced target) (before rest : Text)
    (position : Nat) (groups : List Capture) :
    ∃ e, (sequence [word "REFERENCES", space, group 3 (solid1 fun c => !Text.isBlank c && c != '('), gap,
        enclosed 4]).run some ⟨before, target ++ rest, position, groups⟩ = some e ∧
      ∃ g g' : Capture, e.groups = g' :: g :: groups ∧ g.label = 3 ∧ g.text = table ∧ g'.label = 4 ∧
        g'.text = referenced := by
  obtain ⟨hword, hne, hblanks, htable, hsolid, hblanks', hreferenced⟩ := h
  rename_i word blanks blanks'
  have hopen : ∀ x ∈ ('(' :: (referenced ++ ')' :: rest)).head?, Text.isBlank x = false := by
    simp [Text.isBlank]
  have hstop : ∀ x ∈ (blanks' ++ '(' :: (referenced ++ ')' :: rest)).head?,
      (!Text.isBlank x && x != '(') = false := by
    by_cases hnone : blanks' = []
    · simp [hnone]
    · exact fun x hx => by simp [head?_append_of_blanks hnone hblanks' x hx]
  have hshape : word ++ (blanks ++ (table ++ (blanks' ++ '(' :: (referenced ++ [')'])))) ++ rest =
      word ++ (blanks ++ (table ++ (blanks' ++ '(' :: (referenced ++ ')' :: rest)))) := by simp
  rw [hshape, run_sequence_cons, run_sameLetters hword, run_sequence_cons,
    run_blanks hne hblanks (head?_append_not_blank htable fun x hx => (hsolid x hx).1), run_sequence_cons,
    run_group_solid1 htable (fun x hx => by simp [hsolid x hx]) hstop, run_sequence_cons]
  refine ⟨_, (run_solid hblanks' hopen).trans (run_enclosed hreferenced), _, _, rfl, rfl, ?_, rfl, ?_⟩
  · simp [Capture.text]
  · simp [Capture.text]

theorem Target.begins {table referenced target : Text} (h : Target table referenced target) (rest : Text) :
    Text.Begins "REFERENCES" (target ++ rest) := by
  obtain ⟨hword, -⟩ := h
  exact ⟨_, hword, by simp⟩

theorem Heads.match? (h : k.Heads line) : ∃ m, foreignKeyLine.match? line = some m ∧ ofMatch m = k := by
  obtain ⟨hlabel, hopening, hcolumns, hblanks, htarget⟩ := h
  rename_i name columns table referenced label opening blanks target rest
  have hbegins := hopening.begins (columns ++ ')' :: (blanks ++ (target ++ rest)))
  have hhead : ∀ x ∈ (target ++ rest).head?, Text.isBlank x = false :=
    head?_not_blank_of_begins (w := "REFERENCES") (by decide) (htarget.begins rest)
  obtain ⟨groups, hname, hrun⟩ := run_label hlabel (w := "FOREIGN") (by decide) hbegins
  obtain ⟨e, he, g, g', hgroups, hlabel₃, htext₃, hlabel₄, htext₄⟩ := run_target htarget _ rest _ _
  have hmatch := match?_of_run (p := foreignKeyLine) (hrun ((run_opening hopening hcolumns _ _ _ _ _ _ _).trans
    ((run_sequence_cons _ _ _).trans ((run_solid hblanks hhead).trans he))))
  refine ⟨_, hmatch, ?_⟩
  have hlist : Capture.text ⟨2, columns ++ ')' :: (blanks ++ (target ++ rest)), columns.length⟩ = columns :=
    List.take_left
  simp [ofMatch, Match.group, group?_eq, hgroups, hlabel₃, hlabel₄, hname, htext₃, htext₄, hlist]

theorem Heads.read (h : k.Heads line) : Line.read line = k.line := by
  have hprimary : primaryKeyLine.match? line = none := by
    obtain ⟨hlabel, hopening, -⟩ := h
    exact match?_eq_none_of_label hlabel (w := "FOREIGN") (k := "PRIMARY") (by decide) (hopening.begins _)
      (by decide) (by decide) _
  obtain ⟨m, hm, rfl⟩ := h.match?
  simp only [Line.read, hprimary, hm, KeyClause.line, ofMatch]

theorem heads_of_read {constraint : Option Text} {column table key : Text}
    (h : Line.read line = .foreignKey constraint column table key) :
    ∃ k : KeyClause, k.Heads line ∧ k.line = .foreignKey constraint column table key := by
  obtain ⟨m, hm, rfl, rfl, rfl, rfl⟩ := foreignKeyLine_of_read h
  exact ⟨ofMatch m, heads_ofMatch hm, rfl⟩

end Reading

end KeyClause

end Sql

end DdlAtlas
