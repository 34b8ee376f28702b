import DdlAtlas.Proofs.Pattern.Harvest
import DdlAtlas.Sql.Statement

/-!
# The head and the end of a policy

The header of a policy names the policy and its table; what follows up to the end of the policy is its
body. The table is the longest stretch without blanks behind ON. The body goes up to the first place at
which a policy ends, and there is one in every text, since a policy ends with the text at the latest.
-/

namespace DdlAtlas.Sql

open Pattern

def PolicyStatement.ofMatch (m : Match) : PolicyStatement :=
  ⟨(m.group? 1).getD (m.group 2), (QualifiedName.ofText (m.group 3)).name, m.group 4⟩

def policyFront (name table blanks : Text) : Text :=
  .concat ["CREATE POLICY \"", name, "\" ON ", table, blanks]

def policyBody : Pattern :=
  sequence [group 4 (shortest (fun _ => true) policyEnd.front), ahead policyEnd]

theorem policyHeader_find (c : Cursor) (hc : ¬Text.folded "CREATE" <+: Text.folded c.rest) :
    ((policyHeader.matchAt? c).map fun m => (m, m.width)) = none := by
  rw [policyHeader, matchAt?_eq_none (by decide) hc, Option.map_none]

theorem run_policyHeader {name table blanks rest : Text} (hname : name ≠ []) (hquote : '"' ∉ name)
    (htable : table ≠ []) (hsolid : Text.Unbroken table)
    (honly : Text.folded table ≠ Text.folded "ONLY") (hne : blanks ≠ [])
    (hblanks : ∀ x ∈ blanks, Text.isBlank x = true)
    (hrest : ∀ x ∈ rest.head?, Text.isBlank x = false) (before : Text) (position : Nat) :
    ∃ opened opened', policyHeader.run some
        ⟨before, policyFront name table blanks ++ rest, position, []⟩ =
      policyBody.run some ⟨(policyFront name table blanks).reverse ++ before, rest,
        position + (policyFront name table blanks).length,
        [⟨3, table ++ opened, table.length⟩, ⟨1, name ++ opened', name.length⟩]⟩ := by
  have hfront : policyFront name table blanks ++ rest = "CREATE" ++ ' ' :: ("POLICY" ++ ' ' ::
      ("\"" ++ (name ++ ("\"" ++ ' ' :: ("ON" ++ ' ' :: (table ++ (blanks ++ rest))))))) := by
    simp [policyFront, Text.concat]
  have hword : ∀ {w : Text} {t : Text}, w ≠ [] → Text.Unbroken w →
      ∀ x ∈ (w ++ t).head?, Text.isBlank x = false := head?_append_not_blank
  have hinner : ∀ x ∈ name, (x != '"') = true := by
    intro x hx
    have : x ≠ '"' := fun he => hquote (he ▸ hx)
    simpa using this
  have hblank : ∀ x ∈ (blanks ++ rest).head?, Text.isBlank x = true := by
    obtain ⟨y, blanks, rfl⟩ := List.exists_cons_of_ne_nil hne
    intro x hx
    obtain rfl : y = x := by simpa using hx
    exact hblanks y List.mem_cons_self
  have hskip : ∀ {next before position groups}, (sequence [word "ONLY", space]).run next
      ⟨before, table ++ (blanks ++ rest), position, groups⟩ = none := by
    intro next before position groups
    refine run_eq_none_of_reads fun d hd => honly ?_
    obtain ⟨hall, -⟩ := reads_word_blank hd rfl (by decide) hsolid hblank
    exact folded_of_sameLetters (by decide) hall
  rw [hfront, policyHeader]
  rw [run_sequence_cons, run_word, run_sequence_cons, run_space (hword (by decide) (by decide)),
    run_sequence_cons, run_word, run_sequence_cons, run_space (hword (by decide) (by decide)),
    run_sequence_cons, run_alt_of_last_none rfl,
    run_sequence_cons, run_exactly, run_sequence_cons, run_group_solid1 hname hinner (by simp),
    run_sequence_cons, run_exactly, run_sequence_nil,
    run_sequence_cons, run_space (hword (by decide) (by decide)), run_sequence_cons, run_word,
    run_sequence_cons, run_space (head?_append_not_blank htable hsolid),
    run_sequence_cons, run_optional_of_none hskip,
    run_sequence_cons, run_group_solid1 htable (fun x hx => by simp [hsolid x hx])
      (fun x hx => by simp [hblank x hx]),
    run_sequence_cons, run_blanks hne hblanks hrest]
  refine ⟨blanks ++ rest, "\"" ++ ' ' :: ("ON" ++ ' ' :: (table ++ (blanks ++ rest))), ?_⟩
  rw [policyBody]
  congr 2
  · simp [policyFront, Text.concat]
  · simp [policyFront, Text.concat]
    omega

theorem blank_or_semicolon_of_reads {c d : Cursor}
    (h : (sequence [gap, optional (exactly ";"), gap, textEnd]).Reads c d) :
    ∀ x ∈ c.rest, Text.isBlank x = true ∨ x = ';' := by
  obtain ⟨c₁, h₁, h⟩ := reads_sequence_cons.mp h
  obtain ⟨c₂, h₂, h⟩ := reads_sequence_cons.mp h
  obtain ⟨c₃, h₃, -, hend⟩ := reads_sequence_cons.mp h
  obtain ⟨s, hs, hsblank, -⟩ := reads_solid h₁
  obtain ⟨s', hs', hsblank', -⟩ := reads_solid h₃
  have hmiddle : ∀ x ∈ c₁.rest, Text.isBlank x = true ∨ x = ';' := by
    have htail : ∀ x ∈ c₂.rest, Text.isBlank x = true ∨ x = ';' := by
      rw [hs'.rest, hend, List.append_nil]
      exact fun x hx => .inl (hsblank' x hx)
    rcases h₂ with ⟨y, rest, hrest, hy, rfl⟩ | rfl
    · rw [hrest]
      intro x hx
      rcases List.mem_cons.mp hx with rfl | hx
      · exact .inr (beq_iff_eq.mp hy)
      · exact htail x hx
    · exact htail
  rw [hs.rest]
  intro x hx
  rcases List.mem_append.mp hx with hx | hx
  · exact .inl (hsblank x hx)
  · exact hmiddle x hx

theorem policyEnd_run_eq_none {t : Text}
    (hmark : ∃ x ∈ t, Text.isBlank x = false ∧ x ≠ ';')
    (hsemi : ∀ r, t = ';' :: r → ∃ r', r = '\n' :: 'A' :: r') (before : Text) (position : Nat)
    (groups : List Capture) : policyEnd.run some ⟨before, t, position, groups⟩ = none := by
  have hend : (sequence [gap, optional (exactly ";"), gap, textEnd]).run some
      ⟨before, t, position, groups⟩ = none := by
    refine run_eq_none_of_reads fun d hd => ?_
    obtain ⟨x, hx, hblank, hne⟩ := hmark
    rcases blank_or_semicolon_of_reads hd x hx with hb | hs
    · exact absurd hb (by simp [hblank])
    · exact hne hs
  have hcreate : (sequence [exactly ";", many blankOrComment, word "CREATE", wordEdge]).run some
      ⟨before, t, position, groups⟩ = none := by
    cases t with
    | nil => rfl
    | cons x r =>
      by_cases hx : x = ';'
      · subst hx
        obtain ⟨r', rfl⟩ := hsemi r rfl
        rfl
      · rw [run_sequence_cons]
        simp [exactly, Pattern.sequence, run, hx]
  rw [policyEnd, run, hcreate, hend]
  rfl

theorem isBlank_of_policyEnd {v rest : Text} {c : Cursor} (hc : c.rest = v ++ rest) (hsemi : ';' ∉ v)
    (h : (policyEnd.run some c).isSome = true) : ∀ x ∈ v, Text.isBlank x = true := by
  intro x hx
  by_contra hnot
  obtain ⟨before, tail, position, groups⟩ := c
  obtain rfl : tail = v ++ rest := hc
  have hmark : ∃ y ∈ v ++ rest, Text.isBlank y = false ∧ y ≠ ';' :=
    ⟨x, List.mem_append_left rest hx, by simpa using hnot, fun he => hsemi (he ▸ hx)⟩
  obtain ⟨y, v, rfl⟩ := List.exists_cons_of_ne_nil (List.ne_nil_of_mem hx)
  rw [policyEnd_run_eq_none hmark fun r hr => absurd (List.cons.inj hr).1
    fun he => hsemi (he ▸ List.mem_cons_self)] at h
  simp at h

theorem run_policyBody_of_isSome {s rest : Text}
    (h : ∀ c : Cursor, c.rest = rest → (policyEnd.run some c).isSome = true)
    (before : Text) (position : Nat) (groups : List Capture) :
    ∃ w v before' groups', s = w ++ v ∧
      (policyEnd.run some ⟨before', v ++ rest, position + w.length, groups'⟩).isSome = true ∧
      policyBody.run some ⟨before, s ++ rest, position, groups⟩ =
        some ⟨w.reverse ++ before, v ++ rest, position + w.length,
          ⟨4, s ++ rest, w.length⟩ :: groups⟩ := by
  have hfront : ∀ x ∈ rest.head?, policyEnd.front.admits x = true := by
    intro x hx
    obtain ⟨tail, rfl⟩ := List.head?_eq_some_iff.mp hx
    by_contra hnot
    have hnone := h ⟨[], _, 0, []⟩ rfl
    rw [run_eq_none_of_front rfl (by simpa using hnot)] at hnone
    simp at hnone
  let opened : Cursor := ⟨before, s ++ rest, position, groups⟩
  let next : Cursor → Option Cursor := fun d => (sequence [ahead policyEnd]).run some (d.close 4 opened)
  have hnext : ∀ d, next d = if (policyEnd.run some (d.close 4 opened)).isSome then
      some (d.close 4 opened) else none := fun _ => rfl
  have hlast : (next ⟨s.reverse ++ before, rest, position + s.length, groups⟩).isSome = true := by
    rw [hnext, if_pos (h _ rfl)]
    rfl
  obtain ⟨w, v, d, hs, hd, hfound⟩ := Cursor.firstAlong_of_isSome hfront hlast
  have hrun : policyBody.run some opened = some d := by
    rw [policyBody, run_sequence_cons]
    exact hfound
  rw [hnext] at hd
  split at hd
  · rename_i hend
    refine ⟨w, v, _, _, hs, hend, hrun.trans ?_⟩
    rw [← hd]
    simp [Cursor.close, opened]
  · simp at hd

theorem policyHeader_of_front {name table blanks s rest : Text} (hname : name ≠ []) (hquote : '"' ∉ name)
    (htable : table ≠ []) (hsolid : Text.Unbroken table)
    (honly : Text.folded table ≠ Text.folded "ONLY") (hne : blanks ≠ [])
    (hblanks : ∀ x ∈ blanks, Text.isBlank x = true)
    (hbody : ∀ x ∈ (s ++ rest).head?, Text.isBlank x = false)
    (hend : ∀ c : Cursor, c.rest = rest → (policyEnd.run some c).isSome = true)
    (before : Text) (position : Nat) :
    ∃ w v m, s = w ++ v ∧
      (∃ c : Cursor, c.rest = v ++ rest ∧ (policyEnd.run some c).isSome = true) ∧
      policyHeader.matchAt? ⟨before, policyFront name table blanks ++ (s ++ rest), position, []⟩ =
        some m ∧
      m.width = (policyFront name table blanks ++ w).length ∧
      PolicyStatement.ofMatch m = ⟨name, (QualifiedName.ofText table).name, w⟩ := by
  obtain ⟨opened, opened', hrun⟩ := run_policyHeader hname hquote htable hsolid honly hne hblanks hbody
    before position
  obtain ⟨w, v, before', groups, rfl, hstop, hfound⟩ := run_policyBody_of_isSome (s := s) hend
    ((policyFront name table blanks).reverse ++ before)
    (position + (policyFront name table blanks).length)
    [⟨3, table ++ opened, table.length⟩, ⟨1, name ++ opened', name.length⟩]
  have hmatch := congrArg (Option.map (Match.mk
    ⟨before, policyFront name table blanks ++ (w ++ v ++ rest), position, []⟩)) (hrun.trans hfound)
  refine ⟨w, v, _, rfl, ⟨_, rfl, hstop⟩, hmatch, ?_, ?_⟩
  · rw [Match.width, List.length_append]
    dsimp only
    omega
  · simp [PolicyStatement.ofMatch, Match.group, Match.group?]

end DdlAtlas.Sql
