import DdlAtlas.Proofs.Document.Switches
import DdlAtlas.Proofs.Policy.Header

/-!
# The policies of a document

The body of a policy is read up to the semicolon before the next word CREATE, so that it swallows the
statements in between that switch tables on. None of them is a policy, and the clauses of a policy are
read in its first statement only: nothing is lost and nothing is added.
-/

namespace DdlAtlas.Sql

open Pattern

def Statement.isSwallowed : Statement → Bool
  | .enable _ => true
  | .table _ _ | .policy _ _ _ => false

def swallowed (doc : List Statement) : Text :=
  (doc.takeWhile Statement.isSwallowed).flatMap fun s => ';' :: '\n' :: s.core

theorem swallowed_append (doc : List Statement) :
    swallowed doc ++ ';' :: '\n' :: written (doc.dropWhile Statement.isSwallowed) =
      ';' :: '\n' :: written doc := by
  induction doc with
  | nil => rfl
  | cons s doc ih =>
    cases hs : s.isSwallowed with
    | true =>
      rw [written_cons, ← ih]
      simp [swallowed, hs]
    | false => simp [swallowed, hs]

def Unended (t : Text) : Prop :=
  ∀ u, u ≠ [] → u <:+ t → (∃ x ∈ u, Text.isBlank x = false ∧ x ≠ ';') ∧
    ∀ r, u = ';' :: r → ∃ r', r = '\n' :: 'A' :: r'

theorem Unended.append {s t : Text} (hs : Unended s) (ht : Unended t) : Unended (s ++ t) := by
  intro u hne hu
  rcases List.suffix_or_suffix_of_suffix hu (List.suffix_append s t) with h | ⟨v, rfl⟩
  · exact ht u hne h
  · by_cases hv : v = []
    · subst hv
      exact ht _ hne List.suffix_rfl
    · have hvs : v <:+ s := by
        obtain ⟨w, hw⟩ := hu
        exact ⟨w, List.append_cancel_right (by rw [List.append_assoc, hw])⟩
      obtain ⟨⟨x, hx, hmark⟩, hsemi⟩ := hs v hv hvs
      refine ⟨⟨x, List.mem_append_left t hx, hmark⟩, fun r hr => ?_⟩
      obtain ⟨y, v', rfl⟩ := List.exists_cons_of_ne_nil hv
      obtain ⟨rfl, rfl⟩ := List.cons.inj hr
      obtain ⟨r', rfl⟩ := hsemi v' rfl
      exact ⟨r' ++ t, rfl⟩

theorem unended_concat {s : Text} {z : Char} (hz : Text.isBlank z = false ∧ z ≠ ';')
    (hs : ∀ u r, u <:+ s ++ [z] → u = ';' :: r → ∃ r', r = '\n' :: 'A' :: r') :
    Unended (s ++ [z]) := by
  intro u hne hu
  refine ⟨?_, fun r hr => hs u r hu hr⟩
  rcases List.suffix_concat_iff.mp hu with rfl | ⟨v, rfl, -⟩
  · exact absurd rfl hne
  · exact ⟨z, by simp, hz⟩

theorem unended_of_not_mem {t : Text} (hne : t ≠ []) (htrim : Text.trim t = t) (hsemi : ';' ∉ t) :
    Unended t := by
  have hlast : ∀ c ∈ t.getLast?, Text.isBlank c = false :=
    htrim ▸ Text.not_blank_of_getLast?_trim (t := t)
  obtain ⟨s, z, rfl⟩ : ∃ s z, t = s ++ [z] := ⟨_, _, (List.dropLast_append_getLast hne).symm⟩
  refine unended_concat ⟨hlast z (by simp), fun he => hsemi (by simp [he])⟩ fun u r hu hr => ?_
  exact absurd (hu.subset (hr ▸ List.mem_cons_self)) hsemi

theorem unended_enable {m : Mention} (h : m.Named) :
    Unended (';' :: '\n' :: (Statement.enable m).core) := by
  have hcore : (Statement.enable m).core =
      'A' :: ("LTER TABLE " ++ m.written ++ " ENABLE ROW LEVEL SECURIT") ++ ['Y'] := by
    simp [Statement.core, Text.concat]
  have hname : ';' ∉ m.written :=
    Mention.not_mem_written h (by decide) (by decide) (by decide)
  have hsemi : ';' ∉ '\n' :: (Statement.enable m).core := by
    simp [Statement.core, Text.concat, hname]
  rw [hcore, ← List.cons_append, ← List.cons_append]
  refine unended_concat (by decide) fun u r hu hr => ?_
  rw [List.cons_append, List.cons_append, ← hcore] at hu
  rcases List.suffix_cons_iff.mp hu with rfl | hu
  · obtain rfl := (List.cons.inj hr).2
    exact ⟨_, congrArg ('\n' :: ·) hcore⟩
  · exact absurd (hu.subset (hr ▸ List.mem_cons_self)) hsemi

theorem unended_swallowed {doc : List Statement} (h : ∀ s ∈ doc, s.Canonical) :
    Unended (swallowed doc) := by
  induction doc with
  | nil =>
    intro u hne hu
    exact absurd (List.suffix_nil.mp hu) hne
  | cons s doc ih =>
    have hdoc := ih fun r hr => h r (List.mem_cons_of_mem s hr)
    have hs := h s List.mem_cons_self
    cases s with
    | enable mention =>
      have hcons : swallowed (.enable mention :: doc) =
          (';' :: '\n' :: (Statement.enable mention).core) ++ swallowed doc := by
        rw [swallowed, List.takeWhile_cons_of_pos rfl]
        simp [swallowed]
      rw [hcons]
      exact (unended_enable hs.1).append hdoc
    | table mention body | policy name mention body =>
      intro u hne hu
      exact absurd (List.suffix_nil.mp hu) hne

theorem policyEnd_isSome {doc : List Statement} (hdoc : ∀ s ∈ doc.head?, s.isSwallowed = false)
    (before : Text) (position : Nat) (groups : List Capture) :
    (policyEnd.run some ⟨before, ';' :: '\n' :: written doc, position, groups⟩).isSome = true := by
  cases doc with
  | nil => rfl
  | cons s doc =>
    cases s with
    | enable mention => simp [Statement.isSwallowed] at hdoc
    | table mention body | policy name mention body => rfl

theorem run_policyBody {body : Text} (hbody : Unended body) {doc : List Statement}
    (hdoc : ∀ s ∈ doc.head?, s.isSwallowed = false) (before : Text) (position : Nat)
    (groups : List Capture) :
    policyBody.run some
        ⟨before, body ++ ';' :: '\n' :: written doc, position, groups⟩ =
      some ⟨body.reverse ++ before, ';' :: '\n' :: written doc, position + body.length,
        ⟨4, body ++ ';' :: '\n' :: written doc, body.length⟩ :: groups⟩ := by
  have hmissed : ∀ (opened : Cursor) position before u, u ≠ [] → u <:+ body →
      (sequence [ahead policyEnd]).run some (Cursor.close
        ⟨before, u ++ ';' :: '\n' :: written doc, position, groups⟩ 4 opened) = none := by
    intro opened position before u hne hu
    obtain ⟨⟨x, hx, hmark⟩, hsemi⟩ := hbody u hne hu
    have hrest : ∀ r, u ++ ';' :: '\n' :: written doc = ';' :: r → ∃ r', r = '\n' :: 'A' :: r' := by
      intro r hr
      obtain ⟨y, u, rfl⟩ := List.exists_cons_of_ne_nil hne
      obtain ⟨rfl, rfl⟩ := List.cons.inj hr
      obtain ⟨r', rfl⟩ := hsemi u rfl
      exact ⟨r' ++ ';' :: '\n' :: written doc, rfl⟩
    simp only [Pattern.sequence, run, Cursor.close,
      policyEnd_run_eq_none ⟨x, List.mem_append_left _ hx, hmark⟩ hrest]
    rfl
  rw [policyBody, run_sequence_cons, run, run,
    Cursor.firstAlong_missed (fun position before u hne hu => hmissed _ position before u hne hu)]
  refine (Cursor.firstAlong_found (by rfl) ?_).trans rfl
  simp only [Pattern.sequence, run, Cursor.close, policyEnd_isSome hdoc, if_true]
  simp

theorem policyHeader_of_policy {name body : Text} {m : Mention}
    (h : (Statement.policy name m body).Canonical) {doc : List Statement}
    (hdoc : ∀ s ∈ doc, s.Canonical) (position : Nat) (before : Text) :
    ∃ r, policyHeader.matchAt? ⟨before, (Statement.policy name m body).core ++
        ';' :: '\n' :: written doc, position, []⟩ = some r ∧
      r.group? 1 = some name ∧ r.group 3 = m.written ∧ r.group 4 = body ++ swallowed doc ∧
      r.width = ((Statement.policy name m body).core ++ swallowed doc).length := by
  obtain ⟨⟨hne, hquote, -⟩, hproper, hclosed, hquiet, hbody, htrim, hsemi⟩ := h
  have hunended := (unended_of_not_mem hbody htrim hsemi).append (unended_swallowed hdoc)
  have hothers : ∀ s ∈ (doc.dropWhile Statement.isSwallowed).head?, s.isSwallowed = false := by
    intro s hs
    have hnot := List.head?_dropWhile_not Statement.isSwallowed doc
    rw [Option.mem_def.mp hs] at hnot
    simpa using hnot
  have hcore : (Statement.policy name m body).core ++ ';' :: '\n' :: written doc =
      policyFront name m.written [' '] ++ ((body ++ swallowed doc) ++
        ';' :: '\n' :: written (doc.dropWhile Statement.isSwallowed)) := by
    rw [List.append_assoc body, swallowed_append]
    simp [Statement.core, policyFront, Text.concat]
  have hbodyHead : ∀ x ∈ ((body ++ swallowed doc) ++
      ';' :: '\n' :: written (doc.dropWhile Statement.isSwallowed)).head?, Text.isBlank x = false := by
    intro x hx
    have hhead : ∀ c ∈ body.head?, Text.isBlank c = false :=
      htrim ▸ Text.not_blank_of_head?_trim (t := body)
    obtain ⟨y, more, rfl⟩ := List.exists_cons_of_ne_nil hbody
    obtain rfl : y = x := by simpa using hx
    exact hhead y rfl
  obtain ⟨opened, opened', hrun⟩ := run_policyHeader hne hquote (Mention.written_ne_nil hproper.1)
    (Mention.not_blank hproper.1) hproper.2.2.2 (List.cons_ne_nil ' ' []) (by simp [Text.isBlank])
    hbodyHead before position
  rw [hcore, matchAt?, hrun, run_policyBody hunended hothers]
  refine ⟨_, rfl, ?_, ?_, ?_, ?_⟩
  · simp [Match.group?]
  · simp [Match.group, Match.group?]
  · change List.take (body ++ swallowed doc).length ((body ++ swallowed doc) ++ _) = _
    exact List.take_left
  · simp [Match.width, Statement.core, policyFront, Text.concat]
    omega

def foundPolicies : List Statement → List PolicyStatement
  | [] => []
  | .policy name mention body :: doc =>
    ⟨name, mention.table.text, body ++ swallowed doc⟩ :: foundPolicies doc
  | .table _ _ :: doc | .enable _ :: doc => foundPolicies doc

theorem harvest_policies_of_missed {s : Statement} (hs : s.Canonical) (doc : List Statement)
    (position : Nat) (before : Text)
    (hmiss : policyHeader.matchAt? ⟨before, s.core ++ ';' :: '\n' :: written doc, position, []⟩ =
      none) :
    ∃ position' before', Cursor.harvest policyHeader.front
        (fun c => (policyHeader.matchAt? c).map fun m => (m, m.width)) 0 position before
        (written (s :: doc)) =
      Cursor.harvest policyHeader.front
        (fun c => (policyHeader.matchAt? c).map fun m => (m, m.width)) 0 position' before'
        (written doc) :=
  harvest_statement_missed policyHeader_find (by decide) (fun t ht => ht.2.1) hs
    (by rw [hmiss, Option.map_none])

/-- The second half carries the induction past a policy, which swallows some statements behind it. -/
theorem harvest_policies {doc : List Statement} (h : ∀ s ∈ doc, s.Canonical) (position : Nat)
    (before : Text) :
    (Cursor.harvest policyHeader.front
      (fun c => (policyHeader.matchAt? c).map fun m => (m, m.width)) 0 position before
      (written doc)).map .ofMatch = foundPolicies doc ∧
    (Cursor.harvest policyHeader.front
      (fun c => (policyHeader.matchAt? c).map fun m => (m, m.width)) 0 position before
      (written (doc.dropWhile Statement.isSwallowed))).map .ofMatch = foundPolicies doc := by
  induction doc generalizing position before with
  | nil => exact ⟨rfl, rfl⟩
  | cons s doc ih =>
    have hs := h s List.mem_cons_self
    have hrest : ∀ r ∈ doc, r.Canonical := fun r hr => h r (List.mem_cons_of_mem s hr)
    have hdoc := fun position before => ih hrest position before
    cases s with
    | enable mention =>
      obtain ⟨position', before', hskip⟩ := harvest_policies_of_missed hs doc position before rfl
      refine ⟨?_, ?_⟩
      · rw [hskip]
        exact (hdoc position' before').1
      · exact (hdoc position before).2
    | table mention body =>
      obtain ⟨position', before', hskip⟩ := harvest_policies_of_missed hs doc position before rfl
      have hfirst := (hdoc position' before').1
      rw [← hskip] at hfirst
      exact ⟨hfirst, hfirst⟩
    | policy name mention body =>
      obtain ⟨r, hr, hname, hmention, hbody, hwidth⟩ :=
        policyHeader_of_policy hs hrest position before
      have hsplit : written (.policy name mention body :: doc) =
          ((Statement.policy name mention body).core ++ swallowed doc) ++
            ';' :: '\n' :: written (doc.dropWhile Statement.isSwallowed) := by
        rw [written_cons, List.append_assoc, swallowed_append]
      have hfound : ((policyHeader.matchAt? ⟨before,
          ((Statement.policy name mention body).core ++ swallowed doc) ++
            ';' :: '\n' :: written (doc.dropWhile Statement.isSwallowed), position, []⟩).map
            fun m => (m, m.width)) =
          some (r, ((Statement.policy name mention body).core ++ swallowed doc).length) := by
        rw [← hsplit, written_cons, hr, Option.map_some, hwidth]
      have hstatement : PolicyStatement.ofMatch r =
          ⟨name, mention.table.text, body ++ swallowed doc⟩ := by
        rw [PolicyStatement.ofMatch, hname, hmention, hbody, Mention.ofText_written hs.2.1.1]
        rfl
      have hfront : policyHeader.front.admits 'C' = true := rfl
      obtain ⟨position', before', hgone⟩ := harvest_line_found policyHeader_find (by decide)
        (fun t ht => ht.2.1) rfl hfront hfound
      have hfirst : (Cursor.harvest policyHeader.front
          (fun c => (policyHeader.matchAt? c).map fun m => (m, m.width)) 0 position before
          (written (.policy name mention body :: doc))).map .ofMatch =
          foundPolicies (.policy name mention body :: doc) := by
        rw [hsplit, hgone, List.map_cons, hstatement]
        exact congrArg _ (hdoc position' before').2
      exact ⟨hfirst, hfirst⟩

end DdlAtlas.Sql
