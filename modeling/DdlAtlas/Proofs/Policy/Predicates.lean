import DdlAtlas.Proofs.Policy.Clause
import DdlAtlas.Proofs.Policy.Head

/-!
# The predicates of a policy

A policy body has a head and up to two clauses with a predicate each. Each predicate comes from its own
clause as long as none holds the opener of the other clause where it could be taken for that: the opener of
WITH CHECK in the predicate of USING, or the opener of USING in that of WITH CHECK when there is no USING
clause. It makes no difference whether such an opener stands in a subquery or in a literal.
-/

namespace DdlAtlas.Sql

open Pattern

/-- A policy body as it is written: what stands in front of its predicates, such as the clauses AS, FOR and
TO, with the blank behind it, and the two predicates with the blanks between their clauses. Each of these may
be missing. -/
structure WrittenPolicy where
  head : Text
  using? : Option Text
  gap : Text
  withCheck? : Option Text

namespace WrittenPolicy

def written : WrittenPolicy → Text
  | ⟨head, none, _, none⟩ => head
  | ⟨head, some p, _, none⟩ => .concat [head, "USING (", p, ")"]
  | ⟨head, none, _, some q⟩ => .concat [head, "WITH CHECK (", q, ")"]
  | ⟨head, some p, gap, some q⟩ => .concat [head, "USING (", p, ")", gap, "WITH CHECK (", q, ")"]

structure Proper (w : WrittenPolicy) : Prop where
  closed : ∀ t ∈ w.head :: (w.using?.toList ++ w.withCheck?.toList), Closed t
  unmarked : ∀ t ∈ w.head :: (w.using?.toList ++ w.withCheck?.toList), Unmarked t
  head : '(' ∉ w.head ∧ ';' ∉ w.head
  parted : w.using? ≠ none ∨ w.withCheck? ≠ none → ∀ b ∈ w.head.getLast?, Text.isBlank b = true
  gap : ∀ x ∈ w.gap, Text.isBlank x = true

theorem written_using (head p gap : Text) :
    written ⟨head, some p, gap, none⟩ = head ++ ("USING (" ++ (p ++ [')'])) := by
  simp [written, Text.concat]

theorem written_withCheck (head gap q : Text) :
    written ⟨head, none, gap, some q⟩ = head ++ ("WITH CHECK (" ++ (q ++ [')'])) := by
  simp [written, Text.concat]

theorem written_both (head p gap q : Text) : written ⟨head, some p, gap, some q⟩ =
    head ++ ("USING (" ++ (p ++ (')' :: (gap ++ ("WITH CHECK (" ++ q)) ++ [')']))) := by
  simp [written, Text.concat]

structure ProperFront (f : Text) : Prop where
  uncut : Uncut f
  unmarked : Unmarked f
  plain : '(' ∉ f
  last : ∀ b ∈ f.getLast?, Text.isBlank b = true

theorem Proper.front {w : WrittenPolicy} (h : w.Proper) (hclause : w.using? ≠ none ∨ w.withCheck? ≠ none) :
    ProperFront w.head where
  uncut := (h.closed w.head List.mem_cons_self).uncut h.head.2
  unmarked := h.unmarked w.head List.mem_cons_self
  plain := h.head.1
  last := h.parted hclause

end WrittenPolicy

theorem unmarked_of_isBlank {t : Text} (h : ∀ x ∈ t, Text.isBlank x = true) : Unmarked t :=
  unmarked_of_not_mem (fun hm => absurd (h _ hm) (by decide)) fun hm => absurd (h _ hm) (by decide)

theorem uncut_of_isBlank {t : Text} (h : ∀ x ∈ t, Text.isBlank x = true) : Uncut t :=
  Closed.uncut (closed_of_plain fun c hc => Nesting.isPlain_of_isBlank (h c hc)) fun hm =>
    absurd (h _ hm) (by decide)

theorem not_marker_of_isBlank {x : Char} (h : Text.isBlank x = true) : x ≠ '-' ∧ x ≠ '/' ∧ x ≠ '*' := by
  refine ⟨?_, ?_, ?_⟩
  all_goals
    rintro rfl
    exact absurd h (by decide)

theorem clause_of_isBlank {a c : Text} (ha : ∀ x ∈ a, Text.isBlank x = true) (hc : Uncut c ∧ Unmarked c) :
    Uncut (a ++ c) ∧ Unmarked (a ++ c) :=
  ⟨(uncut_of_isBlank ha).append hc.1, (unmarked_of_isBlank ha).append hc.2 fun x hx =>
    not_marker_of_isBlank (ha x (List.mem_of_mem_getLast? hx))⟩

theorem firstStatement_clauses {f c b : Text} (hf : Uncut f ∧ Unmarked f)
    (hlast : ∀ x ∈ f.getLast?, Text.isBlank x = true) (hc : Uncut c ∧ Unmarked c)
    (hend : c.getLast? = some ')') (hb : ∀ x ∈ b, Text.isBlank x = true) :
    firstStatement (withoutComments (f ++ (c ++ b))) = f ++ c := by
  have hparen : ∀ x ∈ c.getLast?, x = ')' := fun x hx => Option.some.inj (hx.symm.trans hend)
  have hbehind : Unmarked (c ++ b) := by
    refine hc.2.append (unmarked_of_isBlank hb) fun x hx => ?_
    rw [hparen x hx]
    decide
  have hwhole : Unmarked (f ++ (c ++ b)) :=
    hf.2.append hbehind fun x hx => not_marker_of_isBlank (hlast x hx)
  have huncut : Uncut (f ++ (c ++ b)) := hf.1.append (hc.1.append (uncut_of_isBlank hb))
  have hne : c ≠ [] := by
    rintro rfl
    exact absurd hend (by simp)
  rw [hwhole.withoutComments_eq, firstStatement, huncut.statementExtent_eq, ← List.append_assoc,
    Text.trimEnd_append, Text.trimEnd_of_isBlank hb, List.append_nil]
  intro x hx
  rw [List.getLast?_append_of_ne_nil f hne] at hx
  rw [hparen x hx]
  decide

section Search

variable {x s p z r t : Text}

theorem withCheckPredicate?_of_opener (hs : Opener ["WITH", "CHECK"] s)
    (hx : x.reverse.head?.any Text.isWord = false) (hmiss : withCheckStart.Misses [] x (s ++ (r ++ [')']))) :
    withCheckPredicate? (x ++ (s ++ (r ++ [')']))) = some (Text.trim r) := by
  obtain ⟨m, hm, hgroup⟩ := search?_clause_of_opener 1 [gap, textEnd] (by simp)
    isKeyword_withCheck (fun _ _ _ => rfl) hs hx hmiss
  have hm : withCheckClause.search? (x ++ (s ++ (r ++ [')']))) = some m := hm
  rw [withCheckPredicate?, hm, Option.map_some, hgroup]

theorem withCheckPredicate?_of_holds (hx : x.reverse.head?.any Text.isWord = false)
    (hp : Holds (Opener ["WITH", "CHECK"]) p) (hz : ∃ rest, z ++ [')'] = ')' :: rest)
    (hmiss : withCheckStart.Misses [] x (p ++ (z ++ [')']))) :
    ∃ y, withCheckPredicate? (x ++ (p ++ (z ++ [')']))) = some (Text.trim (y ++ z)) := by
  obtain ⟨m, y, hm, hgroup⟩ := search?_clause_of_holds 1 [gap, textEnd] (by simp)
    isKeyword_withCheck (fun _ _ _ => rfl) hx hp hz hmiss
  have hm : withCheckClause.search? (x ++ (p ++ (z ++ [')']))) = some m := hm
  exact ⟨y, by rw [withCheckPredicate?, hm, Option.map_some, hgroup]⟩

theorem withCheckPredicate?_of_misses (h : withCheckStart.Misses [] t []) :
    withCheckPredicate? t = none := by
  have hnone : withCheckClause.search? t = none :=
    search?_clause_of_misses 1 [gap, textEnd] (by simp) isKeyword_withCheck h
  rw [withCheckPredicate?, hnone, Option.map_none]

theorem usingPredicate?_of_holds (hx : x.reverse.head?.any Text.isWord = false)
    (hp : Holds (Opener ["USING"]) p) (hmiss : usingStart.Misses [] x (p ++ [')'])) :
    usingPredicate? (x ++ (p ++ [')'])) ≠ none := by
  obtain ⟨m, y, hm, -⟩ := search?_clause_of_holds (z := []) 1
    [alt (sequence [gap, word "WITH", space, word "CHECK"]) (sequence [gap, textEnd])] (by simp)
    isKeyword_using (fun _ _ _ => rfl) hx hp ⟨[], rfl⟩ hmiss
  have hm : usingClause.search? (x ++ (p ++ [')'])) = some m := hm
  rw [usingPredicate?, hm]
  simp

theorem usingPredicate?_of_misses (h : usingStart.Misses [] t []) : usingPredicate? t = none := by
  have hnone : usingClause.search? t = none := search?_clause_of_misses 1
    [alt (sequence [gap, word "WITH", space, word "CHECK"]) (sequence [gap, textEnd])] (by simp) isKeyword_using h
  rw [usingPredicate?, hnone, Option.map_none]

end Search

theorem misses_append_predicateOpener {ks : List Text} {f k : Text} (hne : ks ≠ [])
    (hks : ∀ k ∈ ks, Text.IsKeyword k) (hsub : ∀ s, Opener ks s → PredicateOpener s)
    (hfree : ¬Holds (Opener ks) f) (hlast : ∀ b ∈ f.getLast?, Text.isBlank b = true)
    (hk : PredicateOpener k) (rest : Text) : (opener ks).Misses [] f (k ++ rest) := by
  refine (opener_finds hne hks).misses_iff.mpr fun u v huv hv hstands => hfree ⟨u, v, huv, ?_⟩
  rw [List.append_nil] at hstands
  have hblank : ∀ b ∈ v.getLast?, Text.isBlank b = true := by
    rwa [huv, List.getLast?_append_of_ne_nil u hv] at hlast
  obtain ⟨hbefore, s, hs, hbegins⟩ := hstands
  obtain ⟨-, o, ho, hprefix⟩ :=
    (standsAt_append_predicateOpener hv hblank hk).mp ⟨hbefore, s, hsub s hs, hbegins⟩
  obtain ⟨init, rfl, -⟩ := endsAtParen_predicateOpener o ho
  have hparen : '(' ∈ v := hprefix.subset (by simp)
  exact (standsAt_append_of_mem (endsAtParen_opener hks) hparen).mp ⟨hbefore, s, hs, hbegins⟩

theorem opener_using : Opener ["USING"] "USING (" :=
  Opener.last (s := "USING") (by decide) (List.forall_mem_singleton.mpr (by decide) : ∀ x ∈ [' '], _)

theorem opener_withCheck : Opener ["WITH", "CHECK"] "WITH CHECK (" :=
  have hspace : ∀ x ∈ [' '], Text.isBlank x = true := List.forall_mem_singleton.mpr (by decide)
  Opener.more (s := "WITH") (by decide) (by simp) hspace (Opener.last (s := "CHECK") (by decide) hspace)

namespace WrittenPolicy.ProperFront

variable {f p q : Text}

theorem misses {ks : List Text} (hf : ProperFront f) (hne : ks ≠ []) (hks : ∀ k ∈ ks, Text.IsKeyword k)
    (hsub : ∀ s, Opener ks s → PredicateOpener s) {k : Text} (hk : PredicateOpener k) (rest : Text) :
    (opener ks).Misses [] f (k ++ rest) := by
  refine misses_append_predicateOpener hne hks hsub ?_ hf.last hk rest
  rw [← (opener_finds hne hks).misses_iff_not_holds (endsAtParen_opener hks)]
  exact misses_opener_of_not_mem hne hks hf.plain []

theorem edge (hf : ProperFront f) : f.reverse.head?.any Text.isWord = false :=
  edge_of_getLast? fun b hb => Text.isWord_of_isBlank (hf.last b hb)

theorem misses_clause {ks : List Text} (hf : ProperFront f) (hne : ks ≠ []) (hks : ∀ k ∈ ks, Text.IsKeyword k)
    (hsub : ∀ s, Opener ks s → PredicateOpener s) {k : Text} (hk : PredicateOpener (k ++ ['(']))
    (hother : (opener ks).search? (k ++ ['(']) = none) (rest : Text) :
    (opener ks).Misses [] (f ++ (k ++ ['('])) rest := by
  have hfinds := opener_finds hne hks
  refine (hf.misses hne hks hsub hk rest).append ?_
  refine (hfinds.misses_paren (endsAtParen_opener hks)).mpr ?_
  refine (hfinds.misses_of_not_isWord (by simpa using hf.edge)).mpr ?_
  exact hfinds.misses_of_search? hother

theorem misses_using (hf : ProperFront f) (rest : Text) :
    withCheckStart.Misses [] (f ++ "USING (") rest :=
  have hother : withCheckStart.search? ("USING " ++ ['(']) = none := by decide +kernel
  hf.misses_clause (by simp) isKeyword_withCheck (fun _ => .inr) (.inl opener_using) hother rest

theorem misses_withCheck (hf : ProperFront f) (rest : Text) :
    usingStart.Misses [] (f ++ "WITH CHECK (") rest :=
  have hother : usingStart.search? ("WITH CHECK " ++ ['(']) = none := by decide +kernel
  hf.misses_clause (by simp) isKeyword_using (fun _ => .inl) (.inr opener_withCheck) hother rest

theorem withCheck_of_using (hf : ProperFront f) (p : Text) :
    withCheckPredicate? (f ++ ("USING (" ++ (p ++ [')']))) = none ↔
      ¬Holds (Opener ["WITH", "CHECK"]) p := by
  have hedge := PredicateOpener.edge (.inl opener_using) f
  have hmiss := hf.misses_using (p ++ [')'])
  rw [← List.append_assoc]
  constructor
  · intro hnone hp
    obtain ⟨y, hy⟩ := withCheckPredicate?_of_holds (z := []) hedge hp ⟨[], rfl⟩ hmiss
    rw [List.nil_append, hnone] at hy
    exact absurd hy (by simp)
  · intro hp
    rw [← List.append_assoc]
    exact withCheckPredicate?_of_misses
      (misses_of_not_holds (by simp) isKeyword_withCheck hedge hp (by simp) hmiss)

theorem using_of_withCheck (hf : ProperFront f) (q : Text) :
    usingPredicate? (f ++ ("WITH CHECK (" ++ (q ++ [')']))) = none ↔ ¬Holds (Opener ["USING"]) q := by
  have hedge := PredicateOpener.edge (.inr opener_withCheck) f
  have hmiss := hf.misses_withCheck (q ++ [')'])
  rw [← List.append_assoc]
  constructor
  · intro hnone hq
    exact usingPredicate?_of_holds hedge hq hmiss hnone
  · intro hq
    rw [← List.append_assoc]
    exact usingPredicate?_of_misses
      (misses_of_not_holds (by simp) isKeyword_using hedge hq (by simp) hmiss)

theorem withCheck_of_withCheck (hf : ProperFront f) (q : Text) :
    withCheckPredicate? (f ++ ("WITH CHECK (" ++ (q ++ [')']))) = some (Text.trim q) :=
  withCheckPredicate?_of_opener opener_withCheck hf.edge
    (hf.misses (by simp) isKeyword_withCheck (fun _ => .inr) (.inr opener_withCheck) _)

theorem withCheck_of_both (hf : ProperFront f) (p : Text) {gap : Text}
    (hgap : ∀ x ∈ gap, Text.isBlank x = true) (q : Text) :
    withCheckPredicate? (f ++ ("USING (" ++ (p ++ (')' :: (gap ++ ("WITH CHECK (" ++ q)) ++ [')'])))) =
      some (Text.trim q) ↔ ¬Holds (Opener ["WITH", "CHECK"]) p := by
  have hedge := PredicateOpener.edge (.inl opener_using) f
  have hmiss := hf.misses_using (p ++ (')' :: (gap ++ ("WITH CHECK (" ++ q)) ++ [')']))
  rw [← List.append_assoc]
  constructor
  · intro hfound hp
    obtain ⟨y, hy⟩ := withCheckPredicate?_of_holds hedge hp ⟨_, rfl⟩ hmiss
    rw [hfound] at hy
    -- what is found instead has the closing parenthesis of USING on top of those of the predicate
    have hcount := congrArg (List.count ')') (Option.some.inj hy)
    rw [Text.count_trim (by decide), Text.count_trim (by decide), List.count_append, List.count_cons_self,
      List.count_append, List.count_append] at hcount
    omega
  · intro hp
    have hrest : ')' :: (gap ++ ("WITH CHECK (" ++ q)) ++ [')'] =
        ')' :: (gap ++ ("WITH CHECK (" ++ (q ++ [')']))) := by
      simp
    rw [hrest] at hmiss ⊢
    have hbehind := misses_of_not_holds (by simp) isKeyword_withCheck hedge hp hgap hmiss
    have hparted : (f ++ "USING (" ++ p ++ ')' :: gap).reverse.head?.any Text.isWord = false := by
      refine edge_of_getLast? fun x hx => ?_
      rw [List.getLast?_append_of_ne_nil _ (by simp)] at hx
      rcases List.mem_cons.mp (List.mem_of_mem_getLast? hx) with rfl | hx
      · decide
      · exact Text.isWord_of_isBlank (hgap x hx)
    have hshape : f ++ "USING (" ++ (p ++ ')' :: (gap ++ ("WITH CHECK (" ++ (q ++ [')'])))) =
        f ++ "USING (" ++ p ++ ')' :: gap ++ ("WITH CHECK (" ++ (q ++ [')'])) := by
      simp only [List.append_assoc, List.cons_append]
    rw [hshape]
    exact withCheckPredicate?_of_opener opener_withCheck hparted hbehind

end WrittenPolicy.ProperFront

theorem getLast?_clause (keywords p : Text) : (keywords ++ (p ++ [')'])).getLast? = some ')' := by
  rw [← List.append_assoc, List.getLast?_concat]

namespace WrittenPolicy.ProperFront

variable {f p q : Text}

theorem statement_clause (hf : ProperFront f) {k w : Text} (hk : PredicateOpener k) (hp : Closed p ∧ Unmarked p)
    (hw : Uncut w ∧ Unmarked w) (hend : (k ++ (p ++ ')' :: w)).getLast? = some ')') :
    firstStatement (withoutComments (f ++ (k ++ (p ++ ')' :: w)))) = f ++ (k ++ (p ++ ')' :: w)) := by
  have hstatement := firstStatement_clauses (b := []) ⟨hf.uncut, hf.unmarked⟩ hf.last (hk.clause hp hw) hend (by simp)
  rwa [List.append_nil] at hstatement

theorem statement_using (hf : ProperFront f) (hp : Closed p ∧ Unmarked p) :
    firstStatement (withoutComments (f ++ ("USING (" ++ (p ++ [')'])))) =
      f ++ ("USING (" ++ (p ++ [')'])) :=
  hf.statement_clause (.inl opener_using) hp ⟨uncut_nil, unmarked_nil⟩ (getLast?_clause "USING (" p)

theorem statement_withCheck (hf : ProperFront f) (hq : Closed q ∧ Unmarked q) :
    firstStatement (withoutComments (f ++ ("WITH CHECK (" ++ (q ++ [')'])))) =
      f ++ ("WITH CHECK (" ++ (q ++ [')'])) :=
  hf.statement_clause (.inr opener_withCheck) hq ⟨uncut_nil, unmarked_nil⟩ (getLast?_clause "WITH CHECK (" q)

theorem statement_both (hf : ProperFront f) (hp : Closed p ∧ Unmarked p) {gap : Text}
    (hgap : ∀ x ∈ gap, Text.isBlank x = true) (hq : Closed q ∧ Unmarked q) :
    firstStatement (withoutComments
      (f ++ ("USING (" ++ (p ++ (')' :: (gap ++ ("WITH CHECK (" ++ q)) ++ [')']))))) =
      f ++ ("USING (" ++ (p ++ (')' :: (gap ++ ("WITH CHECK (" ++ q)) ++ [')']))) := by
  have hcheck := PredicateOpener.clause (w := []) (.inr opener_withCheck) hq ⟨uncut_nil, unmarked_nil⟩
  have hbehind := clause_of_isBlank hgap hcheck
  have hshape : ')' :: (gap ++ ("WITH CHECK (" ++ q)) ++ [')'] = ')' :: (gap ++ ("WITH CHECK (" ++ (q ++ [')']))) := by
    simp
  have hend : (("USING (" : Text) ++ (p ++ (')' :: (gap ++ ("WITH CHECK (" ++ q)) ++ [')']))).getLast? =
      some ')' := by
    rw [← List.append_assoc p, getLast?_clause]
  rw [hshape] at hend ⊢
  exact hf.statement_clause (.inl opener_using) hp hbehind hend

end WrittenPolicy.ProperFront

theorem predicates_of_head {head : Text} (hunmarked : Unmarked head) (hplain : '(' ∉ head ∧ ';' ∉ head) :
    (policyClauses head).withCheck? = none ∧ (policyClauses head).using? = none := by
  have hstatement : firstStatement (withoutComments head) = Text.trimEnd head := by
    rw [hunmarked.withoutComments_eq, firstStatement, statementExtent_of_not_mem hplain.2]
  have hparen : '(' ∉ Text.trimEnd head := by
    intro hm
    have hsub : Text.trimEnd head <+: head := by
      rw [← List.reverse_suffix, Text.trimEnd, List.reverse_reverse]
      exact List.dropWhile_suffix _
    exact hplain.1 (hsub.subset hm)
  refine ⟨?_, ?_⟩
  · refine (congrArg withCheckPredicate? hstatement).trans (withCheckPredicate?_of_misses ?_)
    exact misses_opener_of_not_mem (by simp) isKeyword_withCheck hparen []
  · refine (congrArg usingPredicate? hstatement).trans (usingPredicate?_of_misses ?_)
    exact misses_opener_of_not_mem (by simp) isKeyword_using hparen []

theorem predicates_of_statement {t : Text} (h : firstStatement (withoutComments t) = t) :
    (policyClauses t).withCheck? = withCheckPredicate? t ∧ (policyClauses t).using? = usingPredicate? t := by
  simp [policyClauses, h]

/-- WITH CHECK gives its predicate, and a missing clause gives none, just when no predicate holds the opener
of the other clause where it is taken for that. -/
theorem policyClauses_written_iff {w : WrittenPolicy} (h : w.Proper) :
    ((policyClauses w.written).withCheck? = w.withCheck?.map Text.trim ∧
      (w.using? = none → (policyClauses w.written).using? = none)) ↔
    (∀ p ∈ w.using?, ¬Holds (Opener ["WITH", "CHECK"]) p) ∧
      (w.using? = none → ∀ q ∈ w.withCheck?, ¬Holds (Opener ["USING"]) q) := by
  have hf := h.front
  have hproper : ∀ t ∈ w.using?.toList ++ w.withCheck?.toList, Closed t ∧ Unmarked t := fun t ht =>
    ⟨h.closed t (List.mem_cons_of_mem _ ht), h.unmarked t (List.mem_cons_of_mem _ ht)⟩
  have hgap := h.gap
  obtain ⟨head, p, gap, q⟩ := w
  cases p with
  | none =>
    cases q with
    | none =>
      have hwritten : WrittenPolicy.written ⟨head, none, gap, none⟩ = head := rfl
      obtain ⟨hcheck, husing⟩ := predicates_of_head (h.unmarked head List.mem_cons_self) h.head
      simp [hwritten, hcheck, husing]
    | some q =>
      have hf := hf (.inr (by simp))
      obtain ⟨hcheck, husing⟩ := predicates_of_statement (hf.statement_withCheck (hproper q (by simp)))
      rw [WrittenPolicy.written_withCheck, hcheck, husing, hf.withCheck_of_withCheck, hf.using_of_withCheck]
      simp
  | some p =>
    have hf := hf (.inl (by simp))
    cases q with
    | none =>
      obtain ⟨hcheck, -⟩ := predicates_of_statement (hf.statement_using (hproper p (by simp)))
      rw [WrittenPolicy.written_using, hcheck, Option.map_none, hf.withCheck_of_using]
      simp
    | some q =>
      obtain ⟨hcheck, -⟩ :=
        predicates_of_statement (hf.statement_both (hproper p (by simp)) hgap (hproper q (by simp)))
      rw [WrittenPolicy.written_both, hcheck, Option.map_some, hf.withCheck_of_both p hgap]
      simp

def ownersPolicy : WrittenPolicy :=
  ⟨"AS PERMISSIVE FOR UPDATE TO app ", some "note <> ')' OR (using_note AND with_check)", "\n  ",
    some " EXISTS (SELECT 1 FROM a JOIN b USING (id)) "⟩

theorem policyClauses_ownersPolicy : ownersPolicy.Proper ∧
    ownersPolicy.written = Text.concat ["AS PERMISSIVE FOR UPDATE TO app ",
      "USING (note <> ')' OR (using_note AND with_check))\n  ",
      "WITH CHECK ( EXISTS (SELECT 1 FROM a JOIN b USING (id)) )"] ∧
    ¬Holds (Opener ["WITH", "CHECK"]) "note <> ')' OR (using_note AND with_check)" ∧
    (policyClauses ownersPolicy.written).withCheck? =
      some "EXISTS (SELECT 1 FROM a JOIN b USING (id))".toList := by
  have hproper : ownersPolicy.Proper :=
    ⟨by decide, by decide +kernel, by decide, fun _ => (Option.all_eq_true _ _).mp (by decide),
      List.all_eq_true.mp (by decide)⟩
  have hnone : ¬Holds (Opener ["WITH", "CHECK"]) "note <> ')' OR (using_note AND with_check)" := by
    rw [← withCheckStart_finds.misses_iff_not_holds (endsAtParen_opener isKeyword_withCheck)]
    exact withCheckStart_finds.misses_of_search? (by decide +kernel)
  have hclear : ∀ p ∈ ownersPolicy.using?, ¬Holds (Opener ["WITH", "CHECK"]) p := by
    intro p hp
    obtain rfl : "note <> ')' OR (using_note AND with_check)" = p := Option.some.inj hp
    exact hnone
  have hfound := ((policyClauses_written_iff hproper).mpr ⟨hclear, nofun⟩).1
  refine ⟨hproper, by decide +kernel, hnone, ?_⟩
  rw [hfound]
  decide +kernel

theorem policyClauses_mistakes_predicates :
    (WrittenPolicy.Proper ⟨[], none, [], some "EXISTS (SELECT 1 FROM a JOIN b USING (id))"⟩ ∧
      (policyClauses "WITH CHECK (EXISTS (SELECT 1 FROM a JOIN b USING (id)))").using? = some "id".toList) ∧
    WrittenPolicy.Proper ⟨[], some "note <> 'WITH CHECK (x)'", [], none⟩ ∧
      (policyClauses "USING (note <> 'WITH CHECK (x)')").withCheck? = some "x)'".toList := by
  have hjoin : Unmarked "WITH CHECK (EXISTS (SELECT 1 FROM a JOIN b USING (id)))" := by decide +kernel
  have hliteral : Unmarked "USING (note <> 'WITH CHECK (x)')" := by decide +kernel
  refine ⟨⟨⟨by decide, by decide +kernel, by decide, by simp, by simp⟩, ?_⟩,
    ⟨by decide, by decide +kernel, by decide, by simp, by simp⟩, ?_⟩
  · rw [policyClauses, hjoin.withoutComments_eq]
    decide +kernel
  · rw [policyClauses, hliteral.withoutComments_eq]
    decide +kernel

end DdlAtlas.Sql
