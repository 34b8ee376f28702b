import DdlAtlas.Proofs.Policy.Predicates

/-!
# The predicate of USING

A USING clause takes all up to the last closing parenthesis of its statement, and what it takes is cut at the
parenthesis that closes it. A closed predicate thus comes back as it stands, whatever words, literals and
parentheses it holds, and whether or not a WITH CHECK clause follows.
-/

namespace DdlAtlas.Sql

open Pattern

/-- What may stand in front of a USING clause, such as the clauses AS, FOR and TO: no comment begins in it, no
statement ends in it, it holds no opener of a USING clause, and a blank ends it. -/
structure UsingFront (f : Text) : Prop where
  uncut : Uncut f
  unmarked : Unmarked f
  free : ¬Holds (Opener ["USING"]) f
  last : ∀ b ∈ f.getLast?, Text.isBlank b = true

inductive UsingTail : Text → Prop
  | blank {b : Text} (hb : ∀ x ∈ b, Text.isBlank x = true) : UsingTail b
  | withCheck {a k q b : Text} (ha : ∀ x ∈ a, Text.isBlank x = true) (hk : Opener ["WITH", "CHECK"] k)
      (hq : Closed q ∧ Unmarked q) (hb : ∀ x ∈ b, Text.isBlank x = true) : UsingTail (a ++ (k ++ (q ++ ')' :: b)))

theorem WrittenPolicy.ProperFront.usingFront {f : Text} (h : ProperFront f) : UsingFront f where
  uncut := h.uncut
  unmarked := h.unmarked
  free := by
    rw [← usingStart_finds.misses_iff_not_holds (endsAtParen_opener isKeyword_using)]
    exact misses_opener_of_not_mem (by simp) isKeyword_using h.plain []
  last := h.last

theorem usingFront_of_words {f : Text} (h : ∀ x ∈ f, Text.isWord x = true ∨ Text.isBlank x = true)
    (hlast : ∀ b ∈ f.getLast?, Text.isBlank b = true) : UsingFront f := by
  obtain ⟨hclosed, hunmarked, hparen, hsemi⟩ := plain_of_words h
  exact WrittenPolicy.ProperFront.usingFront ⟨hclosed.uncut hsemi, hunmarked, hparen, hlast⟩

section Clause

variable {k p w x : Text}

theorem UsingTail.exists_trimmed {tail : Text} (h : UsingTail tail) :
    ∃ w b, tail = w ++ b ∧ (∀ x ∈ b, Text.isBlank x = true) ∧ (Uncut w ∧ Unmarked w) ∧
      (')' :: w).getLast? = some ')' := by
  cases h with
  | blank hb => exact ⟨[], tail, rfl, hb, ⟨uncut_nil, unmarked_nil⟩, rfl⟩
  | @withCheck a k q b ha hk hq hb =>
    have hshape : ')' :: (a ++ (k ++ (q ++ [')']))) = (')' :: (a ++ (k ++ q))) ++ [')'] := by simp
    have hclause := PredicateOpener.clause (.inr hk) hq ⟨uncut_nil, unmarked_nil⟩
    refine ⟨a ++ (k ++ (q ++ [')'])), b, by simp, hb, clause_of_isBlank ha hclause, ?_⟩
    rw [hshape, List.getLast?_concat]

theorem usingPredicate?_of_opener (hk : Opener ["USING"] k) (hp : Closed p ∧ Unmarked p)
    (hlast : (')' :: w).getLast? = some ')') (hx : x.reverse.head?.any Text.isWord = false)
    (hmiss : usingStart.Misses [] x (k ++ (p ++ ')' :: w))) :
    usingPredicate? (x ++ (k ++ (p ++ ')' :: w))) = some (Text.trim p) := by
  obtain ⟨z, hz⟩ := List.getLast?_eq_some_iff.mp hlast
  have htaken : p ++ ')' :: w = (p ++ z) ++ [')'] := by rw [hz, List.append_assoc]
  have hcut : closingDistance? .code 1 ((p ++ z) ++ [')']) = some p.length := by
    rw [← htaken]
    exact hp.1.closingDistance? hp.2 w
  rw [htaken] at hmiss ⊢
  -- the clause takes all up to the last parenthesis, and the cut gives back what follows its own
  obtain ⟨m, hm, hgroup⟩ := search?_clause_of_opener 1
    [alt (Pattern.sequence [gap, word "WITH", space, word "CHECK"]) (Pattern.sequence [gap, textEnd])] (by simp)
    isKeyword_using (fun _ _ _ => rfl) hk hx hmiss
  have hm : usingClause.search? (x ++ (k ++ ((p ++ z) ++ [')']))) = some m := hm
  rw [usingPredicate?, hm, Option.map_some, hgroup]
  simp only [hcut, List.take_left]

end Clause

/-- The predicate of a USING clause is what stands between its parentheses, without the blanks around it. -/
theorem policyClauses_using {f k p tail : Text} (hf : UsingFront f) (hk : Opener ["USING"] k)
    (hp : Closed p ∧ Unmarked p) (htail : UsingTail tail) :
    (policyClauses (f ++ (k ++ (p ++ ')' :: tail)))).using? = some (Text.trim p) := by
  obtain ⟨w, b, rfl, hb, hw, hlast⟩ := htail.exists_trimmed
  have hopener : PredicateOpener k := .inl hk
  have hend : (k ++ (p ++ ')' :: w)).getLast? = some ')' := by
    rw [← List.append_assoc, List.getLast?_append_of_ne_nil _ (by simp), hlast]
  have hstatement := firstStatement_clauses ⟨hf.uncut, hf.unmarked⟩ hf.last (hopener.clause hp hw) hend hb
  have hshape : f ++ (k ++ (p ++ ')' :: w) ++ b) = f ++ (k ++ (p ++ ')' :: (w ++ b))) := by simp
  rw [hshape] at hstatement
  have hedge : f.reverse.head?.any Text.isWord = false :=
    edge_of_getLast? fun x hx => Text.isWord_of_isBlank (hf.last x hx)
  have hmiss := misses_append_predicateOpener (by simp) isKeyword_using (fun _ => .inl) hf.free hf.last hopener
    (p ++ ')' :: w)
  refine (congrArg usingPredicate? hstatement).trans ?_
  exact usingPredicate?_of_opener hk hp hlast hedge hmiss

def membersPredicate : Text :=
  " EXISTS (SELECT 1 FROM a JOIN b USING (id))\n AND note <> 'it''s ;) WITH CHECK (' "

def membersBody : Text :=
  .concat ["as RESTRICTIVE For update TO app ", "uSiNG (", membersPredicate, ")\n", "WITH CHECK (",
    membersPredicate, ") "]

theorem policyClauses_membersBody :
    UsingFront "as RESTRICTIVE For update TO app " ∧ Opener ["USING"] "uSiNG (" ∧
    (Closed membersPredicate ∧ Unmarked membersPredicate) ∧
    UsingTail ("\n" ++ ("WITH CHECK (" ++ (membersPredicate ++ ')' :: " "))) ∧
    (policyClauses membersBody).using? =
      some "EXISTS (SELECT 1 FROM a JOIN b USING (id))\n AND note <> 'it''s ;) WITH CHECK ('".toList := by
  have hwords : ("as RESTRICTIVE For update TO app ".toList.all fun x => Text.isWord x || Text.isBlank x) = true := by
    decide
  have hhead : UsingFront "as RESTRICTIVE For update TO app " :=
    usingFront_of_words (fun x hx => (Bool.or_eq_true _ _).mp (List.all_eq_true.mp hwords x hx))
      ((Option.all_eq_true _ _).mp (by decide))
  have hspace : ∀ x ∈ [' '], Text.isBlank x = true := List.forall_mem_singleton.mpr (by decide)
  have hbreak : ∀ x ∈ ['\n'], Text.isBlank x = true := List.forall_mem_singleton.mpr (by decide)
  have hopener : Opener ["USING"] "uSiNG (" := Opener.last (s := "uSiNG") (by decide) hspace
  have hpredicate : Closed membersPredicate ∧ Unmarked membersPredicate := ⟨by decide, by decide +kernel⟩
  have htail : UsingTail ("\n" ++ ("WITH CHECK (" ++ (membersPredicate ++ ')' :: " "))) :=
    .withCheck hbreak opener_withCheck hpredicate hspace
  have hbody : membersBody = "as RESTRICTIVE For update TO app " ++ ("uSiNG (" ++ (membersPredicate ++
      ')' :: ("\n" ++ ("WITH CHECK (" ++ (membersPredicate ++ ')' :: " "))))) := by
    simp [membersBody, Text.concat]
  refine ⟨hhead, hopener, hpredicate, htail, ?_⟩
  rw [hbody, policyClauses_using hhead hopener hpredicate htail]
  decide +kernel

end DdlAtlas.Sql
