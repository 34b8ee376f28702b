import DdlAtlas.Proofs.Nesting.Closed

/-!
# What follows a policy

The text of a policy is handed over together with what follows it, up to the next CREATE. The first
semicolon outside literals and parentheses ends the policy: comments are removed from the whole text before
the cut is made there, but they only begin behind it, so that nothing of what follows gets into a clause.
-/

namespace DdlAtlas.Sql

theorem Unmarked.withoutComments_semicolon {b : Text} (h : Unmarked b) (t : Text) :
    ∃ r, withoutComments (b ++ ';' :: t) = b ++ ';' :: r := by
  have hmarks : Unmarked (b ++ [';']) := h.append_cons unmarked_nil (by decide)
  have hlast : ∀ c ∈ (b ++ [';']).getLast?, c ≠ '-' ∧ c ≠ '/' := by simp
  obtain ⟨r, hr⟩ := hmarks.withoutComments_append hlast t
  exact ⟨r, by simpa using hr⟩

/-- The semicolon that ends a policy also ends what is read of it, so that nothing behind has any influence on
the clauses. -/
theorem policyClauses_semicolon {b : Text} (hmarks : Unmarked b) (hruns : Nesting.outside.RunsOn b)
    (hend : (b.foldl Nesting.step .outside).AtEnd) (t : Text) :
    firstStatement (withoutComments (b ++ ';' :: t)) = Text.trimEnd b ∧
      policyClauses (b ++ ';' :: t) = policyClauses b := by
  obtain ⟨r, hr⟩ := hmarks.withoutComments_semicolon t
  have hstatement : firstStatement (withoutComments (b ++ ';' :: t)) = Text.trimEnd b := by
    rw [hr, hruns.firstStatement_semicolon hend]
  have halone : firstStatement (withoutComments b) = Text.trimEnd b := by
    rw [hmarks.withoutComments_eq, hruns.firstStatement_eq]
  refine ⟨hstatement, ?_⟩
  simp only [policyClauses, hstatement, halone]

def remarkPolicy : Text :=
  "FOR update TO app\nUSING (remark <> ');\n(' AND (a; b)))"

theorem policyClauses_remarkPolicy :
    Unmarked remarkPolicy ∧ Nesting.outside.RunsOn remarkPolicy ∧
      (remarkPolicy.foldl Nesting.step .outside).AtEnd ∧ ';' ∈ remarkPolicy ∧
      policyClauses remarkPolicy =
        ⟨"UPDATE", ["app"], some "remark <> ');\n(' AND (a; b)", none, true⟩ ∧
      policyClauses (remarkPolicy ++ ';' :: "\n/* WITH CHECK ('a) -- \"; AS RESTRICTIVE */ ' USING (b) --") =
        ⟨"UPDATE", ["app"], some "remark <> ');\n(' AND (a; b)", none, true⟩ := by
  have hmarks : Unmarked remarkPolicy := by decide +kernel
  have hruns : Nesting.outside.RunsOn remarkPolicy := by decide +kernel
  have hend : (remarkPolicy.foldl Nesting.step .outside).AtEnd := by decide +kernel
  have hvalue : policyClauses remarkPolicy =
      ⟨"UPDATE", ["app"], some "remark <> ');\n(' AND (a; b)", none, true⟩ := by
    rw [policyClauses, hmarks.withoutComments_eq]
    decide +kernel
  exact ⟨hmarks, hruns, hend, by decide, hvalue, (policyClauses_semicolon hmarks hruns hend _).2.trans hvalue⟩

end DdlAtlas.Sql
