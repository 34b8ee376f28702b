import DdlAtlas.Proofs.Pattern.Opener
import DdlAtlas.Sql.PolicyBody

/-!
# What a clause takes

A clause takes everything from its opener up to a closing parenthesis, the last one of the text when that
ends with one. Its first opener decides, wherever that stands: in front of the clause, in the predicate of
another clause, or in a literal.
-/

namespace DdlAtlas.Pattern

variable {next : Cursor → Option Cursor} {r : Text}

theorem farthest_closing {stop : Front} (hstop : stop.admits ')' = true) (others : List Cursor) (before : Text)
    (position : Nat) (groups : List Capture) :
    ∃ more, Cursor.farthest (fun _ => true) stop groups others position before (r ++ [')']) =
      ⟨')' :: (r.reverse ++ before), [], position + r.length + 1, groups⟩ ::
        ⟨r.reverse ++ before, [')'], position + r.length, groups⟩ :: more := by
  induction r generalizing before position others with
  | nil => exact ⟨others, by simp [Cursor.farthest, hstop]⟩
  | cons x r ih =>
    rw [List.cons_append, Cursor.farthest, if_pos rfl]
    obtain ⟨more, hmore⟩ := ih
      (if stop.admits x = true then ⟨before, x :: (r ++ [')']), position, groups⟩ :: others else others)
      (x :: before) (position + 1)
    refine ⟨more, hmore.trans ?_⟩
    simp only [List.reverse_cons, List.append_assoc, List.singleton_append, List.length_cons]
    rw [show position + 1 + r.length = position + (r.length + 1) by omega]

theorem run_upToClosing {before : Text} {position : Nat} {groups : List Capture} {label : Nat} {d : Cursor}
    (h : next ⟨')' :: (r.reverse ++ before), [], position + r.length + 1,
      ⟨label, r ++ [')'], r.length⟩ :: groups⟩ = some d) :
    (Sql.upToClosing label).run next ⟨before, r ++ [')'], position, groups⟩ = some d := by
  have hstop : (exactly ")").front.admits ')' = true := by decide
  obtain ⟨more, hmore⟩ := farthest_closing (r := r) hstop [] before position groups
  have hshape : (Sql.upToClosing label).run next ⟨before, r ++ [')'], position, groups⟩ =
      (Cursor.farthest (fun _ => true) (exactly ")").front groups [] position before (r ++ [')'])).findSome?
        fun e => (exactly ")").run next (e.close label ⟨before, r ++ [')'], position, groups⟩) := rfl
  have hclosing : (exactly ")").run next
      (Cursor.close ⟨r.reverse ++ before, [')'], position + r.length, groups⟩ label
        ⟨before, r ++ [')'], position, groups⟩) = some d := by
    show (exactly ")").run next ⟨_, (")" : Text) ++ [], _, _⟩ = some d
    rw [run_exactly]
    simpa [Cursor.close] using h
  rw [hshape, hmore, List.findSome?_cons, List.findSome?_cons, hclosing]
  rfl

section Clause

variable {ks : List Text} (label : Nat) (more : List Pattern)

def clause (ks : List Text) (label : Nat) (more : List Pattern) : Pattern :=
  sequence (opener ks :: Sql.upToClosing label :: more)

theorem misses_clause (hne : ks ≠ []) (hks : ∀ k ∈ ks, Text.IsKeyword k) {before s rest : Text}
    (h : (opener ks).Misses before s rest) : (clause ks label more).Misses before s rest := by
  intro u v huv hv position
  rw [matchAt?, run_eq_none_of_reads fun d hd => ?_, Option.map_none]
  obtain ⟨e, he, -⟩ := reads_sequence_cons.mp hd
  exact (opener_finds hne hks).misses_iff.mp h u v huv hv (standsAt_of_reads hne hks he)

theorem search?_clause_of_misses (hne : ks ≠ []) (hks : ∀ k ∈ ks, Text.IsKeyword k) {t : Text}
    (h : (opener ks).Misses [] t []) : (clause ks label more).search? t = none := by
  refine search?_none (misses_clause label more hne hks h) ?_
  rw [matchAt?, run_eq_none_of_reads fun d hd => ?_, Option.map_none]
  obtain ⟨e, he, -⟩ := reads_sequence_cons.mp hd
  obtain ⟨-, s, hs, hbegins⟩ := standsAt_of_reads hne hks he
  obtain ⟨x, tail, rfl, -⟩ := hs.head hks
  simp at hbegins

theorem search?_clause_of_opener (hne : ks ≠ []) (hks : ∀ k ∈ ks, Text.IsKeyword k)
    (hmore : ∀ before position groups, (sequence more).run some ⟨before, [], position, groups⟩ =
      some ⟨before, [], position, groups⟩)
    {x s : Text} (hs : Opener ks s) (hx : x.reverse.head?.any Text.isWord = false)
    (hmiss : (opener ks).Misses [] x (s ++ (r ++ [')']))) :
    ∃ m, (clause ks label more).search? (x ++ (s ++ (r ++ [')']))) = some m ∧ m.group label = r := by
  obtain ⟨e, hrun, hgroups⟩ : ∃ e, (clause ks label more).run some
      ⟨x.reverse, s ++ (r ++ [')']), x.length, []⟩ = some e ∧
      e.groups = [⟨label, r ++ [')'], r.length⟩] := by
    rw [clause, run_sequence_cons, run_opener hks hs hx, run_sequence_cons]
    exact ⟨_, run_upToClosing (hmore _ _ _), rfl⟩
  refine ⟨⟨⟨x.reverse, s ++ (r ++ [')']), x.length, []⟩, e⟩,
    search?_found (misses_clause label more hne hks hmiss) ?_, ?_⟩
  · rw [matchAt?, hrun, Option.map_some]
  · simp [Match.group, Match.group?, hgroups]

theorem misses_of_not_holds (hne : ks ≠ []) (hks : ∀ k ∈ ks, Text.IsKeyword k) {x p gap rest : Text}
    (hx : x.reverse.head?.any Text.isWord = false) (hp : ¬Holds (Opener ks) p)
    (hgap : ∀ y ∈ gap, Text.isBlank y = true)
    (hmiss : (opener ks).Misses [] x (p ++ ')' :: (gap ++ rest))) :
    (opener ks).Misses [] (x ++ p ++ ')' :: gap) rest := by
  have hfinds := opener_finds hne hks
  have hpassed : (opener ks).Misses [] (x ++ p) (')' :: gap ++ rest) := by
    refine hmiss.append ?_
    rw [List.append_nil, hfinds.misses_closing (endsAtParen_opener hks), hfinds.misses_of_not_isWord hx]
    exact (hfinds.misses_iff_not_holds (endsAtParen_opener hks)).mpr hp
  refine hpassed.append (misses_opener_of_not_isWord hne hks (fun y hy => ?_) _ _)
  rcases List.mem_cons.mp hy with rfl | hy
  · decide
  · exact Text.isWord_of_isBlank (hgap y hy)

theorem search?_clause_of_holds (hne : ks ≠ []) (hks : ∀ k ∈ ks, Text.IsKeyword k)
    (hmore : ∀ before position groups, (sequence more).run some ⟨before, [], position, groups⟩ =
      some ⟨before, [], position, groups⟩)
    {x p z : Text} (hx : x.reverse.head?.any Text.isWord = false) (hp : Holds (Opener ks) p)
    (hz : ∃ rest, z ++ [')'] = ')' :: rest) (hmiss : (opener ks).Misses [] x (p ++ (z ++ [')']))) :
    ∃ m y, (clause ks label more).search? (x ++ (p ++ (z ++ [')']))) = some m ∧ m.group label = y ++ z := by
  have hfinds := opener_finds hne hks
  obtain ⟨rest, hrest⟩ := hz
  rcases hfinds.misses_or_stands x.reverse p (z ++ [')']) with hnone | ⟨u, v, rfl, -, hu, hstands⟩
  · rw [hrest, hfinds.misses_closing (endsAtParen_opener hks), hfinds.misses_of_not_isWord hx] at hnone
    exact absurd hp ((hfinds.misses_iff_not_holds (endsAtParen_opener hks)).mp hnone)
  · rw [hrest, standsAt_append_closing (endsAtParen_opener hks)] at hstands
    obtain ⟨hedge, s, hs, v, rfl⟩ := hstands
    have hbefore : (x ++ u).reverse.head?.any Text.isWord = false := by simpa using hedge
    have hmissed : (opener ks).Misses [] (x ++ u) (s ++ (v ++ z ++ [')'])) := by
      refine Misses.append (by simpa using hmiss) ?_
      simpa using hu
    obtain ⟨m, hm, hgroup⟩ := search?_clause_of_opener label more hne hks hmore hs hbefore hmissed
    exact ⟨m, v, by simpa using hm, hgroup⟩

end Clause

end DdlAtlas.Pattern
