import DdlAtlas.Proofs.Pattern.Search

/-!
# The places of a pattern

Some patterns match just where a text of a certain class stands and no word runs on into it. Their matches
can be told from the text alone, without a cursor. When every text of the class goes up to its first
parenthesis, a stretch that ends with an opening parenthesis, or that a closing one follows, has the same
places in it whatever comes behind.
-/

namespace DdlAtlas.Pattern

variable {p q : Pattern} {L M : Text → Prop} {before s t rest : Text}

/-- A text of the class stands at the front of the second text, and no word runs on into it from the first
one, which is read backwards. -/
def StandsAt (L : Text → Prop) (before t : Text) : Prop :=
  before.head?.any Text.isWord = false ∧ ∃ s, L s ∧ s <+: t

def Holds (L : Text → Prop) (t : Text) : Prop :=
  ∃ u v, t = u ++ v ∧ StandsAt L u.reverse v

def Finds (p : Pattern) (L : Text → Prop) : Prop :=
  ∀ c : Cursor, (p.matchAt? c).isSome = true ↔ StandsAt L c.before c.rest

def EndsAtParen (L : Text → Prop) : Prop :=
  ∀ s, L s → ∃ front, s = front ++ ['('] ∧ '(' ∉ front ∧ ')' ∉ front

theorem edge_of_getLast? (h : ∀ x ∈ t.getLast?, Text.isWord x = false) :
    t.reverse.head?.any Text.isWord = false := by
  rw [List.head?_reverse]
  cases hx : t.getLast? with
  | none => rfl
  | some x => exact h x hx

theorem Finds.alt (hp : p.Finds L) (hq : q.Finds M) : (alt p q).Finds fun s => L s ∨ M s := by
  intro c
  have hor : ((Pattern.alt p q).matchAt? c).isSome = ((p.matchAt? c).isSome || (q.matchAt? c).isSome) := by
    simp only [matchAt?, run, Option.isSome_map]
    cases p.run some c <;> simp
  rw [hor, Bool.or_eq_true, hp c, hq c]
  constructor
  · rintro (⟨hbefore, s, hs, hrest⟩ | ⟨hbefore, s, hs, hrest⟩)
    · exact ⟨hbefore, s, .inl hs, hrest⟩
    · exact ⟨hbefore, s, .inr hs, hrest⟩
  · rintro ⟨hbefore, s, hs | hs, hrest⟩
    · exact .inl ⟨hbefore, s, hs, hrest⟩
    · exact .inr ⟨hbefore, s, hs, hrest⟩

theorem EndsAtParen.or (hL : EndsAtParen L) (hM : EndsAtParen M) : EndsAtParen fun s => L s ∨ M s :=
  fun s hs => hs.elim (hL s) (hM s)

theorem Finds.misses_iff (hp : p.Finds L) : p.Misses before s rest ↔
    ∀ u v, s = u ++ v → v ≠ [] → ¬StandsAt L (u.reverse ++ before) (v ++ rest) := by
  constructor
  · intro h u v huv hv hstands
    have hsome := (hp ⟨u.reverse ++ before, v ++ rest, 0, []⟩).mpr hstands
    rw [h u v huv hv 0] at hsome
    exact absurd hsome (by simp)
  · intro h u v huv hv position
    refine Option.not_isSome_iff_eq_none.mp fun hsome => ?_
    exact h u v huv hv ((hp _).mp hsome)

theorem Finds.misses_or_stands (hp : p.Finds L) (before s rest : Text) : p.Misses before s rest ∨
    ∃ u v, s = u ++ v ∧ v ≠ [] ∧ p.Misses before u (v ++ rest) ∧
      StandsAt L (u.reverse ++ before) (v ++ rest) := by
  -- along the stretch: the class stands right here, or the pattern misses one character
  induction s generalizing before with
  | nil =>
    refine .inl fun u v huv hv => absurd ?_ hv
    exact (List.append_eq_nil_iff.mp huv.symm).2
  | cons x s ih =>
    by_cases hx : StandsAt L before (x :: (s ++ rest))
    · refine .inr ⟨[], x :: s, rfl, by simp, fun u v huv hv => absurd ?_ hv, hx⟩
      exact (List.append_eq_nil_iff.mp huv.symm).2
    · have hone : ∀ r, r ++ rest = s ++ rest → p.Misses before [x] (r ++ rest) := by
        intro r hr
        refine hp.misses_iff.mpr fun u v huv hv => ?_
        obtain ⟨rfl, rfl⟩ : u = [] ∧ v = [x] := by
          rcases u with _ | ⟨y, u⟩
          · exact ⟨rfl, huv.symm⟩
          · rw [List.cons_append] at huv
            exact absurd (List.append_eq_nil_iff.mp (List.cons.inj huv).2.symm).2 hv
        rw [hr]
        exact hx
      rcases ih (x :: before) with hs | ⟨u, v, rfl, hv, hu, hstands⟩
      · exact .inl ((hone s rfl).append (s := [x]) hs)
      · refine .inr ⟨x :: u, v, rfl, hv, ?_, by simpa using hstands⟩
        have := hone (u ++ v) rfl
        rw [List.append_assoc] at this
        exact this.append (s := [x]) hu

theorem Finds.misses_of_not_isWord (hp : p.Finds L) (h : before.head?.any Text.isWord = false) :
    p.Misses before s rest ↔ p.Misses [] s rest := by
  have hsame : ∀ u : Text, (u.reverse ++ before).head?.any Text.isWord =
      (u.reverse ++ []).head?.any Text.isWord := by
    intro u
    cases hu : u.reverse with
    | nil => simpa using h
    | cons x v => simp
  simp only [hp.misses_iff, StandsAt, hsame]

theorem Finds.misses_of_search? (hp : p.Finds L) (h : p.search? t = none) : p.Misses [] t [] := by
  rcases hp.misses_or_stands [] t [] with hmiss | ⟨u, v, rfl, -, hu, hstands⟩
  · exact hmiss
  · obtain ⟨m, hm⟩ := Option.isSome_iff_exists.mp ((hp ⟨u.reverse, v, u.length, []⟩).mpr (by simpa using hstands))
    rw [search?_found (by simpa using hu) hm] at h
    exact absurd h (by simp)

theorem Finds.misses_iff_not_holds (hp : p.Finds L) (hL : EndsAtParen L) :
    p.Misses [] t [] ↔ ¬Holds L t := by
  rw [hp.misses_iff]
  constructor
  · rintro h ⟨u, v, huv, hbefore, s, hs, hbegins⟩
    refine h u v huv ?_ ⟨by simpa using hbefore, s, hs, by simpa using hbegins⟩
    rintro rfl
    obtain ⟨front, rfl, -⟩ := hL s hs
    simp at hbegins
  · intro h u v huv _ hstands
    exact h ⟨u, v, huv, by simpa using hstands⟩

theorem standsAt_append_of_mem (hL : EndsAtParen L) (h : '(' ∈ t) :
    StandsAt L before (t ++ rest) ↔ StandsAt L before t := by
  refine and_congr_right fun _ => ⟨?_, fun ⟨s, hs, hbegins⟩ => ⟨s, hs, hbegins.trans (List.prefix_append t rest)⟩⟩
  rintro ⟨s, hs, hbegins⟩
  refine ⟨s, hs, ?_⟩
  obtain ⟨front, rfl, hopen, -⟩ := hL s hs
  rcases List.prefix_or_prefix_of_prefix hbegins (List.prefix_append t rest) with hshort | hlong
  · exact hshort
  · rcases List.prefix_concat_iff.mp hlong with rfl | hfront
    · exact List.prefix_rfl
    · exact absurd (hfront.subset h) hopen

theorem standsAt_append_closing (hL : EndsAtParen L) :
    StandsAt L before (t ++ ')' :: rest) ↔ StandsAt L before t := by
  refine and_congr_right fun _ => exists_congr fun s => and_congr_right fun hs => ?_
  obtain ⟨front, rfl, -, hclose⟩ := hL s hs
  exact Text.isPrefix_append_cons (by simpa using hclose)

theorem Finds.misses_paren (hp : p.Finds L) (hL : EndsAtParen L) :
    p.Misses before (s ++ ['(']) rest ↔ p.Misses before (s ++ ['(']) [] := by
  simp only [hp.misses_iff]
  refine forall_congr' fun u => forall_congr' fun v => forall_congr' fun huv => forall_congr' fun hv => ?_
  have hlast : v.getLast? = some '(' := by
    have := congrArg List.getLast? huv
    rw [List.getLast?_append_of_ne_nil u hv] at this
    simpa using this.symm
  rw [List.append_nil, standsAt_append_of_mem hL (List.mem_of_mem_getLast? hlast)]

theorem Finds.misses_closing (hp : p.Finds L) (hL : EndsAtParen L) :
    p.Misses before s (')' :: rest) ↔ p.Misses before s [] := by
  simp only [hp.misses_iff, standsAt_append_closing hL, List.append_nil]

theorem Finds.textBefore_congr (hp : p.Finds L) {r r' : Text}
    (h : ∀ u v, s = u ++ v → v ≠ [] →
      (StandsAt L u.reverse (v ++ r) ↔ StandsAt L u.reverse (v ++ r')))
    (hr : StandsAt L s.reverse r) (hr' : StandsAt L s.reverse r') :
    p.textBefore (s ++ r) = p.textBefore (s ++ r') := by
  have hfound : ∀ u v : Text, p.Misses [] u v → StandsAt L u.reverse v → p.textBefore (u ++ v) = u := by
    intro u v hu hv
    obtain ⟨m, hm⟩ := Option.isSome_iff_exists.mp ((hp ⟨u.reverse, v, u.length, []⟩).mpr hv)
    exact textBefore_found hu hm
  have hmove : ∀ u v, s = u ++ v → p.Misses [] u (v ++ r) → p.Misses [] u (v ++ r') := by
    intro u v huv hu
    refine hp.misses_iff.mpr fun a b hab hb hstands => ?_
    have hstands' : StandsAt L a.reverse ((b ++ v) ++ r') := by simpa using hstands
    rw [← h a (b ++ v) (by rw [huv, hab, List.append_assoc]) (by simp [hb])] at hstands'
    exact hp.misses_iff.mp hu a b hab hb (by simpa using hstands')
  rcases hp.misses_or_stands [] s r with hmiss | ⟨u, v, rfl, hv, hu, hstands⟩
  · rw [hfound s r hmiss hr, hfound s r' (by simpa using hmove s [] (by simp) (by simpa using hmiss)) hr']
  · have hstands : StandsAt L u.reverse (v ++ r) := by simpa using hstands
    rw [List.append_assoc, List.append_assoc, hfound u _ hu hstands,
      hfound u _ (hmove u v rfl hu) ((h u v rfl hv).mp hstands)]

end DdlAtlas.Pattern
