import DdlAtlas.Proofs.Pattern.Language

/-!
# Patterns that a character stops

There are patterns that cannot read a certain character, neither in a word nor in a gap. For such a pattern the
character cuts the text: in front of it the pattern matches as if the text ended there, and behind it as if the
text began there. What the first match in a text leaves to read can thus be told from the two parts.
-/

namespace DdlAtlas

structure Cursor.Embedded (front back : Text) (c d : Cursor) : Prop where
  before : d.before = c.before ++ front
  rest : d.rest = c.rest ++ back

namespace Pattern

def span? : Pattern → Option Nat
  | .empty | .wordEdge => some 0
  | .one _ => some 1
  | .seq p q => p.span?.bind fun m => q.span?.map (m + ·)
  | _ => none

/-- The pattern neither reads the character nor looks beyond it. -/
def stopsAt (x : Char) : Pattern → Bool
  | .empty => true
  | .one test | .solid test => !test x
  | .seq p q | .alt p q => p.stopsAt x && q.stopsAt x
  | .notBehind width p => p.stopsAt x && p.span? == some width
  | .wordEdge => !Text.isWord x
  | _ => false

variable {p : Pattern} {x : Char} {front back before rest t : Text} {c d : Cursor} {n position : Nat}

theorem Reads.position_of_span? (h : p.Reads c d) (hp : p.span? = some n) : d.position = c.position + n := by
  induction p generalizing c d n with
  | empty | wordEdge =>
    obtain rfl : 0 = n := Option.some.inj hp
    first
      | exact congrArg Cursor.position h
      | exact congrArg Cursor.position h.1
  | one test =>
    obtain rfl : 1 = n := Option.some.inj hp
    obtain ⟨y, rest, -, -, rfl⟩ := h
    rfl
  | seq p q ihp ihq =>
    obtain ⟨m, hm, hq⟩ := Option.bind_eq_some_iff.mp hp
    obtain ⟨k, hk, rfl⟩ := Option.map_eq_some_iff.mp hq
    obtain ⟨e, hpe, hqe⟩ := h
    rw [ihq hqe hk, ihp hpe hm, Nat.add_assoc]
  | _ => cases hp

theorem Reads.not_mem_of_stopsAt (h : p.Reads c d) (hp : p.stopsAt x = true) : ∃ s, c.Passed s d ∧ x ∉ s := by
  induction p generalizing c d with
  | empty => exact ⟨[], h ▸ .refl c, List.not_mem_nil⟩
  | one test =>
    obtain ⟨y, rest, hc, hy, rfl⟩ := h
    refine ⟨[y], ⟨hc, rfl, rfl⟩, fun hx => ?_⟩
    obtain rfl : x = y := List.mem_singleton.mp hx
    simp [stopsAt, hy] at hp
  | seq p q ihp ihq =>
    obtain ⟨hx, hx'⟩ := Bool.and_eq_true _ _ ▸ hp
    obtain ⟨e, hpe, hqe⟩ := h
    obtain ⟨s, hs, hsx⟩ := ihp hpe hx
    obtain ⟨t, ht, htx⟩ := ihq hqe hx'
    exact ⟨s ++ t, hs.trans ht, by simp [hsx, htx]⟩
  | alt p q ihp ihq =>
    obtain ⟨hx, hx'⟩ := Bool.and_eq_true _ _ ▸ hp
    exact h.elim (ihp · hx) (ihq · hx')
  | solid test =>
    obtain ⟨s, hs, htest, -⟩ := reads_solid h
    refine ⟨s, hs, fun hx => ?_⟩
    simp [stopsAt, htest x hx] at hp
  | notBehind width p _ | wordEdge => exact ⟨[], h.1 ▸ .refl c, List.not_mem_nil⟩
  | _ => cases hp

end Pattern

namespace Cursor

variable {front back : Text} {c d e : Cursor} {x : Char} {n : Nat}

theorem rest_of_back? (h : c.back? n = some e) : ∃ s, e.rest = s ++ c.rest ∧ s.length = n := by
  induction n generalizing c with
  | zero =>
    obtain rfl := Option.some.inj h
    exact ⟨[], rfl, rfl⟩
  | succ n ih =>
    obtain ⟨_ | ⟨y, before⟩, rest, position, groups⟩ := c
    · cases h
    · obtain ⟨s, hs, hlength⟩ := ih h
      exact ⟨s ++ [y], by rw [hs, List.append_assoc]; rfl, by rw [List.length_append, hlength]; rfl⟩

theorem Embedded.back? (h : c.Embedded front back d) (hc : c.back? n = some e) :
    ∃ e', d.back? n = some e' ∧ e.Embedded front back e' := by
  induction n generalizing c d with
  | zero =>
    obtain rfl := Option.some.inj hc
    exact ⟨d, rfl, h⟩
  | succ n ih =>
    obtain ⟨_ | ⟨y, before⟩, rest, position, groups⟩ := c
    · cases hc
    · obtain ⟨before', rest', position', groups'⟩ := d
      obtain ⟨rfl, rfl⟩ : before' = y :: before ++ front ∧ rest' = rest ++ back := ⟨h.before, h.rest⟩
      exact ih (d := ⟨before ++ front, y :: (rest ++ back), position' - 1, groups'⟩) ⟨rfl, rfl⟩ hc

theorem Embedded.mem_of_back? (h : c.Embedded front back d) (hfront : ∀ y ∈ front.head?, y = x)
    (hc : c.back? n = none) (hd : d.back? n = some e) : ∃ s, e.rest = s ++ d.rest ∧ s.length = n ∧ x ∈ s := by
  induction n generalizing c d with
  | zero => cases hc
  | succ n ih =>
    obtain ⟨before, rest, position, groups⟩ := c
    obtain ⟨before', rest', position', groups'⟩ := d
    obtain ⟨rfl, rfl⟩ : before' = before ++ front ∧ rest' = rest ++ back := ⟨h.before, h.rest⟩
    cases before with
    | nil =>
      cases front with
      | nil => cases hd
      | cons y front =>
        obtain rfl := hfront y rfl
        obtain ⟨s, hs, hlength⟩ := rest_of_back? (n := n) (c := ⟨front, y :: (rest ++ back), position' - 1, groups'⟩) hd
        exact ⟨s ++ [y], by rw [hs, List.append_assoc]; rfl, by rw [List.length_append, hlength]; rfl, by simp⟩
    | cons y before =>
      obtain ⟨s, hs, hlength, hmem⟩ :=
        ih (d := ⟨before ++ front, y :: (rest ++ back), position' - 1, groups'⟩) ⟨rfl, rfl⟩ hc hd
      exact ⟨s ++ [y], by rw [hs, List.append_assoc]; rfl, by rw [List.length_append, hlength]; rfl,
        List.mem_append_left _ hmem⟩

theorem Embedded.past {test : Char → Bool} {before rest : Text} {position position' : Nat}
    {groups groups' : List Capture} (hback : ∀ y ∈ back.head?, test y = false) :
    (Cursor.past test groups position before rest).Embedded front back
      (Cursor.past test groups' position' (before ++ front) (rest ++ back)) := by
  induction rest generalizing before position position' with
  | nil =>
    cases back with
    | nil => exact ⟨rfl, rfl⟩
    | cons y back =>
      rw [List.nil_append, Cursor.past, Cursor.past, if_neg (by simp [hback y rfl])]
      exact ⟨rfl, rfl⟩
  | cons y rest ih =>
    rw [List.cons_append, Cursor.past, Cursor.past]
    split
    · exact ih
    · exact ⟨rfl, rfl⟩

theorem Embedded.atWordEdge (h : c.Embedded front back d) (hfront : ∀ y ∈ front.head?, Text.isWord y = false)
    (hback : ∀ y ∈ back.head?, Text.isWord y = false) : d.atWordEdge = c.atWordEdge := by
  have hsame : ∀ {s u : Text}, (∀ y ∈ u.head?, Text.isWord y = false) →
      (s ++ u).head?.any Text.isWord = s.head?.any Text.isWord := by
    intro s u hu
    cases s with
    | nil =>
      cases u with
      | nil => rfl
      | cons y u => simp [hu y rfl]
    | cons z s => rfl
  rw [Cursor.atWordEdge, Cursor.atWordEdge, h.before, h.rest, hsame hfront, hsame hback]

end Cursor

namespace Pattern

variable {p : Pattern} {x : Char} {front back before t : Text} {c d : Cursor} {position position' : Nat}

theorem run_back?_embedded (hp : p.stopsAt x = true) {n : Nat} (hn : p.span? = some n)
    (hfront : ∀ y ∈ front.head?, y = x) (hc : c.Embedded front back d)
    (hrun : ∀ {e e' : Cursor}, e.Embedded front back e' →
      Option.Rel (Cursor.Embedded front back) (p.run some e) (p.run some e')) :
    ((d.back? n).bind (p.run some)).isSome = ((c.back? n).bind (p.run some)).isSome := by
  cases he : c.back? n with
  | some e =>
    obtain ⟨e', he', hembedded⟩ := hc.back? he
    have hrel := hrun hembedded
    rw [he', Option.bind_some, Option.bind_some]
    generalize p.run some e = found, p.run some e' = found' at hrel ⊢
    cases hrel <;> rfl
  | none =>
    cases he' : d.back? n with
    | none => rfl
    | some e =>
      obtain ⟨s, hs, hlength, hmem⟩ := hc.mem_of_back? hfront he he'
      rw [Option.bind_some, run_eq_none_of_reads fun f hf => ?_]
      · rfl
      · obtain ⟨u, hu, hux⟩ := hf.not_mem_of_stopsAt hp
        have hspan := hu.position.symm.trans (hf.position_of_span? hn)
        have heq : s ++ d.rest = u ++ f.rest := hs.symm.trans hu.rest
        obtain ⟨rfl, -⟩ := List.append_inj heq (by omega)
        exact hux hmem

/-- A pattern that a character stops runs in a text between two such characters as in the text alone. -/
theorem run_embedded (hp : p.stopsAt x = true) (hfront : ∀ y ∈ front.head?, y = x)
    (hback : ∀ y ∈ back.head?, y = x) {next next' : Cursor → Option Cursor} (hc : c.Embedded front back d)
    (hnext : ∀ {e e' : Cursor}, e.Embedded front back e' →
      Option.Rel (Cursor.Embedded front back) (next e) (next' e')) :
    Option.Rel (Cursor.Embedded front back) (p.run next c) (p.run next' d) := by
  -- along the pattern, for any two continuations that agree on positions of the text
  induction p generalizing c d next next' with
  | empty => exact hnext hc
  | one test =>
    obtain ⟨before, rest, position, groups⟩ := c
    obtain ⟨before', rest', position', groups'⟩ := d
    obtain ⟨rfl, rfl⟩ : before' = before ++ front ∧ rest' = rest ++ back := ⟨hc.before, hc.rest⟩
    cases rest with
    | nil =>
      cases back with
      | nil => exact .none
      | cons y back =>
        obtain rfl := hback y rfl
        have hy : test y = false := by simpa [stopsAt] using hp
        simp [run, hy]
    | cons y rest =>
      simp only [run, List.cons_append]
      split
      · exact hnext ⟨rfl, rfl⟩
      · exact .none
  | seq p q ihp ihq =>
    obtain ⟨hx, hx'⟩ := Bool.and_eq_true _ _ ▸ hp
    exact ihp hx hc fun he => ihq hx' he hnext
  | alt p q ihp ihq =>
    obtain ⟨hx, hx'⟩ := Bool.and_eq_true _ _ ▸ hp
    have hfirst := ihp hx hc hnext
    have hsecond := ihq hx' hc hnext
    simp only [run]
    cases h : p.run next c <;> cases h' : p.run next' d <;> simp_all
  | solid test =>
    have htest : ∀ y ∈ back.head?, test y = false := by
      intro y hy
      obtain rfl := hback y hy
      simpa [stopsAt] using hp
    simp only [run, hc.before, hc.rest]
    exact hnext (Cursor.Embedded.past htest)
  | notBehind width p ih =>
    obtain ⟨hx, hwidth⟩ := Bool.and_eq_true _ _ ▸ hp
    have hsame := run_back?_embedded hx (beq_iff_eq.mp hwidth) hfront hc fun he =>
      ih hx he fun hf => .some hf
    simp only [run, hsame]
    split
    · exact .none
    · exact hnext hc
  | wordEdge =>
    have hword : Text.isWord x = false := by simpa [stopsAt] using hp
    have hedge := hc.atWordEdge (fun y hy => hfront y hy ▸ hword) (fun y hy => hback y hy ▸ hword)
    simp only [run, hedge]
    split
    · exact hnext hc
    · exact .none
  | _ => cases hp

theorem matchAt?_embedded (hp : p.stopsAt x = true) (hfront : ∀ y ∈ front.head?, y = x)
    (hback : ∀ y ∈ back.head?, y = x) (hc : c.Embedded front back d) :
    (p.matchAt? d).map (·.stop.rest) = (p.matchAt? c).map (·.stop.rest ++ back) := by
  have hrel := run_embedded hp hfront hback hc fun he => .some he
  rw [matchAt?, matchAt?, Option.map_map, Option.map_map]
  generalize p.run some c = found, p.run some d = found' at hrel ⊢
  cases hrel with
  | none => rfl
  | some he => exact congrArg some he.rest

def behind? (p : Pattern) (t : Text) : Option Text :=
  (p.search? t).map (·.stop.rest)

theorem search_embedded (hp : p.stopsAt x = true) (hfront : ∀ y ∈ front.head?, y = x) :
    (p.searchWith? none position (before ++ front) t).map (·.stop.rest) =
      (p.searchWith? none position' before t).map (·.stop.rest) := by
  have hmatch : ∀ (position position' : Nat) (before t : Text),
      (p.matchAt? ⟨before ++ front, t, position, []⟩).map (·.stop.rest) =
        (p.matchAt? ⟨before, t, position', []⟩).map (·.stop.rest) := by
    intro position position' before t
    have hplace : Cursor.Embedded front [] ⟨before, t, position', []⟩ ⟨before ++ front, t, position, []⟩ :=
      ⟨rfl, (List.append_nil t).symm⟩
    simpa only [List.append_nil] using matchAt?_embedded hp hfront (by simp) hplace
  induction t generalizing before position position' with
  | nil => exact hmatch position position' before []
  | cons y t ih =>
    rw [searchWith?_cons, searchWith?_cons, Option.map_or, Option.map_or, hmatch position position',
      ← List.cons_append, ih]

theorem behind?_append_cons (hp : p.stopsAt x = true) (s t : Text) :
    p.behind? (s ++ x :: t) = ((p.behind? s).map (· ++ x :: t)).or (p.behind? t) := by
  have hmatch : ∀ position before s, (p.matchAt? ⟨before, s ++ x :: t, position, []⟩).map (·.stop.rest) =
      (p.matchAt? ⟨before, s, position, []⟩).map (·.stop.rest ++ x :: t) := fun position before s =>
    matchAt?_embedded hp (by simp) (by simp) ⟨(List.append_nil before).symm, rfl⟩
  have hsearch : ∀ position before, (p.searchWith? none position before (s ++ x :: t)).map (·.stop.rest) =
      ((p.searchWith? none position before s).map (·.stop.rest ++ x :: t)).or
        ((p.searchWith? none 0 [] t).map (·.stop.rest)) := by
    induction s with
    | nil =>
      intro position before
      have hrest : (p.searchWith? none (position + 1) ([] ++ x :: before) t).map (·.stop.rest) =
          (p.searchWith? none 0 [] t).map (·.stop.rest) := search_embedded hp (by simp)
      rw [List.nil_append] at hrest
      rw [List.nil_append, searchWith?_cons, Option.map_or, hrest]
      exact congrArg (Option.or · _) (hmatch position before [])
    | cons y s ih =>
      intro position before
      have hone := hmatch position before (y :: s)
      rw [List.cons_append] at hone
      rw [List.cons_append, searchWith?_cons, searchWith?_cons, Option.map_or, Option.map_or, hone, ih,
        Option.or_assoc]
  rw [behind?, behind?, behind?, search?_eq, search?_eq, search?_eq, Option.map_map, hsearch]
  rfl

theorem misses_between {x y : Char} (hx : p.stopsAt x = true) (hy : p.stopsAt y = true)
    (ht : p.occursIn t = false) (before rest : Text) : p.Misses (x :: before) t (y :: rest) := by
  rintro u v rfl - position
  have halone : p.matchAt? ⟨u.reverse, v, u.length, []⟩ = none := matchAt?_of_not_occursIn ht
  have hfront : p.matchAt? ⟨u.reverse ++ x :: before, v, u.length, []⟩ = none := by
    have hplace : Cursor.Embedded (x :: before) [] ⟨u.reverse, v, u.length, []⟩
        ⟨u.reverse ++ x :: before, v, u.length, []⟩ := ⟨rfl, (List.append_nil v).symm⟩
    have hsame := matchAt?_embedded hx (by simp) (by simp) hplace
    rwa [halone, Option.map_none, Option.map_eq_none_iff] at hsame
  have hplace : Cursor.Embedded [] (y :: rest) ⟨u.reverse ++ x :: before, v, u.length, []⟩
      ⟨u.reverse ++ x :: before, v ++ y :: rest, position, []⟩ := ⟨(List.append_nil _).symm, rfl⟩
  have hsame := matchAt?_embedded hy (by simp) (by simp) hplace
  rwa [hfront, Option.map_none, Option.map_eq_none_iff] at hsame

end Pattern

end DdlAtlas
