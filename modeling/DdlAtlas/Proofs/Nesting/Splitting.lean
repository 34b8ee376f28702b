import DdlAtlas.Proofs.Nesting.Agreement
import DdlAtlas.Proofs.Text.Join

/-!
# Cuts and the parts between them

Behind the front of a text a literal is open or not, and the parentheses outside literals leave a depth, which may
be negative. The text is cut at the delimiters that stand outside literals at depth zero and at no other character:
its parts are the stretches between these cuts, except that nothing is kept behind a cut at the very end. Joined by
the delimiter the parts are the text again, without such a cut, and parts that are balanced by themselves and hold
no cut come back from their join.
-/

namespace DdlAtlas.Sql

def openLiteral : Option Char → Text → Option Char
  | quote, [] => quote
  | none, c :: t => openLiteral (if isQuote c then some c else none) t
  | some q, c :: t => openLiteral (if c = q then none else some q) t

def outsideLiterals : Option Char → Text → Text
  | _, [] => []
  | none, c :: t => if isQuote c then outsideLiterals (some c) t else c :: outsideLiterals none t
  | some q, c :: t => outsideLiterals (if c = q then none else some q) t

def excess (t : Text) : Int :=
  t.count '(' - t.count ')'

/-- The depth behind a text: what is open outside literals, negative where more was closed than opened. -/
def netDepth (t : Text) : Int :=
  excess (outsideLiterals none t)

structure IsCut (delimiter : Char) (t : Text) (i : Nat) : Prop where
  here : t[i]? = some delimiter
  outside : openLiteral none (t.take i) = none
  level : netDepth (t.take i) = 0

instance (delimiter : Char) (t : Text) (i : Nat) : Decidable (IsCut delimiter t i) :=
  decidable_of_iff
    (t[i]? = some delimiter ∧ openLiteral none (t.take i) = none ∧ netDepth (t.take i) = 0)
    ⟨fun h => ⟨h.1, h.2.1, h.2.2⟩, fun h => ⟨h.here, h.outside, h.level⟩⟩

def cuts (delimiter : Char) (t : Text) : List Nat :=
  (List.range t.length).filter (IsCut delimiter t ·)

def EndsInCut (delimiter : Char) (t : Text) : Prop :=
  IsCut delimiter t (t.length - 1)

instance (delimiter : Char) (t : Text) : Decidable (EndsInCut delimiter t) :=
  inferInstanceAs (Decidable (IsCut _ _ _))

def stretches (start : Nat) : List Nat → Text → List Text
  | [], t => [t.drop start]
  | i :: more, t => (t.take i).drop start :: stretches (i + 1) more t

structure IsPart (delimiter : Char) (t : Text) : Prop where
  closed : openLiteral none t = none
  level : netDepth t = 0
  uncut : ∀ i, ¬IsCut delimiter t i

theorem IsCut.lt_length {delimiter : Char} {t : Text} {i : Nat} (h : IsCut delimiter t i) : i < t.length :=
  (List.getElem?_eq_some_iff.mp h.here).1

theorem cuts_eq_nil_iff {delimiter : Char} {t : Text} : cuts delimiter t = [] ↔ ∀ i, ¬IsCut delimiter t i := by
  simp only [cuts, List.filter_eq_nil_iff, List.mem_range, decide_eq_true_eq]
  exact forall_congr' fun i => ⟨fun h hi => h hi.lt_length hi, fun h _ => h⟩

instance (delimiter : Char) (t : Text) : Decidable (IsPart delimiter t) :=
  decidable_of_iff (openLiteral none t = none ∧ netDepth t = 0 ∧ cuts delimiter t = [])
    ⟨fun h => ⟨h.1, h.2.1, cuts_eq_nil_iff.mp h.2.2⟩, fun h => ⟨h.closed, h.level, cuts_eq_nil_iff.mpr h.uncut⟩⟩

variable {delimiter : Text} {d c : Char} {s : Nesting} {t : Text}

theorem excess_cons (c : Char) (t : Text) :
    excess (c :: t) = (if c = '(' then 1 else if c = ')' then -1 else 0) + excess t := by
  by_cases hopen : c = '('
  · simp [excess, hopen]
    omega
  · by_cases hclose : c = ')'
    · simp [excess, hclose]
      omega
    · simp [excess, hopen, hclose]

theorem Nesting.foldl_step_eq (s : Nesting) (t : Text) :
    t.foldl step s = ⟨openLiteral s.quote t, s.depth + excess (outsideLiterals s.quote t)⟩ := by
  induction t generalizing s with
  | nil => cases hs : s.quote <;> simp [openLiteral, outsideLiterals, excess, ← hs]
  | cons c t ih =>
    obtain ⟨quote, depth⟩ := s
    rw [List.foldl_cons, ih]
    cases quote with
    | none =>
      by_cases hq : isQuote c = true
      · simp [step, openLiteral, outsideLiterals, hq]
      · by_cases hopen : c = '('
        · simp [step, openLiteral, outsideLiterals, excess_cons, hopen, isQuote]
          omega
        · by_cases hclose : c = ')'
          · simp [step, openLiteral, outsideLiterals, excess_cons, hclose, isQuote]
            omega
          · simp [step, openLiteral, outsideLiterals, excess_cons, hq, hopen, hclose]
    | some q => by_cases hc : c = q <;> simp [step, openLiteral, outsideLiterals, hc]

namespace Nesting

def cutsIn (delimiter : Text) (s : Nesting) (t : Text) (i : Nat) : Bool :=
  t[i]?.any (((t.take i).foldl step s).cutsAt delimiter)

@[simp] theorem cutsIn_zero (delimiter : Text) (s : Nesting) (c : Char) (t : Text) :
    cutsIn delimiter s (c :: t) 0 = s.cutsAt delimiter c :=
  rfl

@[simp] theorem cutsIn_succ (delimiter : Text) (s : Nesting) (c : Char) (t : Text) (i : Nat) :
    cutsIn delimiter s (c :: t) (i + 1) = cutsIn delimiter (s.step c) t i :=
  rfl

end Nesting

theorem isCut_iff (hd : Nesting.isPlain d = true) {i : Nat} :
    IsCut d t i ↔ Nesting.cutsIn [d] .outside t i = true := by
  have hscan : (t.take i).foldl Nesting.step .outside = ⟨openLiteral none (t.take i), netDepth (t.take i)⟩ := by
    rw [Nesting.foldl_step_eq, netDepth]
    simp [Nesting.outside]
  rw [Nesting.cutsIn, hscan]
  constructor
  · rintro ⟨hhere, houtside, hlevel⟩
    simp [hhere, Nesting.cutsAt, houtside, hlevel, hd]
  · intro h
    obtain ⟨c, hc, hcut⟩ := (Option.any_eq_true _ _).mp h
    simp only [Nesting.cutsAt, Bool.and_eq_true, Option.isNone_iff_eq_none, beq_iff_eq, List.cons.injEq,
      and_true] at hcut
    obtain ⟨⟨⟨houtside, hlevel⟩, -⟩, rfl⟩ := hcut
    exact ⟨hc, houtside, hlevel⟩

theorem stretches_succ (start : Nat) (places : List Nat) (c : Char) (t : Text) :
    stretches (start + 1) (places.map (· + 1)) (c :: t) = stretches start places t := by
  induction places generalizing start with
  | nil => rfl
  | cons i more ih => simp [stretches, ih]

theorem stretches_zero (places : List Nat) (c : Char) (t : Text) :
    stretches 0 (places.map (· + 1)) (c :: t) = (stretches 0 places t).modifyHead (c :: ·) := by
  cases places with
  | nil => rfl
  | cons i more => simp [stretches, stretches_succ]

namespace Nesting

theorem filter_cutsIn_cons (delimiter : Text) (s : Nesting) (c : Char) (t : Text) :
    (List.range (c :: t).length).filter (cutsIn delimiter s (c :: t)) =
      (if s.cutsAt delimiter c then [0] else []) ++
        ((List.range t.length).filter (cutsIn delimiter (s.step c) t)).map (· + 1) := by
  rw [List.length_cons, List.range_succ_eq_map, List.filter_cons, List.filter_map, cutsIn_zero]
  have hmore : cutsIn delimiter s (c :: t) ∘ Nat.succ = cutsIn delimiter (s.step c) t := rfl
  rw [hmore]
  split <;> rfl

theorem pieces_eq_stretches (delimiter : Text) (s : Nesting) (t : Text) :
    pieces delimiter s t = stretches 0 ((List.range t.length).filter (cutsIn delimiter s t)) t := by
  induction t generalizing s with
  | nil => rfl
  | cons c t ih =>
    rw [filter_cutsIn_cons, pieces]
    split
    · rename_i hcut
      rw [step_of_cutsAt hcut, ih s, List.singleton_append, stretches, stretches_succ]
      rfl
    · rw [ih (s.step c), List.nil_append, stretches_zero]

end Nesting

theorem cuts_eq (hd : Nesting.isPlain d = true) (t : Text) :
    cuts d t = (List.range t.length).filter (Nesting.cutsIn [d] .outside t) := by
  refine List.filter_congr fun i _ => ?_
  rw [Bool.eq_iff_iff, decide_eq_true_iff]
  exact isCut_iff hd

theorem Nesting.join_pieces (d : Char) (s : Nesting) (t : Text) : Text.join [d] (pieces [d] s t) = t := by
  induction t generalizing s with
  | nil => rfl
  | cons c t ih =>
    rw [pieces]
    split
    · rename_i hcut
      obtain rfl : d = c := by simpa [cutsAt] using (Bool.and_eq_true_iff.mp hcut).2
      obtain ⟨p, ps, hps⟩ := List.exists_cons_of_ne_nil (pieces_ne_nil [d] s t)
      rw [hps, Text.join_cons_cons, ← hps, ih s]
      rfl
    · obtain ⟨p, ps, hps⟩ := List.exists_cons_of_ne_nil (pieces_ne_nil [d] (s.step c) t)
      rw [hps, List.modifyHead_cons, Text.join_cons_head, ← hps, ih]

theorem Nesting.getLast?_pieces (h : (t.foldl step s).cutsAt delimiter c = false) :
    (pieces delimiter s (t ++ [c])).getLast? ≠ some [] := by
  induction t generalizing s with
  | nil =>
    rw [List.foldl_nil] at h
    simp [pieces, h]
  | cons x t ih =>
    obtain ⟨p, ps, hps⟩ := List.exists_cons_of_ne_nil (pieces_ne_nil delimiter (s.step x) (t ++ [c]))
    have hrest := ih h
    rw [List.cons_append, pieces]
    split
    · rename_i hcut
      rw [step_of_cutsAt hcut] at hps hrest
      rw [hps] at hrest ⊢
      simpa using hrest
    · rw [hps] at hrest ⊢
      cases ps with
      | nil => simp
      | cons q qs => simpa using hrest

theorem endsInCut_concat (hd : Nesting.isPlain d = true) :
    EndsInCut d (t ++ [c]) ↔ (t.foldl Nesting.step .outside).cutsAt [d] c = true := by
  rw [EndsInCut, isCut_iff hd, Nesting.cutsIn]
  simp

theorem splitTopLevel_of_endsInCut (hd : Nesting.isPlain d = true) (h : EndsInCut d t) :
    splitTopLevel [d] t = (Nesting.pieces [d] .outside t).dropLast ∧
      Text.join [d] (splitTopLevel [d] t) = t.dropLast := by
  rcases List.eq_nil_or_concat t with rfl | ⟨front, c, rfl⟩
  · exact absurd h.here (by simp)
  · rw [List.concat_eq_append] at h ⊢
    have hcut := (endsInCut_concat hd).mp h
    have hpieces := Nesting.pieces_append_cons hcut []
    rw [splitTopLevel, hpieces, dropEmptyLast]
    simp [Nesting.pieces, Nesting.join_pieces]

theorem splitTopLevel_of_not_endsInCut (hd : Nesting.isPlain d = true) (hne : t ≠ []) (h : ¬EndsInCut d t) :
    splitTopLevel [d] t = Nesting.pieces [d] .outside t := by
  obtain ⟨front, c, rfl⟩ := (List.eq_nil_or_concat t).resolve_left hne
  rw [List.concat_eq_append] at h ⊢
  rw [endsInCut_concat hd, Bool.not_eq_true] at h
  exact if_neg (Nesting.getLast?_pieces h)

theorem IsPart.pieces_eq (hd : Nesting.isPlain d = true) (h : IsPart d t) :
    Nesting.pieces [d] .outside t = [t] := by
  rw [Nesting.pieces_eq_stretches, ← cuts_eq hd, cuts_eq_nil_iff.mpr h.uncut]
  rfl

theorem IsPart.foldl_step (h : IsPart d t) : t.foldl Nesting.step .outside = .outside := by
  have hlevel : excess (outsideLiterals none t) = 0 := h.level
  rw [Nesting.foldl_step_eq]
  simp [Nesting.outside, h.closed, hlevel]

theorem pieces_join (hd : Nesting.isPlain d = true) {p : Text} {parts : List Text}
    (h : ∀ q ∈ p :: parts, IsPart d q) :
    Nesting.pieces [d] .outside (Text.join [d] (p :: parts)) = p :: parts := by
  induction parts generalizing p with
  | nil => exact (h p List.mem_cons_self).pieces_eq hd
  | cons q parts ih =>
    have hp := h p List.mem_cons_self
    have hcut : (p.foldl Nesting.step .outside).cutsAt [d] d = true := by
      rw [hp.foldl_step]
      simp [Nesting.cutsAt, Nesting.outside, hd]
    have hrest := ih fun r hr => h r (List.mem_cons_of_mem p hr)
    rw [Text.join_cons_cons, List.append_assoc, List.singleton_append, Nesting.pieces_append_cons hcut,
      hp.foldl_step, hp.pieces_eq hd, hrest]
    rfl

/-- Splitting takes a text apart at its cuts and nowhere else, so that the parts joined by the delimiter are the
text again, but for a cut at its end; and texts that are balanced and hold no cut come back from their join. -/
theorem splitTopLevel_at_cuts (hd : Nesting.isPlain d = true) :
    splitTopLevel [d] [] = [] ∧
    (∀ t, ¬EndsInCut d t → Text.join [d] (splitTopLevel [d] t) = t ∧
      (t ≠ [] → splitTopLevel [d] t = stretches 0 (cuts d t) t)) ∧
    (∀ t, EndsInCut d t → Text.join [d] (splitTopLevel [d] t) = t.dropLast ∧
      splitTopLevel [d] t = (stretches 0 (cuts d t) t).dropLast) ∧
    ∀ parts, (∀ p ∈ parts, IsPart d p) → (∀ p ∈ parts.getLast?, p ≠ []) →
      splitTopLevel [d] (Text.join [d] parts) = parts := by
  have hpieces : ∀ t, Nesting.pieces [d] .outside t = stretches 0 (cuts d t) t := fun t => by
    rw [Nesting.pieces_eq_stretches, ← cuts_eq hd]
  refine ⟨rfl, fun t h => ?_, fun t h => ?_, fun parts hparts hlast => ?_⟩
  · by_cases hne : t = []
    · subst hne
      exact ⟨rfl, fun hne => absurd rfl hne⟩
    · have hsplit := splitTopLevel_of_not_endsInCut hd hne h
      exact ⟨by rw [hsplit, Nesting.join_pieces], fun _ => hsplit.trans (hpieces t)⟩
  · obtain ⟨hsplit, hjoin⟩ := splitTopLevel_of_endsInCut hd h
    exact ⟨hjoin, by rw [hsplit, hpieces]⟩
  · cases parts with
    | nil => rfl
    | cons p parts =>
      rw [splitTopLevel, pieces_join hd hparts, dropEmptyLast, if_neg]
      exact fun hnil => hlast [] hnil rfl

def lopsidedText : Text :=
  ")(,'a,b',(c,d),"

def lopsidedParts : List Text :=
  [")(", "'a,b'", "(c,d)"]

theorem splitTopLevel_lopsidedText :
    Nesting.isPlain ',' = true ∧ cuts ',' lopsidedText = [2, 8, 14] ∧
    (EndsInCut ',' lopsidedText ∧ Text.join [','] (splitTopLevel [','] lopsidedText) = lopsidedText.dropLast ∧
      splitTopLevel [','] lopsidedText = lopsidedParts) ∧
    (¬EndsInCut ',' lopsidedText.dropLast ∧ lopsidedText.dropLast ≠ [] ∧
      Text.join [','] (splitTopLevel [','] lopsidedText.dropLast) = lopsidedText.dropLast) ∧
    (∀ p ∈ lopsidedParts, IsPart ',' p) ∧ (∀ p ∈ lopsidedParts.getLast?, p ≠ []) ∧
      splitTopLevel [','] (Text.join [','] lopsidedParts) = lopsidedParts := by
  have hplain : Nesting.isPlain ',' = true := by decide
  have hend : EndsInCut ',' lopsidedText := by decide
  have hopen : ¬EndsInCut ',' lopsidedText.dropLast := by decide
  have hparts : ∀ p ∈ lopsidedParts, IsPart ',' p := by decide
  have hlast : ∀ p ∈ lopsidedParts.getLast?, p ≠ [] := by simp [lopsidedParts]
  obtain ⟨-, hwhole, hcut, hback⟩ := splitTopLevel_at_cuts hplain
  obtain ⟨hjoin, hsplit⟩ := hcut _ hend
  exact ⟨hplain, by decide, ⟨hend, hjoin, hsplit.trans (by decide)⟩,
    ⟨hopen, by decide, (hwhole _ hopen).1⟩, hparts, hlast, hback _ hparts hlast⟩

end DdlAtlas.Sql
