import DdlAtlas.Proofs.Comment.Lines
import DdlAtlas.Proofs.Text.Blank
import DdlAtlas.Sql.Paren
import DdlAtlas.Sql.PolicyBody

/-!
# Closed texts

A text is closed when its parentheses balance outside its literals and no literal stays open. The
parenthesis behind a closed text is the one that closes the text, also for the lexer, which takes a
doubled quote in one piece where the nesting closes a literal and opens the next one.
-/

namespace DdlAtlas.Sql

namespace Nesting

/-- The text leads from a nesting to the outside and its depth never falls below zero. -/
def Closes : Nesting → Text → Prop
  | s, [] => s = outside
  | s, c :: rest => 0 ≤ (s.step c).depth ∧ Closes (s.step c) rest

instance decidableCloses : (s : Nesting) → (t : Text) → Decidable (s.Closes t)
  | _, [] => inferInstanceAs (Decidable (_ = _))
  | s, c :: rest =>
    have := decidableCloses (s.step c) rest
    inferInstanceAs (Decidable (_ ∧ _))

end Nesting

/-- Outside literals the parentheses balance, and no literal stays open. -/
def Closed (t : Text) : Prop :=
  Nesting.outside.Closes t

instance (t : Text) : Decidable (Closed t) :=
  inferInstanceAs (Decidable (Nesting.Closes _ _))

theorem Nesting.isPlain_of_isBlank {c : Char} (hc : Text.isBlank c = true) :
    Nesting.isPlain c = true := by
  have hnat := Text.toNat_of_isBlank hc
  have hne : ∀ x : Char, 32 < x.toNat ∧ x.toNat < 128 → c ≠ x := by
    rintro x hx rfl
    omega
  simp [Nesting.isPlain, isQuote, hne '\'' (by decide), hne '"' (by decide), hne '(' (by decide),
    hne ')' (by decide)]

theorem closed_of_plain {t : Text} (h : ∀ c ∈ t, Nesting.isPlain c = true) : Closed t := by
  rw [Closed]
  induction t with
  | nil => rfl
  | cons c t ih =>
    have hplain := h c List.mem_cons_self
    have hstep : Nesting.outside.step c = .outside := by
      simp only [Nesting.isPlain, Bool.and_eq_true, Bool.not_eq_true', bne_iff_ne, ne_eq] at hplain
      simp [Nesting.step, Nesting.outside, hplain.1.1, hplain.1.2, hplain.2]
    rw [Nesting.Closes, hstep]
    exact ⟨Int.le_refl 0, ih fun x hx => h x (List.mem_cons_of_mem c hx)⟩

theorem Nesting.Closes.append {s : Nesting} {t u : Text} (ht : s.Closes t) (hu : Closed u) :
    s.Closes (t ++ u) := by
  induction t generalizing s with
  | nil =>
    obtain rfl : s = outside := ht
    exact hu
  | cons c t ih => exact ⟨ht.1, ih ht.2⟩

theorem Nesting.Closes.foldl_step {s : Nesting} {t : Text} (h : s.Closes t) :
    t.foldl Nesting.step s = outside := by
  induction t generalizing s with
  | nil => exact h
  | cons c t ih => exact ih h.2

theorem Nesting.step_deeper (s : Nesting) (c : Char) :
    step ⟨s.quote, s.depth + 1⟩ c = ⟨(s.step c).quote, (s.step c).depth + 1⟩ := by
  obtain ⟨quote, depth⟩ := s
  cases quote with
  | none =>
    by_cases hq : isQuote c = true
    · simp [step, hq]
    · by_cases hopen : c = '('
      · simp [step, hopen, isQuote]
      · by_cases hclose : c = ')'
        · simp [step, hclose, isQuote]
        · simp [step, hq, hopen, hclose]
  | some q => by_cases hc : c = q <;> simp [step, hc]

theorem Nesting.step_of_isQuote {q : Char} (hq : isQuote q = true) (depth : Int) :
    Nesting.step ⟨none, depth⟩ q = ⟨some q, depth⟩ := by
  simp [Nesting.step, hq]

theorem Nesting.closes_literal {q : Char} {t : Text} (h : q ∉ t) : Nesting.Closes ⟨some q, 0⟩ (t ++ [q]) := by
  induction t with
  | nil => exact ⟨by simp [Nesting.step], by simp [Nesting.step, Nesting.Closes, outside]⟩
  | cons c t ih =>
    have hc : c ≠ q := fun he => h (he ▸ List.mem_cons_self)
    have hstep : Nesting.step ⟨some q, 0⟩ c = ⟨some q, 0⟩ := by simp [Nesting.step, hc]
    rw [List.cons_append, Nesting.Closes, hstep]
    exact ⟨Int.le_refl 0, ih fun hm => h (List.mem_cons_of_mem c hm)⟩

theorem closed_quoted {q : Char} (hq : isQuote q = true) {t : Text} (h : q ∉ t) : Closed (q :: (t ++ [q])) := by
  rw [Closed, Nesting.outside, Nesting.Closes, Nesting.step_of_isQuote hq]
  exact ⟨Int.le_refl 0, Nesting.closes_literal h⟩

/-- The mode of the lexer and the nesting fit together in front of a text: the second quote of a
doubled one stands outside for the nesting, which has just left a literal. -/
inductive Mode.Fits : Mode → Option Char → Text → Prop
  | code (t : Text) : Fits .code none t
  | literal {q : Char} (hq : isQuote q = true) (t : Text) : Fits (.literal q) (some q) t
  | escaped {q : Char} (hq : isQuote q = true) (t : Text) : Fits (.escaped q) none (q :: t)

theorem ne_paren_of_isQuote {q : Char} (hq : isQuote q = true) : q ≠ '(' ∧ q ≠ ')' := by
  constructor
  · rintro rfl
    simp [isQuote] at hq
  · rintro rfl
    simp [isQuote] at hq

theorem head?_append_paren {x : Char} {t rest : Text} (hx : x ≠ ')')
    (h : (t ++ ')' :: rest).head? = some x) : t.head? = some x := by
  cases t with
  | nil => exact absurd (Option.some.inj h).symm hx
  | cons c t => exact h

theorem Unmarked.of_cons {c : Char} {t : Text} (h : Unmarked (c :: t)) : Unmarked t :=
  ⟨absent_of_cons h.1, absent_of_cons h.2⟩

theorem Mode.Fits.step {m : Mode} {s : Nesting} {c : Char} {t rest : Text}
    (h : m.Fits s.quote (c :: t)) (hu : Unmarked (c :: t)) :
    (m.step c (t ++ ')' :: rest).head?).Fits (s.step c).quote t := by
  obtain ⟨quote, depth⟩ := s
  cases h with
  | code =>
    have hline : ¬(c = '-' ∧ (t ++ ')' :: rest).head? = some '-') := fun hc =>
      head?_ne_of_absent hu.1 ⟨hc.1, head?_append_paren (by decide) hc.2⟩
    have hblock : ¬(c = '/' ∧ (t ++ ')' :: rest).head? = some '*') := fun hc =>
      head?_ne_of_absent hu.2 ⟨hc.1, head?_append_paren (by decide) hc.2⟩
    by_cases hq : isQuote c = true
    · simpa [Mode.step, Nesting.step, hq] using .literal hq t
    · have hquote : (Nesting.step ⟨none, depth⟩ c).quote = none := by
        simp only [Nesting.step, hq, Bool.false_eq_true, if_false]
        split
        · rfl
        · split <;> rfl
      rw [hquote]
      simp only [Mode.step, hq, hline, hblock, Bool.false_eq_true, if_false]
      exact .code t
  | @literal q hq =>
    by_cases hc : c = q
    · subst hc
      by_cases hnext : (t ++ ')' :: rest).head? = some c
      · have ht := head?_append_paren (ne_paren_of_isQuote hq).2 hnext
        obtain ⟨more, rfl⟩ := List.head?_eq_some_iff.mp ht
        simpa [Mode.step, Nesting.step] using .escaped hq more
      · simp only [Mode.step, Nesting.step, hnext, if_true, if_false]
        exact .code t
    · simpa [Mode.step, Nesting.step, hc] using .literal hq t
  | escaped hq => simpa [Mode.step, Nesting.step, hq] using .literal hq t

theorem Mode.Fits.depthAfter {m : Mode} {s : Nesting} {c : Char} {t : Text} {depth : Nat}
    (h : m.Fits s.quote (c :: t)) (hdepth : s.depth = depth) (hpos : 0 ≤ (s.step c).depth) :
    (s.step c).depth + 1 = m.depthAfter (depth + 1) c := by
  obtain ⟨quote, d⟩ := s
  obtain rfl : d = depth := hdepth
  cases h with
  | code =>
    by_cases hq : isQuote c = true
    · obtain ⟨h1, h2⟩ := ne_paren_of_isQuote hq
      simp [Nesting.step, Mode.depthAfter, hq, h1, h2]
    · by_cases hopen : c = '('
      · simp [Nesting.step, Mode.depthAfter, hopen, isQuote]
      · by_cases hclose : c = ')'
        · simp [Nesting.step, Mode.depthAfter, hclose, isQuote]
        · simp [Nesting.step, Mode.depthAfter, hq, hopen, hclose]
  | @literal q hq =>
    by_cases hc : c = q
    · simp [Nesting.step, Mode.depthAfter, hc]
    · simp [Nesting.step, Mode.depthAfter, hc]
  | escaped hq => simp [Nesting.step, Mode.depthAfter, hq]

theorem Mode.Fits.passes {m : Mode} {s : Nesting} {c : Char} {t : Text} {depth : Nat}
    (h : m.Fits s.quote (c :: t)) (hdepth : s.depth = depth) (hpos : 0 ≤ (s.step c).depth) :
    ¬(m = .code ∧ c = ')' ∧ depth + 1 = 1) := by
  rintro ⟨rfl, rfl, hone⟩
  have hafter := h.depthAfter hdepth hpos
  simp [Mode.depthAfter, hone] at hafter
  omega

theorem closingDistance?_of_closes {s : Nesting} {m : Mode} {depth : Nat} {t : Text}
    (h : s.Closes t) (hu : Unmarked t) (hm : m.Fits s.quote t) (hdepth : s.depth = depth)
    (rest : Text) : closingDistance? m (depth + 1) (t ++ ')' :: rest) = some t.length := by
  induction t generalizing s m depth with
  | nil =>
    obtain rfl : s = .outside := h
    obtain rfl : depth = 0 := by
      have : (0 : Int) = depth := hdepth
      omega
    cases hm
    simp [closingDistance?]
  | cons c t ih =>
    obtain ⟨hpos, hrest⟩ := h
    have hafter := hm.depthAfter hdepth hpos
    obtain ⟨d, hd⟩ := Int.eq_ofNat_of_zero_le hpos
    have hd' : m.depthAfter (depth + 1) c = d + 1 := by omega
    rw [List.cons_append, closingDistance?, if_neg (hm.passes hdepth hpos), hd', ih hrest hu.of_cons (hm.step hu) hd]
    simp

theorem Closed.closingDistance? {t : Text} (h : Closed t) (hu : Unmarked t) (rest : Text) :
    closingDistance? .code 1 (t ++ ')' :: rest) = some t.length :=
  closingDistance?_of_closes h hu (.code t) rfl rest

def Nesting.AtEnd (s : Nesting) : Prop :=
  s.quote = none ∧ s.depth ≤ 0

instance (s : Nesting) : Decidable s.AtEnd :=
  inferInstanceAs (Decidable (_ ∧ _))

def Nesting.RunsOn : Nesting → Text → Prop
  | _, [] => True
  | s, c :: rest => ¬(c = ';' ∧ s.AtEnd) ∧ RunsOn (s.step c) rest

instance Nesting.decidableRunsOn : (s : Nesting) → (t : Text) → Decidable (s.RunsOn t)
  | _, [] => inferInstanceAs (Decidable True)
  | s, c :: rest =>
    have := decidableRunsOn (s.step c) rest
    inferInstanceAs (Decidable (_ ∧ _))

theorem Nesting.runsOn_of_not_mem {s : Nesting} {t : Text} (hsemi : ';' ∉ t) : s.RunsOn t := by
  induction t generalizing s with
  | nil => trivial
  | cons c t ih =>
    exact ⟨fun hc => hsemi (hc.1 ▸ List.mem_cons_self), ih fun hm => hsemi (List.mem_cons_of_mem c hm)⟩

theorem Nesting.RunsOn.statementExtent_append {s : Nesting} {t : Text} (h : s.RunsOn t) (rest : Text) :
    statementExtent s (t ++ rest) = t ++ statementExtent (t.foldl Nesting.step s) rest := by
  induction t generalizing s with
  | nil => rfl
  | cons c t ih =>
    rw [List.cons_append, statementExtent, if_neg fun hcut => h.1 ⟨hcut.2.1, hcut.1, hcut.2.2⟩, ih h.2]
    rfl

theorem Nesting.AtEnd.statementExtent_semicolon {s : Nesting} (h : s.AtEnd) (rest : Text) :
    statementExtent s (';' :: rest) = [] :=
  if_pos ⟨h.1, rfl, h.2⟩

theorem Nesting.RunsOn.firstStatement_eq {t : Text} (h : outside.RunsOn t) :
    firstStatement t = Text.trimEnd t := by
  have hwhole : statementExtent .outside t = t := by
    simpa [statementExtent] using h.statementExtent_append []
  rw [firstStatement, hwhole]

theorem Nesting.RunsOn.firstStatement_semicolon {t : Text} (h : outside.RunsOn t)
    (hend : (t.foldl Nesting.step outside).AtEnd) (rest : Text) :
    firstStatement (t ++ ';' :: rest) = Text.trimEnd t := by
  rw [firstStatement, h.statementExtent_append, hend.statementExtent_semicolon, List.append_nil]

theorem statementExtent_append {s : Nesting} {t : Text} (hsemi : ';' ∉ t) (rest : Text) :
    statementExtent s (t ++ rest) = t ++ statementExtent (t.foldl Nesting.step s) rest :=
  (Nesting.runsOn_of_not_mem hsemi).statementExtent_append rest

theorem statementExtent_of_not_mem {s : Nesting} {t : Text} (hsemi : ';' ∉ t) :
    statementExtent s t = t := by
  simpa [statementExtent] using statementExtent_append (s := s) hsemi []

def Uncut (t : Text) : Prop :=
  ∀ rest, statementExtent .outside (t ++ rest) = t ++ statementExtent .outside rest

theorem uncut_nil : Uncut [] :=
  fun _ => rfl

theorem Uncut.append {t u : Text} (ht : Uncut t) (hu : Uncut u) : Uncut (t ++ u) := fun rest => by
  rw [List.append_assoc, ht, hu, List.append_assoc]

theorem Uncut.statementExtent_eq {t : Text} (h : Uncut t) : statementExtent .outside t = t := by
  simpa [statementExtent] using h []

theorem Closed.uncut {t : Text} (h : Closed t) (hsemi : ';' ∉ t) : Uncut t := fun rest => by
  rw [statementExtent_append hsemi, Nesting.Closes.foldl_step h]

theorem statementExtent_deeper {s : Nesting} {t : Text} (h : s.Closes t) (hdepth : 0 ≤ s.depth)
    (rest : Text) : statementExtent ⟨s.quote, s.depth + 1⟩ (t ++ rest) =
      t ++ statementExtent ⟨none, 1⟩ rest := by
  induction t generalizing s with
  | nil =>
    obtain rfl : s = .outside := h
    rfl
  | cons c t ih =>
    have hopen : ¬(s.quote = none ∧ c = ';' ∧ s.depth + 1 ≤ 0) := by
      rintro ⟨-, -, hclosed⟩
      omega
    rw [List.cons_append, statementExtent, if_neg hopen, Nesting.step_deeper, ih h.2 h.1]
    rfl

theorem Closed.uncut_enclosed {t : Text} (h : Closed t) : Uncut ('(' :: (t ++ [')'])) := fun rest => by
  have hinner := statementExtent_deeper h (Int.le_refl 0) (')' :: rest)
  have houtside : Nesting.step ⟨none, 1⟩ ')' = .outside := rfl
  have hinside : Nesting.step .outside '(' = ⟨none, 1⟩ := rfl
  have hshape : '(' :: (t ++ [')']) ++ rest = '(' :: (t ++ ')' :: rest) := by simp
  rw [hshape, statementExtent, if_neg (by simp), hinside]
  refine (congrArg ('(' :: ·) hinner).trans ?_
  rw [statementExtent, if_neg (by simp), houtside]
  simp

theorem Closed.firstStatement_append {t : Text} (h : Closed t) (hsemi : ';' ∉ t) (rest : Text) :
    firstStatement (t ++ ';' :: rest) = firstStatement t := by
  have hend : (t.foldl Nesting.step .outside).AtEnd := by
    rw [Nesting.Closes.foldl_step h]
    decide
  have hruns : Nesting.outside.RunsOn t := Nesting.runsOn_of_not_mem hsemi
  rw [hruns.firstStatement_semicolon hend, hruns.firstStatement_eq]

end DdlAtlas.Sql
