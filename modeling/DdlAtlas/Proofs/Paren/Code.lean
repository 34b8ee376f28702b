import DdlAtlas.Proofs.Comment.Lines
import DdlAtlas.Sql.Paren
import Mathlib.Data.Nat.Find
import Mathlib.Order.Bounds.Defs

/-!
# Parentheses in the code of a text

Literals and comments cut the code out of a text, each in one piece: a literal goes up to the next equal quote
that is not doubled, a line comment up to the line break, a block comment up to its closing mark. What is left
is code. The search for a closing parenthesis goes along the text by single characters, with a mode in place of
these pieces; it stops at the first position of the code at which as many parentheses have been closed as
opened.
-/

namespace DdlAtlas.Sql

/-- The length of a literal behind its opening quote: up to the next such quote that is not doubled and with
it, or up to the end. -/
def literalLength (q : Char) : Text → Nat
  | [] => 0
  | [_] => 1
  | c :: d :: rest =>
    if c = q then (if d = q then literalLength q rest + 2 else 1) else literalLength q (d :: rest) + 1

def blockLength : Text → Nat
  | [] => 0
  | c :: rest => if c = '*' ∧ rest.head? = some '/' then 2 else blockLength rest + 1

def quietLength : Text → Nat
  | [] => 0
  | c :: rest =>
    if isQuote c then literalLength c rest + 1
    else if c = '-' ∧ rest.head? = some '-' then (restOfLine rest).length + 1
    else if c = '/' ∧ rest.head? = some '*' then blockLength rest.tail + 2
    else 0

/-- The characters of the code at their positions, with nothing at those of literals and comments. The number
counts the characters still to be passed of a literal or a comment that began before. -/
def codeFrom : Nat → Text → List (Option Char)
  | _, [] => []
  | n + 1, _ :: rest => none :: codeFrom n rest
  | 0, c :: rest =>
    match quietLength (c :: rest) with
    | 0 => some c :: codeFrom 0 rest
    | n + 1 => none :: codeFrom n rest

def codeBehind (t : Text) (start : Nat) : List (Option Char) :=
  codeFrom 0 (t.drop start)

def countInCode (x : Char) (t : Text) (start i : Nat) : Nat :=
  ((codeBehind t start).take (i - start + 1)).count (some x)

/-- A position of the code up to which as many parentheses are closed as opened. -/
structure BalancedAt (t : Text) (start i : Nat) : Prop where
  le : start ≤ i
  code : ∃ c, (codeBehind t start)[i - start]? = some (some c)
  count : countInCode '(' t start i = countInCode ')' t start i

theorem codeFrom_quiet {c : Char} {rest : Text} {n : Nat} (h : quietLength (c :: rest) = n + 1) :
    codeFrom 0 (c :: rest) = none :: codeFrom n rest := by
  rw [codeFrom, h]

theorem codeFrom_code {c : Char} {rest : Text} (h : quietLength (c :: rest) = 0) :
    codeFrom 0 (c :: rest) = some c :: codeFrom 0 rest := by
  rw [codeFrom, h]

inductive Mode.Pending : Mode → Nat → Text → Prop
  | code (t : Text) : Pending .code 0 t
  | literal (q : Char) (t : Text) : Pending (.literal q) (literalLength q t) t
  | escaped (q : Char) (t : Text) : Pending (.escaped q) (literalLength q t + 1) (q :: t)
  | lineComment (t : Text) : Pending .lineComment (restOfLine t).length t
  | blockOpen (c : Char) (t : Text) : Pending .blockOpen (blockLength t + 1) (c :: t)
  | blockComment (t : Text) : Pending .blockComment (blockLength t) t
  | blockClose (c : Char) (t : Text) : Pending .blockClose 1 (c :: t)

structure Mode.Passes (m : Mode) (n : Nat) (c : Char) (t : Text) (x : Option Char) (n' : Nat) : Prop where
  code : codeFrom n (c :: t) = x :: codeFrom n' t
  pending : (m.step c t.head?).Pending n' t
  counted : ∀ p ∈ ['(', ')'], x = some p ↔ m = .code ∧ c = p

theorem Mode.Pending.passes_code (c : Char) (t : Text) : ∃ x n, Mode.code.Passes 0 c t x n := by
  by_cases hq : isQuote c = true
  · have hlength : quietLength (c :: t) = literalLength c t + 1 := by simp [quietLength, hq]
    refine ⟨none, _, codeFrom_quiet hlength, ?_, ?_⟩
    · simpa [Mode.step, hq] using .literal c t
    · have hne : c ≠ '(' ∧ c ≠ ')' := by
        constructor <;> rintro rfl <;> simp [isQuote] at hq
      simp [hne]
  · by_cases hline : c = '-' ∧ t.head? = some '-'
    · have hlength : quietLength (c :: t) = (restOfLine t).length + 1 := by
        rw [quietLength, if_neg hq, if_pos hline]
      refine ⟨none, _, codeFrom_quiet hlength, ?_, ?_⟩
      · simpa [Mode.step, hq, hline] using .lineComment t
      · simp [hline.1]
    · by_cases hblock : c = '/' ∧ t.head? = some '*'
      · obtain ⟨rfl, hhead⟩ := hblock
        obtain ⟨more, rfl⟩ := List.head?_eq_some_iff.mp hhead
        have hlength : quietLength ('/' :: '*' :: more) = blockLength more + 2 := by simp [quietLength, isQuote]
        refine ⟨none, _, codeFrom_quiet hlength, ?_, by simp⟩
        simpa [Mode.step, isQuote] using .blockOpen '*' more
      · have hlength : quietLength (c :: t) = 0 := by
          rw [quietLength, if_neg hq, if_neg hline, if_neg hblock]
        refine ⟨some c, _, codeFrom_code hlength, ?_, by simp⟩
        simp only [Mode.step, hq, hline, hblock, Bool.false_eq_true, if_false]
        exact .code t

theorem Mode.Pending.passes {m : Mode} {n : Nat} {c : Char} {t : Text} (h : m.Pending n (c :: t)) :
    ∃ x n', m.Passes n c t x n' := by
  cases h with
  | code => exact passes_code c t
  | literal q =>
    by_cases hc : c = q
    · subst hc
      cases t with
      | nil => exact ⟨none, 0, rfl, by simpa [Mode.step] using .code [], by simp⟩
      | cons d rest =>
        by_cases hd : d = c
        · subst hd
          refine ⟨none, literalLength d rest + 1, ?_, by simpa [Mode.step] using .escaped d rest, by simp⟩
          rw [literalLength, if_pos rfl, if_pos rfl, codeFrom]
        · refine ⟨none, 0, ?_, by simpa [Mode.step, hd] using .code (d :: rest), by simp⟩
          rw [literalLength, if_pos rfl, if_neg hd, codeFrom]
    · have hlength : literalLength q (c :: t) = literalLength q t + 1 := by
        cases t <;> simp [literalLength, hc]
      refine ⟨none, literalLength q t, ?_, by simpa [Mode.step, hc] using .literal q t, by simp⟩
      rw [hlength, codeFrom]
  | escaped q => exact ⟨none, _, rfl, by simpa [Mode.step] using .literal c t, by simp⟩
  | lineComment =>
    by_cases hc : c = '\n'
    · subst hc
      have hcode : codeFrom 0 ('\n' :: t) = some '\n' :: codeFrom 0 t :=
        codeFrom_code (by simp [quietLength, isQuote])
      exact ⟨some '\n', 0, by simpa [restOfLine] using hcode, by simpa [Mode.step] using .code t, by simp⟩
    · refine ⟨none, _, ?_, by simpa [Mode.step, hc] using .lineComment t, by simp⟩
      have hlength : (restOfLine (c :: t)).length = (restOfLine t).length + 1 := by simp [restOfLine, hc]
      rw [hlength, codeFrom]
  | blockOpen => exact ⟨none, _, rfl, by simpa [Mode.step] using .blockComment t, by simp⟩
  | blockComment =>
    by_cases hc : c = '*' ∧ t.head? = some '/'
    · obtain ⟨more, rfl⟩ := List.head?_eq_some_iff.mp hc.2
      refine ⟨none, 1, ?_, by simpa [Mode.step, hc.1] using .blockClose '/' more, by simp⟩
      rw [blockLength, if_pos hc, codeFrom]
    · refine ⟨none, blockLength t, ?_, by simpa only [Mode.step, if_neg hc] using .blockComment t, by simp⟩
      rw [blockLength, if_neg hc, codeFrom]
  | blockClose => exact ⟨none, 0, rfl, by simpa [Mode.step] using .code t, by simp⟩

def Shuts (depth : Nat) (code : List (Option Char)) (d : Nat) : Prop :=
  (∃ c, code[d]? = some (some c)) ∧
    depth + (code.take (d + 1)).count (some '(') = (code.take (d + 1)).count (some ')')

theorem isLeast_succ_iff {p : Nat → Prop} (h : ¬p 0) {d : Nat} :
    IsLeast {d | p d} (d + 1) ↔ IsLeast {d | p (d + 1)} d := by
  refine and_congr_right fun _ => ⟨fun hleast k hk => ?_, fun hleast k hk => ?_⟩
  · exact Nat.succ_le_succ_iff.mp (hleast hk)
  · cases k with
    | zero => exact absurd hk h
    | succ k => exact Nat.succ_le_succ (hleast hk)

variable {m : Mode} {n n' : Nat} {c : Char} {x : Option Char} {t : Text} {depth : Nat}

theorem Mode.Passes.shuts_succ (h : m.Passes n c t x n') (hdepth : 0 < depth)
    (hpass : ¬(m = .code ∧ c = ')' ∧ depth = 1)) (d : Nat) :
    Shuts depth (codeFrom n (c :: t)) (d + 1) ↔ Shuts (m.depthAfter depth c) (codeFrom n' t) d := by
  have hopen := h.counted '(' (by simp)
  have hclose := h.counted ')' (by simp)
  rw [h.code, Shuts, Shuts, List.getElem?_cons_succ, List.take_succ_cons, List.count_cons, List.count_cons]
  refine and_congr_right fun _ => ?_
  simp only [beq_iff_eq, hopen, hclose, Mode.depthAfter]
  by_cases h1 : m = .code ∧ c = '('
  · simp [h1]
    omega
  · by_cases h2 : m = .code ∧ c = ')'
    · have hmore : depth ≠ 1 := fun hd => hpass ⟨h2.1, h2.2, hd⟩
      simp [h2]
      omega
    · simp [h1, h2]

theorem Mode.Passes.not_shuts_zero (h : m.Passes n c t x n') (hdepth : 0 < depth)
    (hpass : ¬(m = .code ∧ c = ')' ∧ depth = 1)) : ¬Shuts depth (codeFrom n (c :: t)) 0 := by
  have hclose := h.counted ')' (by simp)
  rw [h.code, Shuts]
  rintro ⟨-, hcount⟩
  simp only [List.take_succ_cons, List.take_zero, List.count_singleton, beq_iff_eq, hclose] at hcount
  split at hcount <;> split at hcount <;> simp_all

theorem closingDistance?_eq_some_iff (h : m.Pending n t) (hdepth : 0 < depth) {d : Nat} :
    closingDistance? m depth t = some d ↔ IsLeast {d | Shuts depth (codeFrom n t) d} d := by
  induction t generalizing m n depth d with
  | nil =>
    have hnone : ¬Shuts depth (codeFrom n []) d := by
      rintro ⟨⟨c, hc⟩, -⟩
      cases n <;> simp [codeFrom] at hc
    simp only [closingDistance?, reduceCtorEq, false_iff]
    exact fun hleast => hnone hleast.1
  | cons c t ih =>
    obtain ⟨x, n', hpasses⟩ := h.passes
    rw [closingDistance?]
    split
    · rename_i hstop
      have hfirst : Shuts depth (codeFrom n (c :: t)) 0 := by
        obtain ⟨rfl, rfl, rfl⟩ := hstop
        have hclose : x = some ')' := (hpasses.counted ')' (by simp)).mpr ⟨rfl, rfl⟩
        rw [hpasses.code, hclose]
        exact ⟨⟨')', rfl⟩, rfl⟩
      rw [Option.some.injEq]
      refine ⟨fun hd => ?_, fun hleast => Nat.le_antisymm (Nat.zero_le d) (hleast.2 hfirst)⟩
      rw [← hd]
      exact ⟨hfirst, fun k _ => Nat.zero_le k⟩
    · rename_i hpass
      have hdepth' : 0 < m.depthAfter depth c := by
        unfold Mode.depthAfter
        split
        · omega
        · split
          · rename_i hclose
            have : depth ≠ 1 := fun hd => hpass ⟨hclose.1, hclose.2, hd⟩
            omega
          · exact hdepth
      have hzero := hpasses.not_shuts_zero hdepth hpass
      cases d with
      | zero =>
        refine iff_of_false (fun hd => ?_) fun hleast => hzero hleast.1
        obtain ⟨k, -, hk⟩ := Option.map_eq_some_iff.mp hd
        exact absurd hk (by simp)
      | succ d =>
        rw [isLeast_succ_iff hzero]
        simp only [hpasses.shuts_succ hdepth hpass, ← ih hpasses.pending hdepth']
        simp

theorem count_lt_of_not_shuts {code : List (Option Char)} (hdepth : 0 < depth) {d : Nat}
    (h : ∀ k < d, ¬Shuts depth code k) :
    ∀ k ≤ d, (code.take k).count (some ')') < depth + (code.take k).count (some '(') := by
  intro k
  induction k with
  | zero => simpa using hdepth
  | succ k ih =>
    intro hk
    have hbefore := ih (by omega)
    have hopen := h k (by omega)
    rw [Shuts] at hopen
    rw [List.take_add_one, List.count_append, List.count_append] at hopen ⊢
    cases hx : code[k]? with
    | none => simpa using hbefore
    | some x =>
      cases x with
      | none => simpa using hbefore
      | some c =>
        -- one more closing parenthesis would make the counts equal, and so shut all
        simp only [hx, Option.toList_some] at hopen ⊢
        have hone : [some c].count (some ')') ≤ 1 := List.count_le_length
        have hne : ¬_ := fun he => hopen ⟨⟨c, rfl⟩, he⟩
        omega

theorem getElem?_of_codeFrom {d : Nat} (h : (codeFrom n t)[d]? = some (some c)) : t[d]? = some c := by
  induction t generalizing n d with
  | nil => cases n <;> simp [codeFrom] at h
  | cons y t ih =>
    have hcode : ∃ x n', codeFrom n (y :: t) = x :: codeFrom n' t ∧ (x = some c → y = c) := by
      cases n with
      | succ n => exact ⟨none, n, rfl, by simp⟩
      | zero =>
        cases hlength : quietLength (y :: t) with
        | zero => exact ⟨some y, 0, codeFrom_code hlength, by simp⟩
        | succ k => exact ⟨none, k, codeFrom_quiet hlength, by simp⟩
    obtain ⟨x, n', heq, hx⟩ := hcode
    rw [heq] at h
    cases d with
    | zero => simpa using hx (by simpa using h)
    | succ d => simpa using ih (by simpa using h)

theorem closingDistance?_append {d : Nat} (h : closingDistance? m depth t = some d) (more : Text) :
    closingDistance? m depth (t ++ more) = some d := by
  induction t generalizing m depth d with
  | nil => cases h
  | cons c t ih =>
    rw [closingDistance?] at h
    rw [List.cons_append, closingDistance?]
    split at h
    · rw [if_pos ‹_›]
      exact h
    · rw [if_neg ‹_›]
      obtain ⟨k, hk, rfl⟩ := Option.map_eq_some_iff.mp h
      have hhead : (t ++ more).head? = t.head? := by
        cases t with
        | nil => cases hk
        | cons d t => rfl
      rw [hhead, ih hk]
      rfl

theorem closingParen?_eq_some_iff {start i : Nat} : closingParen? t start = some i ↔
    ∃ rest d, t.drop start = '(' :: rest ∧ closingDistance? .code 1 rest = some d ∧ i = start + 1 + d := by
  rw [closingParen?]
  cases t.drop start with
  | nil => simp
  | cons c rest =>
    by_cases hc : c = '('
    · simp only [hc, if_true, Option.map_eq_some_iff, List.cons.injEq, true_and]
      constructor
      · rintro ⟨d, hd, hi⟩
        exact ⟨rest, d, rfl, hd, hi.symm⟩
      · rintro ⟨_, d, rfl, hd, hi⟩
        exact ⟨d, hd, hi.symm⟩
    · simp [hc]

section Position

variable {start i : Nat} {rest : Text}

theorem balancedAt_iff : BalancedAt t start i ↔ start ≤ i ∧ Shuts 0 (codeBehind t start) (i - start) := by
  constructor
  · rintro ⟨hle, hcode, hcount⟩
    exact ⟨hle, hcode, (Nat.zero_add _).trans hcount⟩
  · rintro ⟨hle, hcode, hcount⟩
    exact ⟨hle, hcode, (Nat.zero_add _).symm.trans hcount⟩

theorem codeBehind_of_open (h : t.drop start = '(' :: rest) :
    codeBehind t start = some '(' :: codeFrom 0 rest := by
  rw [codeBehind, h, codeFrom_code (by simp [quietLength, isQuote])]

theorem balancedAt_iff_of_open (h : t.drop start = '(' :: rest) :
    BalancedAt t start i ↔ ∃ d, i = start + 1 + d ∧ Shuts 1 (codeFrom 0 rest) d := by
  have hshift : ∀ d, Shuts 0 (some '(' :: codeFrom 0 rest) (d + 1) ↔ Shuts 1 (codeFrom 0 rest) d := by
    intro d
    rw [Shuts, Shuts, List.getElem?_cons_succ, List.take_succ_cons]
    refine and_congr_right fun _ => ?_
    simp
    omega
  rw [balancedAt_iff, codeBehind_of_open h]
  constructor
  · rintro ⟨hle, hshuts⟩
    cases hd : i - start with
    | zero =>
      rw [hd] at hshuts
      exact absurd hshuts.2 (by simp)
    | succ d =>
      rw [hd, hshift] at hshuts
      exact ⟨d, by omega, hshuts⟩
  · rintro ⟨d, rfl, hshuts⟩
    rw [show start + 1 + d - start = d + 1 by omega, hshift]
    exact ⟨by omega, hshuts⟩

theorem isLeast_balancedAt_iff (h : t.drop start = '(' :: rest) {d : Nat} :
    IsLeast {i | BalancedAt t start i} (start + 1 + d) ↔ IsLeast {d | Shuts 1 (codeFrom 0 rest) d} d := by
  refine and_congr ?_ ⟨fun hleast k hk => ?_, fun hleast j hj => ?_⟩
  · refine (balancedAt_iff_of_open h).trans ⟨?_, fun hd => ⟨d, rfl, hd⟩⟩
    rintro ⟨k, hk, hshuts⟩
    obtain rfl : d = k := by omega
    exact hshuts
  · have := hleast ((balancedAt_iff_of_open h).mpr ⟨k, rfl, hk⟩)
    omega
  · obtain ⟨k, rfl, hk⟩ := (balancedAt_iff_of_open h).mp hj
    have := hleast hk
    omega

theorem getElem?_of_open (h : t.drop start = '(' :: rest) (d : Nat) : t[start + 1 + d]? = rest[d]? := by
  have hdrop := congrArg (·[d + 1]?) h
  simp only [List.getElem?_drop, List.getElem?_cons_succ] at hdrop
  rw [← hdrop, show start + (d + 1) = start + 1 + d by omega]

theorem getElem?_of_isLeast {d : Nat} (h : IsLeast {d | Shuts 1 (codeFrom 0 rest) d} d) : rest[d]? = some ')' := by
  obtain ⟨⟨c, hc⟩, hcount⟩ := h.1
  have hbefore := count_lt_of_not_shuts Nat.one_pos (fun k hk hshuts => Nat.not_le.mpr hk (h.2 hshuts)) d
    (Nat.le_refl d)
  rw [List.take_add_one, hc, Option.toList_some, List.count_append, List.count_append] at hcount
  have hclose : c = ')' := by
    refine Decidable.byContradiction fun hne => ?_
    simp only [List.count_singleton, beq_iff_eq, Option.some.injEq, hne, if_false] at hcount
    omega
  exact hclose ▸ getElem?_of_codeFrom hc

theorem closingParen?_append (h : closingParen? t start = some i) (more : Text) :
    closingParen? (t ++ more) start = some i := by
  obtain ⟨rest, d, hopen, hd, rfl⟩ := closingParen?_eq_some_iff.mp h
  have hle : start ≤ t.length := by
    have := congrArg List.length hopen
    simp only [List.length_drop, List.length_cons] at this
    omega
  refine closingParen?_eq_some_iff.mpr ⟨rest ++ more, d, ?_, closingDistance?_append hd more, rfl⟩
  rw [List.drop_append_of_le_length hle, hopen]
  rfl

theorem exists_drop_of_getElem? (h : t[start]? = some '(') : ∃ rest, t.drop start = '(' :: rest := by
  rw [← List.head?_drop] at h
  exact List.head?_eq_some_iff.mp h

end Position

/-- The parenthesis that closes the one at a position is the first position of the code behind it up to which as
many parentheses are closed as opened, if there is any; all positions before it leave one open. Nothing that is
appended changes it. -/
theorem closingParen?_balanced (t : Text) (start : Nat) :
    (∀ i, closingParen? t start = some i ↔ t[start]? = some '(' ∧ IsLeast {i | BalancedAt t start i} i) ∧
    (closingParen? t start = none ↔ (t[start]? = some '(' → ∀ i, ¬BalancedAt t start i)) ∧
    ∀ i, closingParen? t start = some i →
      t[i]? = some ')' ∧
      (∀ j, start ≤ j → j < i → countInCode ')' t start j < countInCode '(' t start j) ∧
      ∀ more, closingParen? (t ++ more) start = some i := by
  have hsome : ∀ i, closingParen? t start = some i ↔
      t[start]? = some '(' ∧ IsLeast {i | BalancedAt t start i} i := by
    intro i
    rw [closingParen?_eq_some_iff]
    constructor
    · rintro ⟨rest, d, hopen, hd, rfl⟩
      refine ⟨by simpa [hopen] using (List.head?_drop (l := t) (i := start)).symm, ?_⟩
      rwa [isLeast_balancedAt_iff hopen, ← closingDistance?_eq_some_iff (.code rest) Nat.one_pos]
    · rintro ⟨hstart, hleast⟩
      obtain ⟨rest, hopen⟩ := exists_drop_of_getElem? hstart
      obtain ⟨d, rfl, -⟩ := (balancedAt_iff_of_open hopen).mp hleast.1
      rw [isLeast_balancedAt_iff hopen, ← closingDistance?_eq_some_iff (.code rest) Nat.one_pos] at hleast
      exact ⟨rest, d, hopen, hleast, rfl⟩
  refine ⟨hsome, ⟨fun hnone hstart i hi => ?_, fun hnone => ?_⟩, fun i hi => ⟨?_, fun j hstart hj => ?_, ?_⟩⟩
  · classical
    have hex : ∃ i, BalancedAt t start i := ⟨i, hi⟩
    have hfound := (hsome _).mpr ⟨hstart, Nat.find_spec hex, fun k hk => Nat.find_min' hex hk⟩
    rw [hnone] at hfound
    cases hfound
  · cases hi : closingParen? t start with
    | none => rfl
    | some i =>
      obtain ⟨hstart, hleast⟩ := (hsome i).mp hi
      exact absurd hleast.1 (hnone hstart i)
  · obtain ⟨rest, d, hopen, hd, rfl⟩ := closingParen?_eq_some_iff.mp hi
    rw [getElem?_of_open hopen]
    exact getElem?_of_isLeast ((closingDistance?_eq_some_iff (.code rest) Nat.one_pos).mp hd)
  · obtain ⟨rest, d, hopen, hd, rfl⟩ := closingParen?_eq_some_iff.mp hi
    have hleast := (closingDistance?_eq_some_iff (.code rest) Nat.one_pos).mp hd
    have hbefore := count_lt_of_not_shuts Nat.one_pos
      (fun k hk hshuts => Nat.not_le.mpr hk (hleast.2 hshuts)) (j - start) (by omega)
    rw [countInCode, countInCode, codeBehind_of_open hopen, List.take_succ_cons]
    simpa [Nat.add_comm] using hbefore
  · exact closingParen?_append hi

def guardedCall : Text :=
  "f('(', \"a\"\")\" /* ) */ -- )\n(1)) + g)"

theorem closingParen?_guardedCall :
    (closingParen? guardedCall 1 = some 30 ∧ guardedCall[30]? = some ')' ∧
      (∀ j, 1 ≤ j → j < 30 → countInCode ')' guardedCall 1 j < countInCode '(' guardedCall 1 j) ∧
      ∀ more, closingParen? (guardedCall ++ more) 1 = some 30) ∧
    ("(/*/ )" : Text)[0]? = some '(' ∧ closingParen? "(/*/ )" 0 = none ∧ ∀ i, ¬BalancedAt "(/*/ )" 0 i := by
  have hfound : closingParen? guardedCall 1 = some 30 := by decide
  have hopen : ("(/*/ )" : Text)[0]? = some '(' := by decide
  have hnone : closingParen? "(/*/ )" 0 = none := by decide
  exact ⟨⟨hfound, (closingParen?_balanced guardedCall 1).2.2 30 hfound⟩, hopen, hnone,
    (closingParen?_balanced "(/*/ )" 0).2.1.mp hnone hopen⟩

end DdlAtlas.Sql
