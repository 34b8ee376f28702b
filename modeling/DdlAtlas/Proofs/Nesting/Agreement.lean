import DdlAtlas.Proofs.Nesting.Closed
import Mathlib.Data.List.Basic

/-!
# The two scans agree

A scan by nesting closes a literal at each of its quotes, the search for a closing parenthesis passes over
doubled ones. On a text in which no comment begins they agree on what is closed: the parenthesis behind a text
closes the one in front of it just when the text is closed. They also agree on its top-level commas, which are
those that the search passes in code with one parenthesis open, so that a closed text is split by itself,
whatever stands behind it.
-/

namespace DdlAtlas.Sql

/-- The characters that the search passes until it stops, each with whether it is a comma met in code with one
parenthesis open. -/
def passedCommas (m : Mode) (depth : Nat) : Text → List (Char × Bool)
  | [] => []
  | c :: rest =>
    if m = .code ∧ c = ')' ∧ depth = 1 then []
    else (c, m = .code ∧ c = ',' ∧ depth = 1) ::
      passedCommas (m.step c rest.head?) (m.depthAfter depth c) rest

def betweenMarks : List (Char × Bool) → List Text
  | [] => [[]]
  | (c, marked) :: rest => if marked then [] :: betweenMarks rest else (betweenMarks rest).modifyHead (c :: ·)

section Fits

variable {m : Mode} {s : Nesting} {c : Char} {t : Text} {depth : Nat}

theorem Mode.Fits.nonneg_step (h : m.Fits s.quote (c :: t)) (hdepth : s.depth = depth)
    (hpass : ¬(m = .code ∧ c = ')' ∧ depth + 1 = 1)) : 0 ≤ (s.step c).depth := by
  obtain ⟨quote, d⟩ := s
  obtain rfl : d = depth := hdepth
  cases h with
  | code =>
    by_cases hq : isQuote c = true
    · simp [Nesting.step, hq]
    · by_cases hopen : c = '('
      · simp [Nesting.step, hopen, isQuote]
        omega
      · by_cases hclose : c = ')'
        · have hmore : depth ≠ 0 := fun hd => hpass ⟨rfl, hclose, by rw [hd]⟩
          simp [Nesting.step, hclose, isQuote]
          omega
        · simp [Nesting.step, hq, hopen, hclose]
  | literal hq => by_cases hc : c = ‹Char› <;> simp [Nesting.step, hc]
  | escaped hq => simp [Nesting.step, hq]

theorem Mode.Fits.cutsAt_eq (h : m.Fits s.quote (c :: t)) (hdepth : s.depth = depth) :
    s.cutsAt [','] c = decide (m = .code ∧ c = ',' ∧ depth + 1 = 1) := by
  obtain ⟨quote, d⟩ := s
  obtain rfl : d = depth := hdepth
  cases h with
  | code =>
    rw [Bool.eq_iff_iff]
    by_cases hc : c = ','
    · simp [Nesting.cutsAt, hc, Nesting.isPlain, isQuote]
    · simp [Nesting.cutsAt, hc, Ne.symm hc]
  | literal hq => simp [Nesting.cutsAt]
  | escaped hq => simp [Nesting.cutsAt, Nesting.isPlain, hq]

end Fits

theorem Nesting.step_of_cutsAt {s : Nesting} {delimiter : Text} {c : Char} (h : s.cutsAt delimiter c = true) :
    s.step c = s := by
  simp only [cutsAt, Bool.and_eq_true, Option.isNone_iff_eq_none] at h
  obtain ⟨⟨⟨hquote, -⟩, hplain⟩, -⟩ := h
  simp only [isPlain, Bool.and_eq_true, Bool.not_eq_true', bne_iff_ne, ne_eq] at hplain
  simp [step, hquote, hplain]

theorem Nesting.pieces_ne_nil (delimiter : Text) (s : Nesting) (t : Text) : pieces delimiter s t ≠ [] := by
  induction t generalizing s with
  | nil => simp [pieces]
  | cons c t ih =>
    rw [pieces]
    split
    · simp
    · simpa using ih (s.step c)

theorem Nesting.pieces_append_cons {delimiter : Text} {s : Nesting} {t : Text} {c : Char}
    (h : (t.foldl step s).cutsAt delimiter c = true) (rest : Text) :
    pieces delimiter s (t ++ c :: rest) =
      pieces delimiter s t ++ pieces delimiter (t.foldl step s) rest := by
  induction t generalizing s with
  | nil =>
    have hcut : s.cutsAt delimiter c = true := h
    rw [List.nil_append, pieces, pieces, if_pos hcut]
    rfl
  | cons d t ih =>
    rw [List.cons_append, pieces, pieces, List.foldl_cons]
    split
    · rename_i hcut
      rw [List.foldl_cons, step_of_cutsAt hcut] at h
      rw [step_of_cutsAt hcut, ih h]
      rfl
    · obtain ⟨p, ps, hp⟩ := List.exists_cons_of_ne_nil (pieces_ne_nil delimiter (s.step d) t)
      rw [ih h, hp]
      rfl

theorem dropEmptyLast_append {parts more : List Text} (h : more ≠ []) :
    dropEmptyLast (parts ++ more) = parts ++ dropEmptyLast more := by
  rw [dropEmptyLast, dropEmptyLast, List.getLast?_append_of_ne_nil parts h]
  split
  · exact List.dropLast_append_of_ne_nil h
  · rfl

theorem Closed.splitTopLevel_append {t : Text} (h : Closed t) (rest : Text) :
    splitTopLevel "," (t ++ ',' :: rest) = Nesting.pieces [','] .outside t ++ splitTopLevel "," rest := by
  have hfold := Nesting.Closes.foldl_step h
  have hcut : (t.foldl Nesting.step .outside).cutsAt [','] ',' = true := by rw [hfold]; rfl
  have hpieces := Nesting.pieces_append_cons hcut rest
  rw [hfold] at hpieces
  exact (congrArg dropEmptyLast hpieces).trans (dropEmptyLast_append (Nesting.pieces_ne_nil _ _ _))

section Search

variable {m : Mode} {s : Nesting} {t : Text} {depth : Nat}

theorem Nesting.closes_of_closingDistance? (hu : Unmarked t) (hm : m.Fits s.quote t) (hdepth : s.depth = depth)
    {rest : Text} (h : closingDistance? m (depth + 1) (t ++ ')' :: rest) = some t.length) : s.Closes t := by
  induction t generalizing s m depth with
  | nil =>
    rw [List.nil_append, closingDistance?] at h
    split at h
    · rename_i hstop
      obtain ⟨rfl, -, hzero⟩ := hstop
      obtain ⟨quote, d⟩ := s
      obtain rfl : d = depth := hdepth
      obtain rfl : depth = 0 := by omega
      cases hm
      rfl
    · obtain ⟨k, -, hk⟩ := Option.map_eq_some_iff.mp h
      exact absurd hk (by simp)
  | cons c t ih =>
    rw [List.cons_append, closingDistance?] at h
    split at h
    · exact absurd h (by simp)
    · rename_i hpass
      have hpos := hm.nonneg_step hdepth hpass
      obtain ⟨d, hd⟩ := Int.eq_ofNat_of_zero_le hpos
      have hafter : m.depthAfter (depth + 1) c = d + 1 := by
        have := hm.depthAfter hdepth hpos
        omega
      obtain ⟨k, hk, hlength⟩ := Option.map_eq_some_iff.mp h
      obtain rfl : k = t.length := by simpa using hlength
      rw [hafter] at hk
      exact ⟨hpos, ih hu.of_cons (hm.step hu) hd hk⟩

theorem betweenMarks_passedCommas (h : s.Closes t) (hu : Unmarked t) (hm : m.Fits s.quote t)
    (hdepth : s.depth = depth) (rest : Text) :
    betweenMarks (passedCommas m (depth + 1) (t ++ ')' :: rest)) = Nesting.pieces [','] s t ∧
      (passedCommas m (depth + 1) (t ++ ')' :: rest)).map (·.1) = t := by
  induction t generalizing s m depth with
  | nil =>
    obtain rfl : s = .outside := h
    obtain rfl : depth = 0 := by
      have : (0 : Int) = depth := hdepth
      omega
    cases hm
    simp [passedCommas, betweenMarks, Nesting.pieces]
  | cons c t ih =>
    obtain ⟨hpos, hrest⟩ := h
    obtain ⟨d, hd⟩ := Int.eq_ofNat_of_zero_le hpos
    have hafter : m.depthAfter (depth + 1) c = d + 1 := by
      have := hm.depthAfter hdepth hpos
      omega
    obtain ⟨hbetween, hpassed⟩ := ih hrest hu.of_cons (hm.step hu) hd
    rw [List.cons_append, passedCommas, if_neg (hm.passes hdepth hpos), hafter, List.map_cons, hpassed, betweenMarks,
      hbetween, ← hm.cutsAt_eq hdepth, Nesting.pieces]
    refine ⟨?_, rfl⟩
    split
    · rw [Nesting.step_of_cutsAt ‹_›]
    · rfl

end Search

/-- In a text in which no comment begins, the parenthesis behind it closes the one in front of it just when the
text is closed; and then it is split by itself, at the commas that the search passes in code with one
parenthesis open. -/
theorem closed_iff_closingParen? {t : Text} (h : Unmarked t) :
    (Closed t ↔ ∀ rest, closingParen? ('(' :: (t ++ ')' :: rest)) 0 = some (t.length + 1)) ∧
    (Closed t → ∀ rest,
      splitTopLevel "," (t ++ ',' :: rest) = splitTopLevel "," (t ++ [',']) ++ splitTopLevel "," rest ∧
      splitTopLevel "," (t ++ [',']) = betweenMarks (passedCommas .code 1 (t ++ ')' :: rest)) ∧
      (passedCommas .code 1 (t ++ ')' :: rest)).map (·.1) = t) := by
  have hsearch : ∀ rest, closingParen? ('(' :: (t ++ ')' :: rest)) 0 =
      (closingDistance? .code 1 (t ++ ')' :: rest)).map (0 + 1 + ·) := fun rest => rfl
  refine ⟨⟨fun hclosed rest => ?_, fun hfound => ?_⟩, fun hclosed rest => ?_⟩
  · rw [hsearch, hclosed.closingDistance? h, Option.map_some, Nat.zero_add, Nat.add_comm]
  · obtain ⟨d, hd, hlength⟩ := Option.map_eq_some_iff.mp ((hsearch []).symm.trans (hfound []))
    obtain rfl : d = t.length := by omega
    exact Nesting.closes_of_closingDistance? (s := .outside) h (.code t) rfl hd
  · have hdepth : Nesting.outside.depth = (0 : Nat) := rfl
    obtain ⟨hbetween, hpassed⟩ := betweenMarks_passedCommas hclosed h (.code t) hdepth rest
    have hsplit : splitTopLevel "," (t ++ [',']) = Nesting.pieces [','] .outside t := by
      simpa [splitTopLevel, dropEmptyLast, Nesting.pieces] using hclosed.splitTopLevel_append []
    exact ⟨by rw [hclosed.splitTopLevel_append, hsplit], hsplit.trans hbetween.symm, hpassed⟩

def quotedBody : Text :=
  "a text DEFAULT 'it''s (', b int CHECK (b IN (1, 2)), \"c,)\" int"

theorem closed_quotedBody : Unmarked quotedBody ∧ Closed quotedBody ∧
    (∀ rest, closingParen? ('(' :: (quotedBody ++ ')' :: rest)) 0 = some (quotedBody.length + 1)) ∧
    ∀ rest, splitTopLevel "," (quotedBody ++ ',' :: rest) =
      ["a text DEFAULT 'it''s ('".toList, " b int CHECK (b IN (1, 2))".toList, " \"c,)\" int".toList] ++
        splitTopLevel "," rest := by
  have hunmarked : Unmarked quotedBody := by decide +kernel
  have hclosed : Closed quotedBody := by decide
  obtain ⟨hfound, hsplit⟩ := closed_iff_closingParen? hunmarked
  have hparts : splitTopLevel "," (quotedBody ++ [',']) =
      ["a text DEFAULT 'it''s ('".toList, " b int CHECK (b IN (1, 2))".toList, " \"c,)\" int".toList] := by
    decide +kernel
  exact ⟨hunmarked, hclosed, hfound.mp hclosed, fun rest => hparts ▸ (hsplit hclosed rest).1⟩

end DdlAtlas.Sql
