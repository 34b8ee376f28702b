import DdlAtlas.Proofs.Comment.Reading
import DdlAtlas.Proofs.Text.Phrase

/-!
# Comment removal against a single reading

Comment removal knows less than a single reading: block comments go before literals and line comments are
looked for, and the lines are cut without regard to the literals that span them. The two give the same
text when none of four misreadings occurs. After a misreading they differ, except that the lines which a
hidden opening swallows can go unmissed where two block marks share a character. The proof follows both
along the text in one induction; where they part, the next characters differ or line breaks are missing.
-/

namespace DdlAtlas.Sql

/-- How comment removal can mistake a text: a block comment is removed inside a literal, a line is cut
inside a literal, a line comment stays because its line seems to stand in a literal, or lines are lost
because a line comment hides the opening of a block comment that is closed behind its line. -/
inductive Misreading
  | blockInLiteral
  | cutInLiteral
  | keptComment
  | swallowedLine
deriving DecidableEq, Repr

/-- The first misreading along a text, with the quote of the literal that the line seems to stand in. -/
def misreading? : Place → Option Char → Text → Option Misreading
  | .code, s, '-' :: '-' :: rest =>
    if s.isSome then some .keptComment
    else if leavesOpen (restOfLine rest) && (behindBlock? (fromBreak rest)).isSome then
      some .swallowedLine
    else misreading? .lineComment none rest
  | .code, s, '/' :: '*' :: rest => misreading? .blockComment s rest
  | .code, s, c :: rest =>
    misreading? (if isQuote c then .literal c else .code) (lineQuote s c) rest
  | .literal q, s, c :: rest =>
    if opensBlock c rest then some .blockInLiteral
    else if s = none ∧ c = '-' ∧ rest.head? = some '-' then some .cutInLiteral
    else misreading? (if c = q then .code else .literal q) (lineQuote s c) rest
  | .lineComment, _, c :: rest =>
    misreading? (if c = '\n' then .code else .lineComment) none rest
  | .blockComment, s, '*' :: '/' :: rest => misreading? .code (lineQuote s ' ') rest
  | .blockComment, s, _ :: rest => misreading? .blockComment s rest
  | _, _, [] => none

def removed : Place → Option Char → Text → Text
  | .code, s, t | .literal _, s, t => uncommented s (withoutBlocks t)
  | .lineComment, _, t => uncommented none (withoutBlocks (fromBreak t))
  | .blockComment, s, t =>
    match behindBlock? t with
    | some after => uncommented s (' ' :: withoutBlocks after)
    | none => []

theorem removed_outside {p : Place} (hp : p ≠ .lineComment ∧ p ≠ .blockComment) (s : Option Char) (t : Text) :
    removed p s t = uncommented s (withoutBlocks t) := by
  cases p with
  | code | literal => rfl
  | lineComment => exact absurd rfl hp.1
  | blockComment => exact absurd rfl hp.2

theorem removed_cons {p q : Place} {s : Option Char} {c : Char} {rest : Text}
    (hp : p ≠ .lineComment ∧ p ≠ .blockComment) (hq : q ≠ .lineComment ∧ q ≠ .blockComment)
    (hblock : withoutBlocks (c :: rest) = c :: withoutBlocks rest)
    (hline : ¬(s = none ∧ c = '-' ∧ rest.head? = some '-')) :
    removed p s (c :: rest) = c :: removed q (lineQuote s c) rest := by
  have hhyphen : ¬(s = none ∧ c = '-' ∧ (withoutBlocks rest).head? = some '-') := by
    rwa [head?_withoutBlocks (by decide) (by decide)]
  rw [removed_outside hp, removed_outside hq, hblock, uncommented_cons hhyphen]

theorem withoutBlocks_hyphens (rest : Text) :
    withoutBlocks ('-' :: '-' :: rest) = '-' :: '-' :: withoutBlocks rest := by
  rw [withoutBlocks_cons_of_not (by simp), withoutBlocks_cons_of_not (by simp)]

theorem uncommented_hyphens_withoutBlocks {rest : Text}
    (h : leavesOpen (restOfLine rest) = true → behindBlock? (fromBreak rest) = none) :
    uncommented none ('-' :: '-' :: withoutBlocks rest) = removed .lineComment none rest := by
  have hline : '\n' ∉ withoutBlocks (restOfLine rest) := fun hmem =>
    not_mem_restOfLine rest (mem_of_mem_withoutBlocks (by decide) hmem)
  have hbreak : ∀ c ∈ (withoutBlocks (fromBreak rest)).head?, c = '\n' := by
    intro c hc
    cases hf : fromBreak rest with
    | nil => simp [hf, withoutBlocks] at hc
    | cons d more =>
      obtain rfl : d = '\n' := head?_fromBreak (by rw [hf, List.head?_cons])
      rw [hf, withoutBlocks_cons_of_not (by simp)] at hc
      simpa using hc.symm
  have happ := withoutBlocks_append (fun c hc => head?_fromBreak hc) h
  rw [restOfLine_append_fromBreak] at happ
  rw [uncommented_hyphens, happ, fromBreak_append hline hbreak]
  rfl

theorem count_fromBreak (t : Text) : (fromBreak t).count '\n' = t.count '\n' := by
  have h := congrArg (List.count '\n') (restOfLine_append_fromBreak t)
  rwa [List.count_append, List.count_eq_zero.mpr (not_mem_restOfLine t), Nat.zero_add] at h

theorem count_uncommented (s : Option Char) (t : Text) :
    (uncommented s t).count '\n' = t.count '\n' := by
  induction s, t using uncommented_induction with
  | nil s => rw [uncommented_nil]
  | hyphens t ih =>
    rw [uncommented_hyphens, ih, count_fromBreak, List.count_cons_of_ne (by decide),
      List.count_cons_of_ne (by decide)]
  | cons s c t hcut ih => rw [uncommented_cons hcut, List.count_cons, List.count_cons, ih]

theorem leavesOpen_cons {c : Char} {rest : Text} (hc : ¬(c = '/' ∧ rest.head? = some '*'))
    (h : leavesOpen (c :: rest) = true) : leavesOpen rest = true := by
  rw [leavesOpen, withoutBlocks_cons_of_not hc, Text.hasPart_iff, List.infix_cons_iff] at h
  rcases h with ⟨more, hmore⟩ | h
  · obtain ⟨rfl, hrest⟩ := List.cons.inj hmore
    have hstar : (withoutBlocks rest).head? = some '*' := by
      rw [← hrest]
      rfl
    exact absurd ⟨rfl, (head?_withoutBlocks (by decide) (by decide) rest).mp hstar⟩ hc
  · exact Text.hasPart_iff.mpr h

theorem count_withoutBlocks_swallowed {line tail after : Text} (hline : '\n' ∉ line)
    (hbreak : ∀ c ∈ tail.head?, c = '\n') (hopen : leavesOpen line = true)
    (hafter : behindBlock? tail = some after) :
    (withoutBlocks (line ++ tail)).count '\n' = (withoutBlocks after).count '\n' := by
  have hslash : tail.head? ≠ some '/' := fun hd => by simpa using hbreak _ hd
  have hstar : tail.head? ≠ some '*' := fun hd => by simpa using hbreak _ hd
  induction hn : line.length using Nat.strongRecOn generalizing line with
  | ind n ih =>
    cases line with
    | nil => simp [leavesOpen, withoutBlocks, Text.hasPart] at hopen
    | cons c rest =>
      by_cases ho : c = '/' ∧ rest.head? = some '*'
      · obtain ⟨rfl, hd⟩ := ho
        obtain ⟨more, rfl⟩ := List.head?_eq_some_iff.mp hd
        cases hb : behindBlock? more with
        | some behind =>
          have hlen := length_le_of_behindBlock? hb
          have hbehind : behind ⊆ '/' :: '*' :: more := fun x hx =>
            List.mem_cons_of_mem _ (List.mem_cons_of_mem _ ((suffix_of_behindBlock? hb).subset hx))
          have hcount := ih behind.length (by simp at hn; omega) (fun hx => hline (hbehind hx))
            (by rwa [leavesOpen_closed hb] at hopen) rfl
          simp only [List.cons_append]
          rw [withoutBlocks_closed (behindBlock?_append_some hb tail),
            List.count_cons_of_ne (by decide), hcount]
        | none =>
          have hall : behindBlock? (more ++ tail) = some after := by
            rw [behindBlock?_append_none hb hslash, hafter]
          simp only [List.cons_append]
          rw [withoutBlocks_closed hall, List.count_cons_of_ne (by decide)]
      · have ho' : ¬(c = '/' ∧ (rest ++ tail).head? = some '*') := by
          rintro ⟨hc, hd⟩
          cases rest with
          | nil => exact hstar hd
          | cons d more => exact ho ⟨hc, hd⟩
        simp only [List.mem_cons, not_or] at hline
        rw [List.cons_append, withoutBlocks_cons_of_not ho', List.count_cons_of_ne (fun hc => hline.1 hc.symm)]
        exact ih rest.length (by simp at hn; omega) hline.2 (leavesOpen_cons ho hopen) rfl

theorem count_lt_of_swallowed {rest r : Text} (hmarks : ¬MarksOverlap rest)
    (hopen : leavesOpen (restOfLine rest) = true) (hclosed : (behindBlock? (fromBreak rest)).isSome)
    (h : lexed .lineComment rest = some r) : (withoutBlocks rest).count '\n' < r.count '\n' := by
  obtain ⟨after, hafter⟩ := Option.isSome_iff_exists.mp hclosed
  have hcount := count_withoutBlocks_swallowed (not_mem_restOfLine rest) (fun c hc => head?_fromBreak hc)
    hopen hafter
  have hsuffix : fromBreak rest <:+ rest := List.dropWhile_suffix _
  rw [restOfLine_append_fromBreak] at hcount
  rw [lexed_lineComment] at h
  cases hf : fromBreak rest with
  | nil => simp [hf, behindBlock?] at hafter
  | cons c tail =>
    obtain rfl : c = '\n' := head?_fromBreak (by rw [hf, List.head?_cons])
    rw [hf] at h hafter hsuffix
    rw [lexed.eq_3 _ _ (by simp) (by simp)] at h
    obtain ⟨u, hu, rfl⟩ := Option.map_eq_some_iff.mp h
    rw [behindBlock?_cons (by simp)] at hafter
    have htail : ¬MarksOverlap tail := not_marksOverlap_tail fun ho => hmarks (ho.of_suffix hsuffix)
    have hle := (breaksWithin_of_lexed htail hu).behind after hafter
    rw [hcount, List.count_cons_self]
    omega

/-- Comment removal and the single reading give the same from a place on just when nothing is
misread from there on, unless lines are swallowed where marks overlap. -/
theorem removed_eq_iff {p : Place} {s : Option Char} {t r : Text} (h : lexed p t = some r)
    (hmarks : misreading? p s t = some .swallowedLine → ¬MarksOverlap t) :
    removed p s t = r ↔ misreading? p s t = none := by
  fun_induction misreading? p s t generalizing r with
  | case1 s rest hs =>
    rw [lexed] at h
    obtain ⟨q, rfl⟩ := Option.isSome_iff_exists.mp hs
    simp only [removed, reduceCtorEq, iff_false]
    rw [withoutBlocks_hyphens, uncommented_cons (by simp)]
    rintro rfl
    exact lexed_lineComment_head? h (by simp)
  | case2 s rest hs hopen =>
    -- the line break goes with the comment that the line hides
    obtain rfl : s = none := by simpa using hs
    rw [lexed] at h
    rw [Bool.and_eq_true] at hopen
    have hlt := count_lt_of_swallowed (not_marksOverlap_tails (hmarks rfl)) hopen.1 hopen.2 h
    simp only [removed, reduceCtorEq, iff_false]
    rintro rfl
    rw [count_uncommented, withoutBlocks_hyphens, List.count_cons_of_ne (by decide),
      List.count_cons_of_ne (by decide)] at hlt
    exact Nat.lt_irrefl _ hlt
  | case3 s rest hs hline ih =>
    obtain rfl : s = none := by simpa using hs
    rw [lexed] at h
    rw [← ih h fun hm => not_marksOverlap_tails (hmarks hm), removed, withoutBlocks_hyphens,
      uncommented_hyphens_withoutBlocks (by simpa using hline)]
  | case4 s rest ih =>
    rw [lexed] at h
    obtain ⟨after, hafter⟩ := Option.isSome_iff_exists.mp (isSome_behindBlock?_of_lexed h)
    rw [← ih h fun hm => not_marksOverlap_tails (hmarks hm), removed, withoutBlocks_closed hafter, removed,
      hafter]
  | case5 s c rest hhyphen hblock ih =>
    rw [lexed.eq_3 _ _ hhyphen hblock] at h
    obtain ⟨u, hu, rfl⟩ := Option.map_eq_some_iff.mp h
    have hcopied := removed_cons (p := .code) (q := if isQuote c then .literal c else .code) (s := s) (by simp)
      (by split <;> simp) (withoutBlocks_cons_of_not (head?_ne_of_forall hblock))
      fun hd => head?_ne_of_forall hhyphen hd.2
    rw [← ih hu fun hm => not_marksOverlap_tail (hmarks hm), hcopied, List.cons.injEq]
    simp
  | case6 q s c rest hopen =>
    rw [lexed] at h
    obtain ⟨u, hu, rfl⟩ := Option.map_eq_some_iff.mp h
    obtain ⟨more, after, rfl, rfl, hafter⟩ := exists_of_opensBlock hopen
    rw [removed, withoutBlocks_closed hafter, uncommented_cons (by simp)]
    simp
  | case7 q s c rest hopen hcut =>
    obtain ⟨rfl, rfl, hd⟩ := hcut
    obtain ⟨more, rfl⟩ := List.head?_eq_some_iff.mp hd
    rw [lexed] at h
    obtain ⟨u, hu, rfl⟩ := Option.map_eq_some_iff.mp h
    rw [removed, withoutBlocks_hyphens, uncommented_hyphens]
    simp only [reduceCtorEq, iff_false]
    intro heq
    exact head?_uncommented_fromBreak _ (by rw [heq, List.head?_cons])
  | case8 q s c rest hopen hcut ih =>
    rw [lexed] at h
    obtain ⟨u, hu, rfl⟩ := Option.map_eq_some_iff.mp h
    have hcopied := removed_cons (p := .literal q) (q := if c = q then .code else .literal q) (by simp)
      (by split <;> simp) (withoutBlocks_cons (by simpa using hopen)) hcut
    rw [← ih hu fun hm => not_marksOverlap_tail (hmarks hm), hcopied, List.cons.injEq]
    simp
  | case9 s c rest ih =>
    rw [lexed] at h
    by_cases hc : c = '\n'
    · subst hc
      simp only [if_true] at h hmarks ih ⊢
      obtain ⟨u, hu, rfl⟩ := Option.map_eq_some_iff.mp h
      rw [← ih hu fun hm => not_marksOverlap_tail (hmarks hm)]
      simp only [removed, fromBreak_newline]
      rw [withoutBlocks_cons_of_not (by simp), uncommented_newline, List.cons.injEq]
      simp
    · simp only [hc, if_false] at h hmarks ih ⊢
      rw [← ih h fun hm => not_marksOverlap_tail (hmarks hm), removed, fromBreak_cons hc, removed]
  | case10 s rest ih =>
    rw [lexed] at h
    obtain ⟨u, hu, rfl⟩ := Option.map_eq_some_iff.mp h
    have hafter : behindBlock? ('*' :: '/' :: rest) = some rest := rfl
    rw [← ih hu fun hm => not_marksOverlap_tails (hmarks hm)]
    simp only [removed, hafter]
    rw [uncommented_cons (by simp), List.cons.injEq]
    simp
  | case11 s c rest hend ih =>
    rw [lexed.eq_7 _ _ hend] at h
    rw [← ih h fun hm => not_marksOverlap_tail (hmarks hm), removed, removed, behindBlock?_cons hend]
  | case12 p s =>
    have hr : r = [] ∧ p ≠ .blockComment := by cases p <;> simp_all [lexed]
    obtain ⟨rfl, hp⟩ := hr
    cases p <;> simp_all [removed, withoutBlocks, fromBreak]

/-- Comment removal agrees with the single reading on every text that it does not misread, and only on
these, but for swallowed lines where marks overlap. -/
theorem withoutComments_eq_lexed_iff {t s : Text} (h : lexed .code t = some s) :
    (misreading? .code none t = none → withoutComments t = s) ∧
      (withoutComments t = s → misreading? .code none t = none ∨
        (misreading? .code none t = some .swallowedLine ∧ MarksOverlap t)) := by
  rw [withoutComments_eq_uncommented]
  refine ⟨fun hnone => (removed_eq_iff h fun hm => ?_).mpr hnone, fun heq => ?_⟩
  · rw [hnone] at hm
    cases hm
  · by_cases hm : misreading? .code none t = some .swallowedLine ∧ MarksOverlap t
    · exact .inr hm
    · left
      apply (removed_eq_iff h fun hs => ?_).mp heq
      simpa [hs] using hm

theorem withoutComments_eq_lexed_of_quotes :
    lexed .code "a -- it's\n'--' /* ' */b" = some "a \n'--'  b" ∧
      misreading? .code none "a -- it's\n'--' /* ' */b" = none ∧
      withoutComments "a -- it's\n'--' /* ' */b" = "a \n'--'  b" := by
  have hread : lexed .code "a -- it's\n'--' /* ' */b" = some "a \n'--'  b" := rfl
  have hmis : misreading? .code none "a -- it's\n'--' /* ' */b" = none := by
    simp [misreading?, leavesOpen, restOfLine, fromBreak, withoutBlocks, behindBlock?, lineQuote,
      opensBlock, isQuote, Text.hasPart, Text.startsWith, Text.behind?]
  exact ⟨hread, hmis, (withoutComments_eq_lexed_iff hread).1 hmis⟩

-- swallowed lines that go unmissed: the reading takes them for a block comment
example : misreading? .code none "-- /*\n/*/\n --*/" = some .swallowedLine ∧
    lexed .code "-- /*\n/*/\n --*/" = some "\n " ∧ withoutComments "-- /*\n/*/\n --*/" = "\n " := by
  refine ⟨?_, rfl, ?_⟩
  · simp [misreading?, leavesOpen, restOfLine, fromBreak, withoutBlocks, behindBlock?, Text.hasPart,
      Text.startsWith, Text.behind?]
  · rw [withoutComments_eq_uncommented]
    simp [withoutBlocks, behindBlock?, uncommented_cons, uncommented_hyphens,
      fromBreak, lineQuote, isQuote]

theorem withoutComments_drops_from_literal :
    lexed .code "'/* x */'" = some "'/* x */'" ∧ withoutComments "'/* x */'" = "' '" := by
  refine ⟨rfl, ?_⟩
  have hblocks : withoutBlocks "'/* x */'" = "' '" := by
    simp [withoutBlocks, behindBlock?]
  rw [withoutComments, hblocks]
  rfl

end DdlAtlas.Sql
