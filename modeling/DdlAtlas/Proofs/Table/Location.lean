import DdlAtlas.Proofs.Paren.Code
import DdlAtlas.Proofs.Pattern.Coverage
import DdlAtlas.Sql.Statement

/-!
# Where the table declarations of a text are found

The scan for table declarations goes from header to header. A body ends at the parenthesis that balances the
one it opened with or, when nothing balances that, where a line begins with a closing parenthesis and a
semicolon; a header with neither is passed by alone. In all three cases the scan goes on behind a character
that it has not passed before, so it ends, and no header is left out but those inside what it has passed.
-/

namespace DdlAtlas.Sql

open Pattern

def EndsTableAt (t : Text) (c : Nat) : Prop :=
  ∃ blanks, (∀ x ∈ blanks, Text.isBlank x = true) ∧ '\n' :: (blanks ++ [')', ';']) <+: t.drop c

theorem matchAt?_tableEnd_iff {t : Text} {c : Nat} :
    tableEnd.matchAt? (.within t c) ≠ none ↔ EndsTableAt t c := by
  constructor
  · intro h
    obtain ⟨m, hm⟩ := Option.ne_none_iff_exists'.mp h
    obtain ⟨-, hreads⟩ := reads_of_matchAt? hm
    simp only [tableEnd, reads_sequence_cons] at hreads
    obtain ⟨d, hbreak, e, hgap, f, hclose, hstop⟩ := hreads
    obtain rfl : m.stop = f := hstop
    obtain ⟨blanks, hpassed, hblanks, -⟩ := reads_solid hgap
    have hall := (reads_exactly hbreak).trans (hpassed.trans (reads_exactly hclose))
    exact ⟨blanks, hblanks, (Cursor.Passed.of_within hall).2.2.2⟩
  · rintro ⟨blanks, hblanks, rest, hrest⟩
    have hshape : t.drop c = ("\n" : Text) ++ (blanks ++ ((");" : Text) ++ rest)) := by
      rw [← hrest, List.cons_append, List.append_assoc]
      rfl
    rw [matchAt?, Cursor.within, hshape, tableEnd, run_sequence_cons, run_exactly, run_sequence_cons, gap,
      run_solid hblanks (by rintro _ ⟨⟩; rfl), Pattern.sequence, run_exactly]
    simp

variable {bare : Text} {h o p q width : Nat} {m : Match} {head : TableHead}

structure HeaderAt (bare : Text) (h o : Nat) (m : Match) : Prop where
  hit : tableHeader.matchAt? (.within bare h) = some m
  lt : h < o
  opening : bare[o]? = some '('
  stop : m.stop.position = o + 1

/-- Where the body behind an opening parenthesis ends: at the parenthesis that balances the opening one, where
a line ends the table when nothing balances it, or nowhere. -/
inductive BodyEnd (bare : Text) (o : Nat) : Option Nat → Prop
  | balanced {c : Nat} (closing : IsLeast {i | BalancedAt bare o i} c) : BodyEnd bare o (some c)
  | broken {c : Nat} (unbalanced : ∀ i, ¬BalancedAt bare o i)
      (ending : IsLeast {i | o < i ∧ EndsTableAt bare i} c) : BodyEnd bare o (some c)
  | endless (unbalanced : ∀ i, ¬BalancedAt bare o i) (endless : ∀ i, o < i → ¬EndsTableAt bare i) :
      BodyEnd bare o none

/-- What the scan makes of a header, and the stretch that it passes: the declaration with the body between the
opening parenthesis and the end, or the header alone. -/
inductive TableSpan (bare : Text) : TableHead → Nat → Nat → Prop
  | closed {h o c : Nat} {m : Match} (header : HeaderAt bare h o m) (ends : BodyEnd bare o (some c))
      (lt : o < c) :
      TableSpan bare (.closed (.ofHead (m.group 1) ((bare.drop (o + 1)).take (c - (o + 1))))) h (c + 1)
  | unterminated {h o : Nat} {m : Match} (header : HeaderAt bare h o m) (ends : BodyEnd bare o none) :
      TableSpan bare (.unterminated h) h (o + 1)

theorem headerAt_of_matchAt? (hm : tableHeader.matchAt? (.within bare h) = some m) :
    ∃ o, HeaderAt bare h o m ∧ m.stop.rest = bare.drop (o + 1) ∧
      m.stop.before = (bare.take (o + 1)).reverse ∧ m.start = .within bare h := by
  obtain ⟨hstart, hreads⟩ := reads_of_matchAt? hm
  obtain ⟨e, hfront, hopen⟩ := reads_sequence_last (p := exactly ['(']) (by rfl) hreads
  obtain ⟨d, hcreate, hmore⟩ := reads_sequence_cons.mp hfront
  obtain ⟨s, hs, hword⟩ := reads_word hcreate
  obtain ⟨t, ht⟩ := hmore.passed
  have hlength : s.length = 6 := hword.length_eq.symm
  obtain ⟨hposition, hrest, hbefore, rest, hdrop⟩ :=
    Cursor.Passed.of_within ((hs.trans ht).trans (reads_exactly hopen))
  rw [List.length_append, List.length_singleton, ← Nat.add_assoc] at hposition hrest hbefore
  refine ⟨h + (s ++ t).length, ⟨hm, ?_, ?_, hposition⟩, hrest, hbefore, hstart⟩
  · rw [List.length_append]
    omega
  · rw [← List.head?_drop, ← List.drop_drop, ← hdrop, List.append_assoc, List.drop_left]
    rfl

theorem HeaderAt.drop_opening (h : HeaderAt bare p o m) : bare.drop o = '(' :: bare.drop (o + 1) := by
  obtain ⟨rest, hopen⟩ := exists_drop_of_getElem? h.opening
  rw [hopen, ← List.drop_drop, hopen]
  rfl

theorem closingDistance?_iff_balanced {rest : Text} (hopen : bare.drop o = '(' :: rest) :
    (∀ d, closingDistance? .code 1 rest = some d ↔ IsLeast {i | BalancedAt bare o i} (o + 1 + d)) ∧
      (closingDistance? .code 1 rest = none ↔ ∀ i, ¬BalancedAt bare o i) := by
  have hsome : ∀ d, closingDistance? .code 1 rest = some d ↔ IsLeast {i | BalancedAt bare o i} (o + 1 + d) :=
    fun d => (closingDistance?_eq_some_iff (.code rest) Nat.one_pos).trans (isLeast_balancedAt_iff hopen).symm
  refine ⟨hsome, fun hnone i hi => ?_, fun hnone => ?_⟩
  · classical
    have hfirst := Nat.find_spec ⟨i, hi⟩
    obtain ⟨d, hd, -⟩ := (balancedAt_iff_of_open hopen).mp hfirst
    have hleast : IsLeast {i | BalancedAt bare o i} (o + 1 + d) :=
      hd ▸ ⟨hfirst, fun k hk => Nat.find_min' ⟨i, hi⟩ hk⟩
    rw [← hsome, hnone] at hleast
    cases hleast
  · cases hd : closingDistance? .code 1 rest with
    | none => rfl
    | some d => exact absurd ((hsome d).mp hd).1 (hnone _)

theorem EndsTableAt.lt_length {c : Nat} (h : EndsTableAt bare c) : c < bare.length := by
  obtain ⟨blanks, -, hprefix⟩ := h
  have := hprefix.length_le
  simp only [List.length_cons, List.length_drop] at this
  omega

theorem searchFrom?_tableEnd (ho : o < bare.length) :
    match tableEnd.searchFrom? (o + 1) (bare.take (o + 1)).reverse (bare.drop (o + 1)) with
    | some m => m.start = .within bare m.offset ∧ IsLeast {i | o < i ∧ EndsTableAt bare i} m.offset
    | none => ∀ i, o < i → ¬EndsTableAt bare i := by
  split
  · rename_i m hm
    have hfirst := (searchFrom?_eq_iff ho).mp hm
    refine ⟨(reads_of_matchAt? hfirst.hit).1, ⟨hfirst.le, ?_⟩, fun i hi => ?_⟩
    · exact matchAt?_tableEnd_iff.mp (by simp [hfirst.hit])
    · refine Nat.le_of_not_lt fun hlt => ?_
      exact matchAt?_tableEnd_iff.mpr hi.2 (hfirst.missed i hi.1 hlt)
  · rename_i hnone
    have hmissed := (searchFrom?_eq_iff ho).mp hnone
    exact fun i hi hends => matchAt?_tableEnd_iff.mpr hends (hmissed i hi (Nat.le_of_lt hends.lt_length))

theorem bodyAt?_ends {opened : Cursor} (hopen : bare.drop o = '(' :: bare.drop (o + 1))
    (hrest : opened.rest = bare.drop (o + 1)) (hbefore : opened.before = (bare.take (o + 1)).reverse)
    (hposition : opened.position = o + 1) :
    ∃ ending, BodyEnd bare o ending ∧ (∀ c ∈ ending, o < c ∧ c < bare.length) ∧
      (bodyAt? opened).map (fun found => (found.1, found.2.position)) =
        ending.map fun c => ((bare.drop (o + 1)).take (c - (o + 1)), c + 1) := by
  obtain ⟨hsome, hnone⟩ := closingDistance?_iff_balanced hopen
  have ho : o < bare.length := by
    have := congrArg List.length hopen
    simp only [List.length_drop, List.length_cons] at this
    omega
  rw [bodyAt?, hrest, hbefore, hposition]
  cases hd : closingDistance? .code 1 (bare.drop (o + 1)) with
  | some d =>
    have hclosing := (hsome d).mp hd
    have hinside : d < (bare.drop (o + 1)).length :=
      (List.getElem?_eq_some_iff.mp (getElem?_of_isLeast ((isLeast_balancedAt_iff hopen).mp hclosing))).1
    refine ⟨some (o + 1 + d), .balanced hclosing, ?_, ?_⟩
    · rintro _ ⟨⟩
      rw [List.length_drop] at hinside
      omega
    · have hstop : (opened.advance (d + 1)).position = o + 1 + d + 1 := by
        rw [Cursor.position_advance (hrest ▸ hinside), hposition, ← Nat.add_assoc]
      simp only [Option.map_some, hstop, Nat.add_sub_cancel_left]
  | none =>
    have hunbalanced := hnone.mp hd
    have hending := searchFrom?_tableEnd ho
    split at hending
    · rename_i m hm
      obtain ⟨hplace, hleast⟩ := hending
      have hinside := hleast.1.2.lt_length
      refine ⟨some m.offset, .broken hunbalanced hleast, ?_, ?_⟩
      · rintro _ ⟨⟩
        exact ⟨hleast.1.1, hinside⟩
      · have hstop : (m.start.advance 1).position = m.offset + 1 := by
          rw [Cursor.position_advance]
          · rfl
          · rw [hplace, Cursor.within, List.length_drop]
            omega
        have hbody : opened.textTo m.start = (bare.drop (o + 1)).take (m.offset - (o + 1)) := by
          rw [Cursor.textTo, hrest, hposition]
          rfl
        simp only [hm, Option.map_some, hstop, hbody]
    · rename_i hm
      exact ⟨none, .endless hunbalanced hending, by simp, by simp [hm]⟩

theorem tableSpan_of_tableHeadAt? (h : tableHeadAt? (.within bare p) = some (head, width)) :
    TableSpan bare head p (p + width) ∧ 0 < width ∧ p + width ≤ bare.length := by
  obtain ⟨m, hm, hmade⟩ := Option.map_eq_some_iff.mp h
  obtain ⟨o, header, hrest, hbefore, hstart⟩ := headerAt_of_matchAt? hm
  have hlt := header.lt
  have ho : o < bare.length := (List.getElem?_eq_some_iff.mp header.opening).1
  obtain ⟨ending, hends, hinside, hbody⟩ := bodyAt?_ends header.drop_opening hrest hbefore header.stop
  cases ending with
  | some c =>
    obtain ⟨⟨body, stop⟩, hfound, hparts⟩ := Option.map_eq_some_iff.mp hbody
    obtain ⟨hoc, hc⟩ := hinside c rfl
    simp only [Prod.mk.injEq] at hparts
    obtain ⟨rfl, hstop⟩ := hparts
    simp only [hfound, Prod.mk.injEq, Cursor.within, hstop] at hmade
    obtain ⟨rfl, rfl⟩ := hmade
    rw [Nat.add_sub_of_le (by omega : p ≤ c + 1)]
    exact ⟨.closed header hends hoc, by omega, hc⟩
  | none =>
    have hfound := Option.map_eq_none_iff.mp hbody
    have hoffset : m.offset = p := offset_of_matchAt? hm
    have hwidth : m.width = o + 1 - p := by
      rw [Match.width, header.stop, hstart]
      rfl
    simp only [hfound, hoffset, hwidth, Prod.mk.injEq] at hmade
    obtain ⟨rfl, rfl⟩ := hmade
    rw [Nat.add_sub_of_le (by omega : p ≤ o + 1)]
    exact ⟨.unterminated header hends, by omega, ho⟩

theorem tableHeadAt?_eq_none_iff {c : Cursor} : tableHeadAt? c = none ↔ tableHeader.matchAt? c = none :=
  Option.map_eq_none_iff

theorem covers_tableHeadAt? (bare : Text) : Cursor.Covers tableHeadAt? bare :=
  fun _ _ _ h => (tableSpan_of_tableHeadAt? h).2

def nextHead? (bare : Text) (position : Nat) : Option (Cursor.Stretch TableHead) :=
  (tableHeader.searchFrom? position (bare.take position).reverse (bare.drop position)).bind fun m =>
    (tableHeadAt? m.start).map fun (head, width) => ⟨head, m.offset, m.offset + width⟩

/-- What the rounds of the scan find from a position on, if one of the given number of rounds is the last. -/
def headsInRounds? (bare : Text) : Nat → Nat → Option (List (Cursor.Stretch TableHead))
  | 0, _ => none
  | rounds + 1, position =>
    match nextHead? bare position with
    | none => some []
    | some found => (headsInRounds? bare rounds found.stop).map (found :: ·)

theorem nextHead?_eq_none (hp : p ≤ bare.length)
    (missed : ∀ q, p ≤ q → q ≤ bare.length → tableHeadAt? (.within bare q) = none) :
    nextHead? bare p = none := by
  have hyields : tableHeader.Yields bare p none := fun q hq hle =>
    tableHeadAt?_eq_none_iff.mp (missed q hq hle)
  rw [nextHead?, (searchFrom?_eq_iff hp).mpr hyields]
  rfl

theorem nextHead?_eq_some (le : p ≤ q) (inside : q ≤ bare.length)
    (missed : ∀ k, p ≤ k → k < q → tableHeadAt? (.within bare k) = none)
    (hit : tableHeadAt? (.within bare q) = some (head, width)) :
    nextHead? bare p = some ⟨head, q, q + width⟩ := by
  obtain ⟨m, hm, -⟩ := Option.map_eq_some_iff.mp hit
  have hoffset : m.offset = q := offset_of_matchAt? hm
  have hyields : tableHeader.Yields bare p (some m) :=
    ⟨hoffset ▸ le, hoffset ▸ inside, hoffset ▸ hm, fun k hk hlt =>
      tableHeadAt?_eq_none_iff.mp (missed k hk (hoffset ▸ hlt))⟩
  rw [nextHead?, (searchFrom?_eq_iff (Nat.le_trans le inside)).mpr hyields]
  simp only [Option.bind_some, (reads_of_matchAt? hm).1, hit, Option.map_some, hoffset]

theorem headsInRounds?_of_walk {finds : List (Cursor.Stretch TableHead)} (h : Cursor.Walk tableHeadAt? bare p finds)
    (hp : p ≤ bare.length) {rounds : Nat} (hrounds : finds.length < rounds) :
    headsInRounds? bare rounds p = some finds := by
  induction h generalizing rounds with
  | done missed =>
    obtain ⟨n, rfl⟩ := Nat.exists_eq_add_one_of_ne_zero (Nat.ne_zero_of_lt hrounds)
    rw [headsInRounds?, nextHead?_eq_none hp missed]
  | found le inside missed hit _ ih =>
    obtain ⟨n, rfl⟩ := Nat.exists_eq_add_one_of_ne_zero (Nat.ne_zero_of_lt hrounds)
    rw [headsInRounds?, nextHead?_eq_some le inside missed hit]
    simp only [ih (covers_tableHeadAt? bare _ _ _ hit).2 (Nat.lt_of_succ_lt_succ hrounds), Option.map_some]

theorem walk_tableHeads (bare : Text) :
    ∃ finds, Cursor.Walk tableHeadAt? bare 0 finds ∧ tableHeads bare = finds.map (·.value) := by
  have hsplit : bare = ([] : Text).reverse ++ bare := rfl
  refine Cursor.walk_harvest (fun before x rest position hx => ?_) (covers_tableHeadAt? bare) hsplit (Nat.zero_le _)
  rw [tableHeadAt?_eq_none_iff, matchAt?, run_eq_none_of_front rfl hx, Option.map_none]

/-- The scan for table declarations ends, and it covers the text. It needs at most one round more than the text
has characters; what it finds stands in order and apart; and wherever the header of a table declaration matches, a
declaration begins, or a header without an end, or the place lies inside one of these. -/
theorem Statements.locate_tables (t : Text) : ∃ spans : List (Cursor.Stretch TableHead),
    headsInRounds? (withoutComments t) ((withoutComments t).length + 1) 0 = some spans ∧
    (locate t).1.tables = spans.filterMap (·.value.statement?) ∧
    (locate t).2 = spans.filterMap (·.value.note?) ++ [.located (locate t).1.tables.length
      (locate t).1.policies.length (locate t).1.switched.length] ∧
    (∀ s ∈ spans, TableSpan (withoutComments t) s.value s.start s.stop) ∧
    spans.Pairwise (fun s s' => s.stop ≤ s'.start) ∧
    ∀ q ≤ (withoutComments t).length, tableHeader.matchAt? (.within (withoutComments t) q) ≠ none →
      ∃ s ∈ spans, s.start ≤ q ∧ q < s.stop := by
  obtain ⟨finds, hwalk, hheads⟩ := walk_tableHeads (withoutComments t)
  have hlength := hwalk.length_le (covers_tableHeadAt? _) (Nat.zero_le _)
  refine ⟨finds, headsInRounds?_of_walk hwalk (Nat.zero_le _) (by omega), ?_, ?_, fun s hs => ?_,
    hwalk.apart, fun q hq hm => ?_⟩
  · rw [locate, hheads, List.filterMap_map]
    rfl
  · rw [locate, hheads, List.filterMap_map, List.filterMap_map]
    rfl
  · obtain ⟨width, hstop, hit⟩ := hwalk.hit s hs
    exact hstop ▸ (tableSpan_of_tableHeadAt? hit).1
  · exact hwalk.covers (Nat.zero_le q) hq (mt tableHeadAt?_eq_none_iff.mp hm)

def damagedTables : Text :=
  "CREATE TABLE a (x CREATE TABLE q ());\nCREATE TABLE b (y '\n );\nCREATE TABLE c (z"

example : headsInRounds? (withoutComments damagedTables) 4 0 = some
    [⟨.closed ⟨"public", "a", "x CREATE TABLE q ()"⟩, 0, 36⟩, ⟨.closed ⟨"public", "b", "y '"⟩, 38, 58⟩,
      ⟨.unterminated 62, 62, 78⟩] := by
  decide +kernel

end DdlAtlas.Sql
