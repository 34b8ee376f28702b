import DdlAtlas.Proofs.Column.Written
import DdlAtlas.Proofs.Pattern.Barrier
import DdlAtlas.Proofs.Text.Letters

/-!
# Default values and conditions

The default value and the condition of a check are found behind the first place where their keyword stands,
DEFAULT with a blank behind it and CHECK with a parenthesis. The type and the clauses in front are passed over
one by one, so that this place is the clause itself.
-/

namespace DdlAtlas.Sql

open Pattern

theorem search_behind {p : Pattern} (hfront : p.front.admits ' ' = false) {q rest : Text}
    (hq : p.Misses [] q (' ' :: rest)) {e : Cursor}
    (hrun : p.run some ⟨' ' :: q.reverse, rest, q.length + 1, []⟩ = some e) :
    p.search? (q ++ ' ' :: rest) = some ⟨⟨' ' :: q.reverse, rest, q.length + 1, []⟩, e⟩ := by
  have hmatch : p.matchAt? ⟨(q ++ [' ']).reverse, rest, (q ++ [' ']).length, []⟩ =
      some ⟨⟨' ' :: q.reverse, rest, q.length + 1, []⟩, e⟩ := by
    simp only [List.reverse_append, List.reverse_cons, List.reverse_nil, List.nil_append,
      List.singleton_append, List.length_append, List.length_cons, List.length_nil, Nat.zero_add]
    rw [matchAt?, hrun, Option.map_some]
  have hfound := search?_found (hq.append (misses_of_front hfront _ rest)) hmatch
  simpa using hfound

theorem valueExtent_cons {quote : Option Char} {depth : Nat} {c : Char}
    (hpos : 0 ≤ (Nesting.step ⟨quote, depth⟩ c).depth)
    (hbare : (⟨quote, depth⟩ : Nesting) = .outside → c ≠ ',' ∧ Text.isBlank c = false) (rest : Text) :
    ∃ d : Nat, (Nesting.step ⟨quote, depth⟩ c).depth = d ∧
      valueExtent quote depth (c :: rest) = c :: valueExtent (Nesting.step ⟨quote, depth⟩ c).quote d rest := by
  cases quote with
  | some q => by_cases hc : c = q <;> exact ⟨depth, by simp [Nesting.step, hc], by simp [valueExtent, Nesting.step, hc]⟩
  | none =>
    by_cases hq : isQuote c = true
    · exact ⟨depth, by simp [Nesting.step, hq], by simp [valueExtent, Nesting.step, hq]⟩
    · by_cases hopen : c = '('
      · subst hopen
        exact ⟨depth + 1, by simp [Nesting.step, isQuote], by simp [valueExtent, Nesting.step, isQuote]⟩
      · by_cases hclose : c = ')'
        · subst hclose
          have hdepth : (1 : Int) ≤ depth := by
            have : (Nesting.step ⟨none, depth⟩ ')').depth = depth - 1 := by simp [Nesting.step, isQuote]
            omega
          have hne : depth ≠ 0 := by omega
          refine ⟨depth - 1, ?_, by simp [valueExtent, Nesting.step, isQuote, hne]⟩
          simp [Nesting.step, isQuote]
          omega
        · have hstop : ¬(depth = 0 ∧ (c = ',' ∨ Text.isBlank c = true)) := by
            rintro ⟨rfl, hc⟩
            obtain ⟨hcomma, hblank⟩ := hbare rfl
            rcases hc with hc | hc
            · exact hcomma hc
            · rw [hblank] at hc
              exact absurd hc (by simp)
          exact ⟨depth, by simp [Nesting.step, hq, hopen, hclose],
            by simp [valueExtent, Nesting.step, hq, hopen, hclose, hstop]⟩

theorem valueExtent_of_closes {s : Nesting} {depth : Nat} {t : Text} (hc : s.Closes t) (hb : s.Bare t)
    (hdepth : s.depth = depth) {rest : Text} (hrest : ∀ x ∈ rest.head?, x = ' ') :
    valueExtent s.quote depth (t ++ rest) = t := by
  induction t generalizing s depth with
  | nil =>
    obtain rfl : s = .outside := hc
    obtain rfl : depth = 0 := by
      have : (0 : Int) = depth := hdepth
      omega
    cases rest with
    | nil => rfl
    | cons x rest =>
      obtain rfl := hrest x rfl
      rfl
  | cons c t ih =>
    obtain ⟨quote, d⟩ := s
    obtain rfl : d = depth := hdepth
    obtain ⟨d, hd, hvalue⟩ := valueExtent_cons hc.1 hb.1 (t ++ rest)
    rw [List.cons_append, hvalue, ih hc.2 hb.2 hd]

namespace Clause

variable {p : Pattern} {k before rest : Text} {c : Clause} {cs : List Clause}

theorem wordNext_spaced (hrest : WordNext rest) : WordNext (Text.spaced (cs.map written) ++ rest) := by
  cases cs with
  | nil => exact hrest
  | cons c cs =>
    refine wordNext_cons ?_
    cases c <;> rfl

theorem misses_spaced (hspace : p.front.admits ' ' = false)
    (hcs : ∀ c ∈ cs, ∀ before rest, WordNext rest → p.Misses (' ' :: before) c.written rest)
    (hrest : WordNext rest) (before : Text) : p.Misses before (Text.spaced (cs.map written)) rest := by
  induction cs generalizing before with
  | nil => exact fun u v huv hv => absurd (List.append_eq_nil_iff.mp huv.symm).2 hv
  | cons c cs ih =>
    have hlater := ih (fun d hd => hcs d (List.mem_cons_of_mem c hd)) (c.written.reverse ++ ' ' :: before)
    have hfirst : p.Misses (' ' :: before) c.written (Text.spaced (cs.map written) ++ rest) :=
      hcs c List.mem_cons_self before _ (wordNext_spaced hrest)
    exact misses_cons hspace (hfirst.append hlater)

theorem misses_keyword (hp : p.Announces k) (hk : Text.IsKeyword k) (hm : Text.mentions k (some ' ') c.keyword = false)
    (hrest : ∀ x ∈ rest.head?, x = ' ') (before : Text) : p.Misses (' ' :: before) c.keyword rest :=
  hp.misses_before_space hk c.piece_keyword.neat.back hm hrest

theorem misses_default (hc : c.default? = none) (htext : ∀ t ∈ c.text?, ¬HoldsDefault t)
    (hrest : WordNext rest) (before : Text) : defaultKeyword.Misses (' ' :: before) c.written rest := by
  cases c with
  | default value => exact absurd hc (by simp [default?])
  | notNull | unique | primaryKey =>
    rw [written, argument, List.append_nil]
    exact misses_keyword defaultKeyword_announces (by decide) (by decide) hrest.head before
  | check condition =>
    have hcondition : defaultKeyword.occursIn condition = false :=
      Bool.eq_false_iff.mpr (mt occursIn_default_iff.mp (htext condition rfl))
    have hinside : ∀ front, defaultKeyword.Misses ('(' :: front) condition (')' :: rest) := fun front =>
      misses_between (by decide) (by decide) hcondition front rest
    refine (misses_keyword defaultKeyword_announces (by decide) rfl (by simp [eq_comm, argument]) before).append ?_
    exact misses_cons rfl (misses_cons rfl ((hinside _).append (misses_of_front rfl _ rest)))

theorem misses_check (hc : c.check? = none) (htext : ∀ t ∈ c.text?, ¬HoldsCheck t)
    (hrest : WordNext rest) (before : Text) : checkKeyword.Misses (' ' :: before) c.written rest := by
  cases c with
  | check condition => exact absurd hc (by simp [check?])
  | notNull | unique | primaryKey =>
    rw [written, argument, List.append_nil]
    exact misses_keyword checkKeyword_announces (by decide) (by decide) hrest.head before
  | default value =>
    have hvalue : ∀ front, checkKeyword.Misses (' ' :: front) value rest := fun front =>
      misses_opener_of_not_holds (by decide) (htext value rfl) hrest rfl
    refine (misses_keyword checkKeyword_announces (by decide) rfl (by simp [eq_comm, argument]) before).append ?_
    exact misses_cons rfl (hvalue _)

end Clause

theorem defaultValue?_behind {q value rest : Text}
    (hq : defaultKeyword.Misses [] q (' ' :: ("DEFAULT" ++ ' ' :: (value ++ rest)))) (hby : ¬EndsInBy q)
    (hne : value ≠ []) (hclosed : Closed value) (hbare : Nesting.outside.Bare value) (hrest : ∀ x ∈ rest.head?, x = ' ') :
    defaultValue? (q ++ ' ' :: ("DEFAULT" ++ ' ' :: (value ++ rest))) = some value := by
  have hvalue : ∀ x ∈ (value ++ rest).head?, Text.isBlank x = false := by
    obtain ⟨c, value, rfl⟩ := List.exists_cons_of_ne_nil hne
    intro x hx
    obtain rfl : c = x := by simpa using hx
    exact (hbare.1 rfl).2
  have hbehind : ¬BehindBy (' ' :: q.reverse).reverse := by
    rwa [List.reverse_cons, List.reverse_reverse, behindBy_append_blank (by decide)]
  have hrun := (run_defaultKeyword (Text.sameLetters_refl _) rfl hbehind some (q.length + 1)).trans (run_space hvalue)
  have hsearch := search_behind rfl hq hrun
  rw [defaultValue?, hsearch]
  simp only [Option.bind_some]
  rw [show valueExtent none 0 (value ++ rest) = value from valueExtent_of_closes hclosed hbare rfl hrest,
    nonempty?, if_neg hne]

theorem run_checkKeyword (q rest : Text) (position : Nat) :
    ∃ e, checkKeyword.run some ⟨' ' :: q.reverse, "CHECK" ++ ' ' :: '(' :: rest, position, []⟩ =
      some e ∧ e.rest = rest := by
  refine ⟨⟨'(' :: ' ' :: ("CHECK".toList.reverse ++ ' ' :: q.reverse), rest, position + 5 + 1 + 1, []⟩,
    ?_, rfl⟩
  rw [checkKeyword, run_sequence_cons, run, if_pos (by rfl), run_sequence_cons, run_word,
    run_sequence_cons]
  have hopen : Text.isBlank '(' = false := by decide
  exact (run_gap_space (by simp [hopen])).trans (run_exactly "(")

theorem Clause.not_endsInBy {c : Clause} (hc : c.default? = none) (q : Text) :
    ¬EndsInBy (q ++ ' ' :: c.written) := by
  rintro ⟨a, x, y, heq, hx, hy, -⟩
  have hlast : c.written.reverse ++ ' ' :: q.reverse = y :: x :: a.reverse := by
    simpa using congrArg List.reverse heq
  have hend : ∀ z (t : Text), c.written.reverse = z :: t → Text.sameLetter 'Y' z = false → False := by
    intro z t hz hletter
    rw [hz] at hlast
    obtain ⟨rfl, -⟩ := List.cons.inj hlast
    rw [hletter] at hy
    exact absurd hy (by simp)
  cases c with
  | notNull => exact hend 'L' _ rfl (by decide)
  | unique => exact hend 'E' _ rfl (by decide)
  | primaryKey =>
    have hkey : 'Y' :: 'E' :: ("K YRAMIRP" ++ ' ' :: q.reverse) = y :: x :: a.reverse := hlast
    obtain ⟨-, hkey⟩ := List.cons.inj hkey
    obtain ⟨rfl, -⟩ := List.cons.inj hkey
    exact absurd hx (by decide)
  | default value => exact absurd hc (by simp [default?])
  | check condition =>
    refine hend ')' (condition.reverse ++ "( KCEHC") ?_ (by decide)
    have hreverse : (keyword (.check condition)).reverse = "KCEHC" := rfl
    rw [written, List.reverse_append, hreverse]
    simp [argument]

theorem Clause.not_endsInBy_spaced {t : Text} (ht : Text.mentions "BY" none t = false)
    {cs : List Clause} (hcs : ∀ c ∈ cs, c.default? = none) :
    ¬EndsInBy (t ++ Text.spaced (cs.map written)) := by
  rcases List.eq_nil_or_concat cs with rfl | ⟨init, c, rfl⟩
  · simpa using not_endsInBy_of_not_mentions ht
  · have hlast := Clause.not_endsInBy (hcs c (by simp)) (t ++ Text.spaced (init.map written))
    simpa using hlast

def Clause.before (kind : Clause → Option Text) (cs : List Clause) : List Clause :=
  cs.takeWhile fun c => (kind c).isNone

theorem Clause.before_eq_self {kind : Clause → Option Text} {cs : List Clause}
    (h : ∀ c ∈ cs, kind c = none) : before kind cs = cs := by
  induction cs with
  | nil => rfl
  | cons c cs ih =>
    have hcs := ih fun x hx => h x (List.mem_cons_of_mem c hx)
    rw [before] at hcs ⊢
    rw [List.takeWhile_cons_of_pos (by simp [h c List.mem_cons_self]), hcs]

theorem Clause.before_eq {kind : Clause → Option Text} {pre post : List Clause} {c : Clause}
    {value : Text} (hc : kind c = some value) (hpre : ∀ p ∈ pre, kind p = none) :
    before kind (pre ++ c :: post) = pre := by
  rw [before, List.takeWhile_append_of_pos fun p hp => by simp [hpre p hp],
    List.takeWhile_cons_of_neg (by simp [hc]), List.append_nil]

namespace ColumnDeclaration

variable {d : ColumnDeclaration}

def upTo (d : ColumnDeclaration) (kind : Clause → Option Text) : Text :=
  d.type.written ++ Text.spaced ((Clause.before kind d.clauses).map Clause.written)

theorem Plain.not_mentions_type (h : d.Plain) {k : Text} (hk : k ∈ typeStops) :
    Text.mentions k none d.type.written = false := by
  simpa using List.all_eq_true.mp h.type k hk

theorem kind_of_mem_before {kind : Clause → Option Text} {c : Clause} (h : c ∈ Clause.before kind d.clauses) :
    kind c = none := by
  simpa using List.all_eq_true.mp (List.all_takeWhile (l := d.clauses)) c h

theorem Proper.misses_upTo (h : d.Proper) {p : Pattern} {k : Text} (hp : p.Announces k) (hk : Text.IsKeyword k)
    (hspace : p.front.admits ' ' = false) (htype : Text.mentions k none d.type.written = false)
    {kind : Clause → Option Text} (hclauses : ∀ c ∈ Clause.before kind d.clauses, ∀ before rest,
      WordNext rest → p.Misses (' ' :: before) c.written rest) {rest : Text} (hrest : WordNext rest) :
    p.Misses [] (d.upTo kind) rest := by
  have htypes : p.Misses [] d.type.written
      (Text.spaced ((Clause.before kind d.clauses).map Clause.written) ++ rest) :=
    hp.misses_before_space hk h.type.piece_written.neat.back htype (Clause.wordNext_spaced hrest).head
  exact htypes.append (Clause.misses_spaced hspace hclauses hrest _)

theorem Plain.misses_default (hplain : d.Plain) (hd : d.Proper) {rest : Text} (hrest : WordNext rest) :
    defaultKeyword.Misses [] (d.upTo Clause.default?) rest :=
  hd.misses_upTo defaultKeyword_announces (by decide) rfl (hplain.not_mentions_type (by decide))
    (fun c hc before _ hrest => Clause.misses_default (kind_of_mem_before hc)
      (fun t ht => hplain.default t (List.mem_filterMap.mpr ⟨c, hc, ht⟩)) hrest before) hrest

theorem Plain.misses_check (hplain : d.Plain) (hd : d.Proper) {rest : Text} (hrest : WordNext rest) :
    checkKeyword.Misses [] (d.upTo Clause.check?) rest :=
  hd.misses_upTo checkKeyword_announces (by decide) rfl (hplain.not_mentions_type (by decide))
    (fun c hc before _ hrest => Clause.misses_check (kind_of_mem_before hc)
      (fun t ht => hplain.check t (List.mem_filterMap.mpr ⟨c, hc, ht⟩)) hrest before) hrest

theorem declared_of_none {kind : Clause → Option Text} (h : d.clauses.findSome? kind = none) :
    d.declared = d.upTo kind := by
  rw [List.findSome?_eq_none_iff] at h
  rw [declared, upTo, Clause.before_eq_self h]

theorem declared_of_some {kind : Clause → Option Text} {value : Text}
    (h : d.clauses.findSome? kind = some value) : ∃ c ∈ d.clauses, ∃ post, kind c = some value ∧
      d.declared = d.upTo kind ++ ' ' :: (c.written ++ Text.spaced post) := by
  obtain ⟨pre, c, post, hsplit, hc, hpre⟩ := List.findSome?_eq_some_iff.mp h
  refine ⟨c, by simp [hsplit], post.map Clause.written, hc, ?_⟩
  rw [declared, upTo, hsplit, Clause.before_eq hc hpre]
  simp

theorem head?_spaced (ts : List Text) : ∀ x ∈ (Text.spaced ts).head?, x = ' ' := by
  cases ts <;> simp [eq_comm]

theorem defaultValue?_declared (hd : d.Proper) (hplain : d.Plain) :
    defaultValue? d.declared = d.clauses.findSome? Clause.default? := by
  cases hfirst : d.clauses.findSome? Clause.default? with
  | none =>
    have hnone := search?_none (hplain.misses_default hd wordNext_nil)
      (defaultKeyword_announces.matchAt?_nil (by decide) _ _)
    rw [defaultValue?, declared_of_none hfirst, hnone, Option.bind_none]
  | some value =>
    obtain ⟨c, hmem, post, hc, hdeclared⟩ := declared_of_some hfirst
    obtain rfl : c = .default value := by
      cases c <;> simp_all [Clause.default?]
    obtain ⟨hne, hclosed, -, -, hbare⟩ := hd.clauses _ hmem
    -- the keyword does not count behind BY, which would make it part of a generated column
    have hby : ¬EndsInBy (d.upTo Clause.default?) :=
      Clause.not_endsInBy_spaced (hplain.not_mentions_type (by decide)) fun _ => kind_of_mem_before
    have hshape : d.declared =
        d.upTo Clause.default? ++ ' ' :: ("DEFAULT" ++ ' ' :: (value ++ Text.spaced post)) := by
      rw [hdeclared, Clause.written, List.append_assoc]
      rfl
    have hmisses : defaultKeyword.Misses [] (d.upTo Clause.default?)
        (' ' :: ("DEFAULT" ++ ' ' :: (value ++ Text.spaced post))) :=
      hplain.misses_default hd (wordNext_cons rfl)
    rw [hshape, defaultValue?_behind hmisses hby hne hclosed hbare (head?_spaced post)]

theorem checkConstraint?_declared (hd : d.Proper) (hplain : d.Plain) :
    checkConstraint? d.declared = d.clauses.findSome? Clause.check? := by
  cases hfirst : d.clauses.findSome? Clause.check? with
  | none =>
    have hnone := search?_none (hplain.misses_check hd wordNext_nil)
      (checkKeyword_announces.matchAt?_nil (by decide) _ _)
    rw [checkConstraint?, declared_of_none hfirst, hnone, Option.bind_none]
  | some value =>
    obtain ⟨c, hmem, post, hc, hdeclared⟩ := declared_of_some hfirst
    obtain ⟨condition, rfl, rfl⟩ : ∃ condition, c = .check condition ∧ value = Text.trim condition := by
      cases c <;> simp_all [Clause.check?]
    obtain ⟨hne, hclosed, hunmarked, -⟩ := hd.clauses _ hmem
    obtain ⟨e, he, herest⟩ := run_checkKeyword (d.upTo Clause.check?)
      (condition ++ ')' :: Text.spaced post) ((d.upTo Clause.check?).length + 1)
    have hmisses : checkKeyword.Misses [] (d.upTo Clause.check?)
        (' ' :: ("CHECK" ++ ' ' :: '(' :: (condition ++ ')' :: Text.spaced post))) :=
      hplain.misses_check hd (wordNext_cons rfl)
    have hsearch := search_behind rfl hmisses he
    have hshape : d.declared = d.upTo Clause.check? ++
        ' ' :: ("CHECK" ++ ' ' :: '(' :: (condition ++ ')' :: Text.spaced post)) := by
      have hargument : Clause.argument (.check condition) ++ Text.spaced post =
          ' ' :: '(' :: (condition ++ ')' :: Text.spaced post) := by
        simp [Clause.argument]
      rw [hdeclared, Clause.written, List.append_assoc, hargument]
      rfl
    rw [checkConstraint?, hshape, hsearch]
    simp only [Option.bind_some, herest, hclosed.closingDistance? hunmarked, List.take_left]
    rw [nonempty?, if_neg hne]

end ColumnDeclaration

end DdlAtlas.Sql
