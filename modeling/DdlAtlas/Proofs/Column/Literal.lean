import DdlAtlas.Proofs.Nesting.Closed
import DdlAtlas.Proofs.Pattern.Barrier
import DdlAtlas.Proofs.Pattern.Groups
import DdlAtlas.Proofs.Table.Declared
import DdlAtlas.Proofs.Text.Phrase

/-!
# Literals in a column definition

The phrases and the keywords that a definition is searched for hold no quote. So none of them reaches into a
literal or out of it, and the search sees three texts: what stands in front of the literal, the literal, and what
stands behind it. It does not see which of them is the literal. What is written in the literal counts like
anything else, and it makes a difference where the other two texts do not decide the matter before.
-/

namespace DdlAtlas.Sql

open Pattern

def withLiteral (a u b : Text) : Text :=
  a ++ '\'' :: (u ++ '\'' :: b)

def holdsPhrase (phrase t : Text) : Bool :=
  Text.hasPart phrase (Text.capitals t)

variable {phrase a b s t t' u v r : Text}

theorem holdsPhrase_append_quote (h : '\'' ∉ phrase) (s t : Text) :
    holdsPhrase phrase (s ++ '\'' :: t) = (holdsPhrase phrase s || holdsPhrase phrase t) := by
  have hsplit : Text.capitals (s ++ '\'' :: t) = Text.capitals s ++ '\'' :: Text.capitals t :=
    (Text.capitals_append s ('\'' :: t)).trans rfl
  rw [Bool.eq_iff_iff, Bool.or_eq_true, holdsPhrase, holdsPhrase, holdsPhrase, hsplit]
  simp only [Text.hasPart_iff, Text.isInfix_append_cons h]

theorem holdsPhrase_withLiteral (h : '\'' ∉ phrase) (a u b : Text) : holdsPhrase phrase (withLiteral a u b) =
    (holdsPhrase phrase a || (holdsPhrase phrase u || holdsPhrase phrase b)) := by
  rw [withLiteral, holdsPhrase_append_quote h, holdsPhrase_append_quote h]

theorem agree_behind_iff {p : Pattern} (hp : p.stopsAt '\'' = true) {read : Text → Option Text}
    (h : ∀ r ∈ p.behind? s, (read (r ++ '\'' :: t)).isSome = (read (r ++ '\'' :: t')).isSome) :
    ((p.behind? (s ++ '\'' :: t)).bind read).isSome = ((p.behind? (s ++ '\'' :: t')).bind read).isSome ↔
      p.occursIn s = true ∨ ((p.behind? t).bind read).isSome = ((p.behind? t').bind read).isSome := by
  have hoccurs : p.occursIn s = (p.behind? s).isSome := (Option.isSome_map ..).symm
  rw [behind?_append_cons hp, behind?_append_cons hp, hoccurs]
  cases hs : p.behind? s with
  | none => simp
  | some r => simp [h r hs]

section Default

theorem isSome_valueExtent_cons (c : Char) (t t' : Text) :
    (nonempty? (valueExtent none 0 (c :: t))).isSome = (nonempty? (valueExtent none 0 (c :: t'))).isSome := by
  have hcons : ∀ w w' : Text, (nonempty? (c :: w)).isSome = (nonempty? (c :: w')).isSome :=
    fun w w' => by simp [nonempty?]
  simp only [valueExtent]
  split
  · exact hcons _ _
  · split
    · exact hcons _ _
    · split
      · rfl
      · split
        · rfl
        · exact hcons _ _

theorem defaultValue?_eq (t : Text) : defaultValue? t =
    (defaultKeyword.behind? t).bind fun r => nonempty? (valueExtent none 0 r) := by
  rw [defaultValue?, behind?, Option.bind_map]
  rfl

theorem agree_default_iff (a b u v : Text) :
    (defaultValue? (withLiteral a u b)).isSome = (defaultValue? (withLiteral a v b)).isSome ↔
      defaultKeyword.occursIn a = true ∨
        (defaultValue? (u ++ '\'' :: b)).isSome = (defaultValue? (v ++ '\'' :: b)).isSome := by
  simp only [defaultValue?_eq, withLiteral]
  refine agree_behind_iff (by decide) fun r _ => ?_
  cases r with
  | nil => exact isSome_valueExtent_cons '\'' _ _
  | cons c r => exact isSome_valueExtent_cons c _ _

end Default

section Check

variable {m : Mode} {n : Nesting} {k depth : Nat}

def checkBody? (t : Text) : Option Text :=
  (closingDistance? .code 1 t).bind fun d => nonempty? (Text.trim (t.take d))

theorem checkConstraint?_eq (t : Text) : checkConstraint? t = (checkKeyword.behind? t).bind checkBody? := by
  rw [checkConstraint?, behind?, Option.bind_map]
  rfl

def QuotesClosed (t : Text) : Prop :=
  (t.foldl Nesting.step .outside).quote = none

instance (t : Text) : Decidable (QuotesClosed t) :=
  inferInstanceAs (Decidable (_ = _))

/-- Where the first CHECK with its parenthesis stands in the text, if there is one, it does not stand in a
literal, and no comment begins behind it; nor does a literal stay open. -/
def ChecksOutside (a : Text) : Prop :=
  QuotesClosed a ∧ ∀ m ∈ checkKeyword.search? a, QuotesClosed m.stop.before.reverse ∧ Unmarked m.stop.rest

instance (a : Text) : Decidable (ChecksOutside a) :=
  inferInstanceAs (Decidable (_ ∧ _))

theorem closingDistance?_quote (hm : m.Fits n.quote (r ++ ['\''])) (hr : Unmarked (r ++ ['\'']))
    (hn : (r.foldl Nesting.step n).quote = none) (depth : Nat) :
    (∃ d < r.length, ∀ t, closingDistance? m depth (r ++ '\'' :: t) = some d) ∨
      ∃ k, ∀ t, closingDistance? m depth (r ++ '\'' :: t) =
        (closingDistance? (.literal '\'') k t).map (· + (r.length + 1)) := by
  induction r generalizing m n depth with
  | nil =>
    refine .inr ⟨depth, fun t => ?_⟩
    have hn : n.quote = none := hn
    rw [List.nil_append, hn] at hm
    cases hm with
    | code => rfl
    | escaped => rfl
  | cons c r ih =>
    by_cases hstop : m = .code ∧ c = ')' ∧ depth = 1
    · exact .inl ⟨0, Nat.zero_lt_succ _, fun t => by rw [List.cons_append, closingDistance?, if_pos hstop]⟩
    · have hhead : ∀ t : Text, (r ++ '\'' :: t).head? = (r ++ ['\''] ++ ')' :: []).head? := fun t => by
        cases r <;> rfl
      have hstep : ∀ t, closingDistance? m depth (c :: r ++ '\'' :: t) =
          (closingDistance? (m.step c (r ++ ['\''] ++ ')' :: []).head?) (m.depthAfter depth c)
            (r ++ '\'' :: t)).map (· + 1) := fun t => by
        rw [List.cons_append, closingDistance?, if_neg hstop, hhead]
      have hfits : (m.step c (r ++ ['\''] ++ ')' :: []).head?).Fits (n.step c).quote (r ++ ['\'']) :=
        hm.step hr
      rcases ih hfits hr.of_cons hn (m.depthAfter depth c) with ⟨d, hd, hfound⟩ | ⟨k, hfound⟩
      · exact .inl ⟨d + 1, Nat.succ_lt_succ hd, fun t => by rw [hstep, hfound, Option.map_some]⟩
      · refine .inr ⟨k, fun t => ?_⟩
        rw [hstep, hfound, Option.map_map]
        rfl

theorem closingDistance?_literal (hu : '\'' ∉ u) (k : Nat) (t : Text) :
    closingDistance? (.literal '\'') k (u ++ t) = (closingDistance? (.literal '\'') k t).map (· + u.length) := by
  induction u with
  | nil => simp
  | cons c u ih =>
    have hc : c ≠ '\'' := fun he => hu (he ▸ List.mem_cons_self)
    have hdepth : (Mode.literal '\'').depthAfter k c = k := by simp [Mode.depthAfter]
    rw [List.cons_append, closingDistance?, if_neg (by simp), Mode.step, if_neg hc, hdepth,
      ih fun h => hu (List.mem_cons_of_mem c h), Option.map_map]
    rfl

theorem isSome_checkBody?_quote (h : closingDistance? .code 1 (r ++ '\'' :: t) =
      (closingDistance? (.literal '\'') k t).map (· + (r.length + 1))) :
    (checkBody? (r ++ '\'' :: t)).isSome = (closingDistance? (.literal '\'') k t).isSome := by
  rw [checkBody?, h]
  cases closingDistance? (.literal '\'') k t with
  | none => rfl
  | some d =>
    have hmem : '\'' ∈ (r ++ '\'' :: t).take (d + (r.length + 1)) := by
      rw [List.mem_take_iff_getElem]
      exact ⟨r.length, by simp; omega, by simp⟩
    simp [nonempty?, Text.trim_ne_nil_of_mem (by decide) hmem]

theorem isSome_checkBody?_literal (hr : Unmarked r) {quotes : Nesting} (hopen : quotes.quote = none)
    (hclosed : (r.foldl Nesting.step quotes).quote = none) (hu : '\'' ∉ u) (hv : '\'' ∉ v) (b : Text) :
    (checkBody? (r ++ '\'' :: (u ++ '\'' :: b))).isSome = (checkBody? (r ++ '\'' :: (v ++ '\'' :: b))).isSome := by
  have hmarks : Unmarked (r ++ ['\'']) := by
    constructor <;> rw [Text.isInfix_append_cons (by decide)]
    · exact fun h => h.elim hr.1 (by simp [List.infix_nil])
    · exact fun h => h.elim hr.2 (by simp [List.infix_nil])
  rcases closingDistance?_quote (m := .code) (n := quotes) (hopen ▸ .code _) hmarks hclosed 1 with
    ⟨d, hd, hfound⟩ | ⟨k, hfound⟩
  · have htake : ∀ t : Text, (r ++ '\'' :: t).take d = r.take d := fun t =>
      List.take_append_of_le_length (Nat.le_of_lt hd)
    rw [checkBody?, checkBody?, hfound, hfound, Option.bind_some, Option.bind_some, htake, htake]
  · rw [isSome_checkBody?_quote (hfound _), isSome_checkBody?_quote (hfound _), closingDistance?_literal hu,
      closingDistance?_literal hv, Option.isSome_map, Option.isSome_map]

theorem agree_check_iff (ha : ChecksOutside a) (hu : '\'' ∉ u) (hv : '\'' ∉ v) (b : Text) :
    (checkConstraint? (withLiteral a u b)).isSome = (checkConstraint? (withLiteral a v b)).isSome ↔
      checkKeyword.occursIn a = true ∨
        (checkConstraint? (u ++ '\'' :: b)).isSome = (checkConstraint? (v ++ '\'' :: b)).isSome := by
  simp only [checkConstraint?_eq, withLiteral]
  refine agree_behind_iff (by decide) fun r hr => ?_
  obtain ⟨m, hm, rfl⟩ := Option.map_eq_some_iff.mp hr
  obtain ⟨hfront, hmarks⟩ := ha.2 m hm
  have hsplit : a = m.stop.before.reverse ++ m.stop.rest := by
    obtain ⟨before, rest, position, hat, hmatch⟩ := matchAt?_of_search? hm
    obtain ⟨-, hreads⟩ := reads_of_matchAt? hmatch
    obtain ⟨s, hs⟩ := hreads.passed
    rw [hat, show rest = s ++ m.stop.rest from hs.rest, hs.before]
    simp
  have hclosed := ha.1
  rw [QuotesClosed, hsplit, List.foldl_append] at hclosed
  exact isSome_checkBody?_literal hmarks hfront hclosed hu hv b

end Check

section Marks

variable {name declared : Text} {c d : Column}

theorem columnOf_marks (h : columnOf name declared = .ok c) :
    c.nullable = !holdsPhrase "NOT NULL" declared ∧ c.isPrimaryKey = holdsPhrase "PRIMARY KEY" declared ∧
      c.isUnique = (holdsPhrase "UNIQUE" declared && !holdsPhrase "NOT UNIQUE" declared) ∧
      c.defaultValue = defaultValue? declared ∧ c.checkConstraint = checkConstraint? declared := by
  rw [(columnType_of_columnOf h).2]
  exact ⟨rfl, rfl, rfl, rfl, rfl⟩

theorem columnOf_withLiteral_total (name a u b : Text) : ∃ c, columnOf name (withLiteral a u b) = .ok c :=
  columnOf_total name (Text.words_ne_nil_of_mem (c := '\'') (by decide) (List.mem_append_right a List.mem_cons_self))

structure SameMarks (c d : Column) : Prop where
  nullable : c.nullable = d.nullable
  isPrimaryKey : c.isPrimaryKey = d.isPrimaryKey
  isUnique : c.isUnique = d.isUnique
  defaultValue : c.defaultValue.isSome = d.defaultValue.isSome
  checkConstraint : c.checkConstraint.isSome = d.checkConstraint.isSome

/-- One of the texts beside two literals holds the phrase, or both literals hold it or neither. -/
def PhraseAgrees (phrase a b u v : Text) : Prop :=
  holdsPhrase phrase a = true ∨ holdsPhrase phrase b = true ∨ holdsPhrase phrase u = holdsPhrase phrase v

/-- One of the texts beside two literals says NOT UNIQUE, or each literal and the texts beside it say UNIQUE,
but the literal not NOT UNIQUE, or neither do so. -/
def UniqueAgrees (a b u v : Text) : Prop :=
  holdsPhrase "NOT UNIQUE" a = true ∨ holdsPhrase "NOT UNIQUE" b = true ∨
    ((holdsPhrase "UNIQUE" a || (holdsPhrase "UNIQUE" u || holdsPhrase "UNIQUE" b)) &&
        !holdsPhrase "NOT UNIQUE" u) =
      ((holdsPhrase "UNIQUE" a || (holdsPhrase "UNIQUE" v || holdsPhrase "UNIQUE" b)) &&
        !holdsPhrase "NOT UNIQUE" v)

/-- The keyword stands in front of two literals, or something is read behind both of the quotes that open them,
or behind neither. -/
def ReadingAgrees (p : Pattern) (read : Text → Option Text) (a b u v : Text) : Prop :=
  p.occursIn a = true ∨ (read (u ++ '\'' :: b)).isSome = (read (v ++ '\'' :: b)).isSome

structure Inert (t : Text) : Prop where
  notNull : holdsPhrase "NOT NULL" t = false
  primaryKey : holdsPhrase "PRIMARY KEY" t = false
  unique : holdsPhrase "UNIQUE" t = false
  default : defaultKeyword.occursIn t = false
  check : checkKeyword.occursIn t = false

theorem Inert.notUnique (h : Inert t) : holdsPhrase "NOT UNIQUE" t = false := by
  refine Bool.eq_false_iff.mpr fun hnot => ?_
  have hpart : ("UNIQUE" : Text) <:+: "NOT UNIQUE" := by decide
  have hunique : holdsPhrase "UNIQUE" t = true := Text.hasPart_iff.mpr (hpart.trans (Text.hasPart_iff.mp hnot))
  rw [h.unique] at hunique
  cases hunique

theorem or_or_eq_iff (x y z w : Bool) : (x || (y || w)) = (x || (z || w)) ↔ x = true ∨ w = true ∨ y = z := by
  cases x <;> cases w <;> simp

theorem and_not_eq_iff (x y z w s t : Bool) :
    (x && !(y || (z || w))) = (s && !(y || (t || w))) ↔ y = true ∨ w = true ∨ (x && !z) = (s && !t) := by
  cases y <;> cases w <;> simp

theorem phraseAgrees_iff (h : '\'' ∉ phrase) :
    holdsPhrase phrase (withLiteral a u b) = holdsPhrase phrase (withLiteral a v b) ↔ PhraseAgrees phrase a b u v := by
  rw [holdsPhrase_withLiteral h, holdsPhrase_withLiteral h, or_or_eq_iff, PhraseAgrees]

theorem readingAgrees_of_behind? {p : Pattern} (hp : p.stopsAt '\'' = true) {read behind : Text → Option Text}
    (hread : ∀ t, read t = (p.behind? t).bind behind) (hu : p.occursIn u = false) (hv : p.occursIn v = false) :
    ReadingAgrees p read a b u v := by
  have hnone : ∀ {w}, p.occursIn w = false → p.behind? (w ++ '\'' :: b) = p.behind? b := fun {w} hw => by
    have hw : p.behind? w = none := by
      rw [behind?, Option.map_eq_none_iff]
      exact Option.not_isSome_iff_eq_none.mp (Bool.eq_false_iff.mp hw)
    rw [behind?_append_cons hp, hw]
    rfl
  right
  rw [hread, hread, hnone hu, hnone hv]

variable (hc : columnOf name (withLiteral a u b) = .ok c) (hd : columnOf name (withLiteral a v b) = .ok d)

include hc hd

theorem nullable_agree_iff : c.nullable = d.nullable ↔ PhraseAgrees "NOT NULL" a b u v := by
  rw [(columnOf_marks hc).1, (columnOf_marks hd).1, Bool.not_inj_iff]
  exact phraseAgrees_iff (by decide)

theorem isPrimaryKey_agree_iff : c.isPrimaryKey = d.isPrimaryKey ↔ PhraseAgrees "PRIMARY KEY" a b u v := by
  rw [(columnOf_marks hc).2.1, (columnOf_marks hd).2.1]
  exact phraseAgrees_iff (by decide)

theorem isUnique_agree_iff : c.isUnique = d.isUnique ↔ UniqueAgrees a b u v := by
  have hunique : '\'' ∉ ("UNIQUE" : Text) := by decide
  have hnot : '\'' ∉ ("NOT UNIQUE" : Text) := by decide
  rw [(columnOf_marks hc).2.2.1, (columnOf_marks hd).2.2.1, holdsPhrase_withLiteral hnot,
    holdsPhrase_withLiteral hnot, holdsPhrase_withLiteral hunique, holdsPhrase_withLiteral hunique]
  exact and_not_eq_iff ..

theorem defaultValue_agree_iff :
    c.defaultValue.isSome = d.defaultValue.isSome ↔ ReadingAgrees defaultKeyword defaultValue? a b u v := by
  rw [(columnOf_marks hc).2.2.2.1, (columnOf_marks hd).2.2.2.1]
  exact agree_default_iff a b u v

theorem checkConstraint_agree_iff (ha : ChecksOutside a) (hu : '\'' ∉ u) (hv : '\'' ∉ v) :
    c.checkConstraint.isSome = d.checkConstraint.isSome ↔
      ReadingAgrees checkKeyword checkConstraint? a b u v := by
  rw [(columnOf_marks hc).2.2.2.2, (columnOf_marks hd).2.2.2.2]
  exact agree_check_iff ha hu hv b

theorem sameMarks_of_inert (ha : ChecksOutside a) (hu : '\'' ∉ u) (hv : '\'' ∉ v) (hui : Inert u) (hvi : Inert v) :
    SameMarks c d where
  nullable := (nullable_agree_iff hc hd).mpr (.inr (.inr (hui.notNull.trans hvi.notNull.symm)))
  isPrimaryKey := (isPrimaryKey_agree_iff hc hd).mpr (.inr (.inr (hui.primaryKey.trans hvi.primaryKey.symm)))
  isUnique := (isUnique_agree_iff hc hd).mpr (.inr (.inr (by
    rw [hui.unique, hvi.unique, hui.notUnique, hvi.notUnique])))
  defaultValue := (defaultValue_agree_iff hc hd).mpr
    (readingAgrees_of_behind? (by decide) defaultValue?_eq hui.default hvi.default)
  checkConstraint := (checkConstraint_agree_iff hc hd ha hu hv).mpr
    (readingAgrees_of_behind? (by decide) checkConstraint?_eq hui.check hvi.check)

end Marks

/-- Two definitions that differ in a literal are read alike, mark by mark, just when what stands beside the
literals decides the mark or the literals hold the same for it: the phrases of a flag are looked up in the
literal too, and a default value or a check is read in it as it would be without the quote. So literals without
phrases and keywords make no difference. -/
theorem columnOf_withLiteral (name a b : Text) {u v : Text} (hu : '\'' ∉ u) (hv : '\'' ∉ v) :
    ∃ c d, columnOf name (withLiteral a u b) = .ok c ∧ columnOf name (withLiteral a v b) = .ok d ∧
      (c.nullable = d.nullable ↔ PhraseAgrees "NOT NULL" a b u v) ∧
      (c.isPrimaryKey = d.isPrimaryKey ↔ PhraseAgrees "PRIMARY KEY" a b u v) ∧
      (c.isUnique = d.isUnique ↔ UniqueAgrees a b u v) ∧
      (c.defaultValue.isSome = d.defaultValue.isSome ↔ ReadingAgrees defaultKeyword defaultValue? a b u v) ∧
      (ChecksOutside a →
        ((c.checkConstraint.isSome = d.checkConstraint.isSome ↔
            ReadingAgrees checkKeyword checkConstraint? a b u v) ∧
          (Inert u → Inert v → SameMarks c d))) := by
  obtain ⟨c, hc⟩ := columnOf_withLiteral_total name a u b
  obtain ⟨d, hd⟩ := columnOf_withLiteral_total name a v b
  exact ⟨c, d, hc, hd, nullable_agree_iff hc hd, isPrimaryKey_agree_iff hc hd, isUnique_agree_iff hc hd,
    defaultValue_agree_iff hc hd, fun ha => ⟨checkConstraint_agree_iff hc hd ha hu hv,
      sameMarks_of_inert hc hd ha hu hv⟩⟩

/-- Where the first CHECK stands in a literal itself, the search for its closing parenthesis takes the next
literal for code. -/
example : ¬ChecksOutside "text DEFAULT 'check (' COLLATE " ∧
    (checkConstraint? (withLiteral "text DEFAULT 'check (' COLLATE " "C)" [])).isSome = true ∧
    (checkConstraint? (withLiteral "text DEFAULT 'check (' COLLATE " "C" [])).isSome = false := by
  decide +kernel

theorem columnOf_withLiteral_state : ('\'' ∉ ("open" : Text) ∧ '\'' ∉ ("done) (or" : Text)) ∧
    ChecksOutside "text DEFAULT 'new' CHECK (state <> " ∧
    ∃ c d, columnOf "state" (withLiteral "text DEFAULT 'new' CHECK (state <> " "open" ") NOT NULL") = .ok c ∧
      columnOf "state" (withLiteral "text DEFAULT 'new' CHECK (state <> " "done) (or" ") NOT NULL") = .ok d ∧
      SameMarks c d := by
  have hu : '\'' ∉ ("open" : Text) := by decide
  have hv : '\'' ∉ ("done) (or" : Text) := by decide
  have ha : ChecksOutside "text DEFAULT 'new' CHECK (state <> " := by decide +kernel
  have hui : Inert "open" := ⟨by decide, by decide, by decide, by decide, by decide⟩
  have hvi : Inert "done) (or" := ⟨by decide, by decide, by decide, by decide, by decide⟩
  obtain ⟨c, d, hc, hd, -, -, -, -, hsame⟩ :=
    columnOf_withLiteral "state" "text DEFAULT 'new' CHECK (state <> " ") NOT NULL" hu hv
  exact ⟨⟨hu, hv⟩, ha, c, d, hc, hd, (hsame ha).2 hui hvi⟩

theorem marks_of_literals : QuotesClosed "text COLLATE " ∧ QuotesClosed [] ∧
    ∀ u ∈ (["not null", "primary key", "unique", "default x", "check (x)"] : List Text),
      u.any isQuote = false ∧ ∀ c d, columnOf "a" (withLiteral "text COLLATE " u []) = .ok c →
        columnOf "a" (withLiteral "text COLLATE " "x" []) = .ok d → ¬SameMarks c d := by
  refine ⟨by decide, by decide, fun u hu => ?_⟩
  simp only [List.mem_cons, List.not_mem_nil, or_false] at hu
  refine ⟨?_, fun c d hc hd hsame => ?_⟩
  · rcases hu with rfl | rfl | rfl | rfl | rfl <;> decide
  · obtain ⟨hnull, hkey, hunique, hdefault, hcheck⟩ := columnOf_marks hc
    obtain ⟨hnull', hkey', hunique', hdefault', hcheck'⟩ := columnOf_marks hd
    rcases hu with rfl | rfl | rfl | rfl | rfl
    · exact absurd (hnull.symm.trans (hsame.nullable.trans hnull')) (by decide)
    · exact absurd (hkey.symm.trans (hsame.isPrimaryKey.trans hkey')) (by decide)
    · exact absurd (hunique.symm.trans (hsame.isUnique.trans hunique')) (by decide)
    · have := hsame.defaultValue
      rw [hdefault, hdefault'] at this
      exact absurd this (by decide +kernel)
    · have := hsame.checkConstraint
      rw [hcheck, hcheck'] at this
      exact absurd this (by decide +kernel)

end DdlAtlas.Sql
