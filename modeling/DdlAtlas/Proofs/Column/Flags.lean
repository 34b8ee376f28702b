import DdlAtlas.Proofs.Column.Written
import DdlAtlas.Proofs.Text.Phrase

/-!
# Flags of a column

The flags are phrases that are looked up in the whole declaration. A phrase that stands across a space of the
declaration would take a word that no clause begins or ends with, so that it stands in a keyword or in one of
the texts that the declaration is free to choose.
-/

namespace DdlAtlas.Sql

namespace Clause

def kinds : List Clause :=
  [.notNull, .unique, .primaryKey, .default [], .check []]

theorem exists_kind (c : Clause) : ∃ k ∈ kinds, c.keyword = k.keyword ∧
    ∀ flag : Clause, flag.text? = none → (c = flag ↔ k = flag) := by
  cases c with
  | notNull => exact ⟨.notNull, by simp [kinds], rfl, fun _ _ => .rfl⟩
  | unique => exact ⟨.unique, by simp [kinds], rfl, fun _ _ => .rfl⟩
  | primaryKey => exact ⟨.primaryKey, by simp [kinds], rfl, fun _ _ => .rfl⟩
  | default value =>
    refine ⟨.default [], by simp [kinds], rfl, fun flag hflag => ?_⟩
    cases flag <;> simp_all [text?]
  | check condition =>
    refine ⟨.check [], by simp [kinds], rfl, fun flag hflag => ?_⟩
    cases flag <;> simp_all [text?]

def Marks (phrase : Text) (flag : Clause) : Prop :=
  flag.text? = none ∧ ∀ k ∈ kinds, phrase <:+: k.keyword ↔ k = flag

instance (phrase : Text) (flag : Clause) : Decidable (Marks phrase flag) :=
  inferInstanceAs (Decidable (_ ∧ _))

theorem Marks.infix_keyword_iff {phrase : Text} {flag : Clause} (h : Marks phrase flag) (c : Clause) :
    phrase <:+: c.keyword ↔ c = flag := by
  obtain ⟨k, hk, hkeyword, hsame⟩ := c.exists_kind
  rw [hkeyword, h.2 k hk, hsame flag h.1]

theorem capitals_default (value : Text) :
    Text.capitals (written (.default value)) = "DEFAULT" ++ ' ' :: Text.capitals value := by
  have hkeyword : Text.capitals "DEFAULT " = "DEFAULT " := by decide
  have hshape : written (.default value) = "DEFAULT " ++ value := rfl
  rw [hshape, Text.capitals_append, hkeyword]
  rfl

theorem capitals_check (condition : Text) :
    Text.capitals (written (.check condition)) =
      "CHECK" ++ ' ' :: '(' :: (Text.capitals condition ++ [')']) := by
  have hkeyword : Text.capitals "CHECK (" = "CHECK (" := by decide
  have hclose : Text.capitals [')'] = [')'] := by decide
  have hshape : written (.check condition) = "CHECK (" ++ (condition ++ [')']) := rfl
  rw [hshape, Text.capitals_append, Text.capitals_append, hkeyword, hclose]
  rfl

theorem capitals_written_of_text?_eq_none {c : Clause} (h : c.text? = none) :
    Text.capitals c.written = c.keyword := by
  cases c with
  | notNull | unique | primaryKey => rfl
  | default _ | check _ => exact absurd h (by simp [text?])

theorem infix_enclosed {w t : Text} (hopen : '(' ∉ w) (hclose : ')' ∉ w) (hne : w ≠ []) :
    w <:+: '(' :: (t ++ [')']) ↔ w <:+: t := by
  have hbefore := Text.isInfix_append_cons (a := []) (b := t ++ [')']) hopen
  have hbehind := Text.isInfix_append_cons (a := t) (b := []) hclose
  rw [List.nil_append] at hbefore
  rw [hbefore, hbehind]
  simp [List.infix_nil, hne]

theorem word_infix_written {w : Text} (hspace : ' ' ∉ w) (hopen : '(' ∉ w) (hclose : ')' ∉ w)
    (hne : w ≠ []) (c : Clause) : w <:+: Text.capitals c.written ↔
      w <:+: c.keyword ∨ ∃ t ∈ c.text?, w <:+: Text.capitals t := by
  cases c with
  | notNull | unique | primaryKey =>
    rw [capitals_written_of_text?_eq_none rfl]
    simp [text?]
  | default value =>
    rw [capitals_default, Text.isInfix_append_cons hspace]
    simp only [text?, Option.mem_some_iff, exists_eq_left']
    rfl
  | check condition =>
    rw [capitals_check, Text.isInfix_append_cons hspace, infix_enclosed hopen hclose hne]
    simp only [text?, Option.mem_some_iff, exists_eq_left']
    rfl

def Phrase (u v : Text) : Prop :=
  (' ' ∉ u ∧ ' ' ∉ v) ∧ ('(' ∉ u ++ ' ' :: v ∧ ')' ∉ u ++ ' ' :: v) ∧ ¬u <:+ "DEFAULT" ∧ ¬u <:+ "CHECK"

instance (u v : Text) : Decidable (Phrase u v) :=
  inferInstanceAs (Decidable (_ ∧ _))

theorem phrase_infix_written {u v : Text} (h : Phrase u v) (c : Clause) :
    u ++ ' ' :: v <:+: Text.capitals c.written ↔
      u ++ ' ' :: v <:+: c.keyword ∨ ∃ t ∈ c.text?, u ++ ' ' :: v <:+: Text.capitals t := by
  obtain ⟨⟨hu, hv⟩, ⟨hopen, hclose⟩, hkeyword⟩ := h
  cases c with
  | notNull | unique | primaryKey =>
    rw [capitals_written_of_text?_eq_none rfl]
    simp [text?]
  | default value =>
    rw [capitals_default, Text.phrase_infix_append hu hv]
    simp only [text?, Option.mem_some_iff, exists_eq_left', hkeyword.1, false_and, or_false]
    rfl
  | check condition =>
    rw [capitals_check, Text.phrase_infix_append hu hv, infix_enclosed hopen hclose (by simp)]
    simp only [text?, Option.mem_some_iff, exists_eq_left', hkeyword.2, false_and, or_false]
    rfl

end Clause

namespace ColumnDeclaration

def loudClauses (d : ColumnDeclaration) : List Text :=
  d.clauses.map fun c => Text.capitals c.written

theorem capitals_declared (d : ColumnDeclaration) : Text.capitals d.declared =
    Text.capitals d.type.written ++ Text.spaced d.loudClauses := by
  rw [declared, Text.capitals_append, Text.capitals_spaced, List.map_map]
  rfl

theorem exists_piece_iff {p : Text → Prop}
    (h : ∀ c : Clause, p (Text.capitals c.written) ↔ p c.keyword ∨ ∃ t ∈ c.text?, p (Text.capitals t))
    (d : ColumnDeclaration) :
    (∃ a ∈ Text.capitals d.type.written :: d.loudClauses, p a) ↔
      (∃ c ∈ d.clauses, p c.keyword) ∨ ∃ t ∈ d.texts, p (Text.capitals t) := by
  simp only [texts, loudClauses, List.mem_cons, exists_eq_or_imp, List.mem_map, List.mem_filterMap,
    exists_exists_and_eq_and]
  constructor
  · rintro (htype | ⟨c, hc, hp⟩)
    · exact .inr (.inl htype)
    · rcases (h c).mp hp with hkeyword | ⟨t, ht, hp⟩
      · exact .inl ⟨c, hc, hkeyword⟩
      · exact .inr (.inr ⟨t, ⟨c, hc, ht⟩, hp⟩)
  · rintro (⟨c, hc, hkeyword⟩ | htype | ⟨t, ⟨c, hc, ht⟩, hp⟩)
    · exact .inr ⟨c, hc, (h c).mpr (.inl hkeyword)⟩
    · exact .inl htype
    · exact .inr ⟨c, hc, (h c).mpr (.inr ⟨t, ht, hp⟩)⟩

variable {d : ColumnDeclaration}

theorem silent_iff {phrase : Text} {ts : List Text} :
    Silent phrase ts ↔ ¬∃ t ∈ ts, phrase <:+: Text.capitals t := by
  simp only [Silent, ← Text.hasPart_iff, not_exists, not_and, Bool.not_eq_true]

theorem hasPart_phrase {u v : Text} (h : Clause.Phrase u v)
    (hcross : ∀ a ∈ Text.capitals d.type.written :: d.loudClauses, ∀ b ∈ d.loudClauses,
      ¬(u <:+ a ∧ v <+: b)) :
    Text.hasPart (u ++ ' ' :: v) (Text.capitals d.declared) = true ↔
      (∃ c ∈ d.clauses, u ++ ' ' :: v <:+: c.keyword) ∨
        ∃ t ∈ d.texts, u ++ ' ' :: v <:+: Text.capitals t := by
  rw [Text.hasPart_iff, capitals_declared, Text.phrase_infix_spaced h.1.1 h.1.2 hcross]
  exact exists_piece_iff (Clause.phrase_infix_written h) d

theorem hasPart_word {w : Text} (hspace : ' ' ∉ w) (hopen : '(' ∉ w) (hclose : ')' ∉ w) (hne : w ≠ []) :
    Text.hasPart w (Text.capitals d.declared) = true ↔
      (∃ c ∈ d.clauses, w <:+: c.keyword) ∨ ∃ t ∈ d.texts, w <:+: Text.capitals t := by
  rw [Text.hasPart_iff, capitals_declared, Text.word_infix_spaced hspace]
  exact exists_piece_iff (Clause.word_infix_written hspace hopen hclose hne) d

theorem hasPart_eq_decide {phrase : Text} {flag : Clause}
    (h : Text.hasPart phrase (Text.capitals d.declared) = true ↔
      (∃ c ∈ d.clauses, phrase <:+: c.keyword) ∨ ∃ t ∈ d.texts, phrase <:+: Text.capitals t)
    (hmarks : Clause.Marks phrase flag) (hplain : flag ∈ d.clauses ∨ Silent phrase d.texts) :
    Text.hasPart phrase (Text.capitals d.declared) = decide (flag ∈ d.clauses) := by
  rw [Bool.eq_iff_iff, h, decide_eq_true_iff]
  simp only [hmarks.infix_keyword_iff, exists_eq_right]
  rw [silent_iff] at hplain
  constructor
  · rintro (hflag | htext)
    · exact hflag
    · exact hplain.resolve_right (not_not.mpr htext)
  · exact .inl

theorem take_capitals_written (c : Clause) : (Text.capitals c.written).take 2 = c.keyword.take 2 := by
  cases c with
  | notNull | unique | primaryKey => rfl
  | default value =>
    rw [Clause.capitals_default]
    rfl
  | check condition =>
    rw [Clause.capitals_check]
    rfl

theorem not_begins_of_mem {v : Text} (hlength : 2 ≤ v.length)
    (h : ∀ k ∈ Clause.kinds, k.keyword.take 2 ≠ v.take 2) {b : Text} (hb : b ∈ d.loudClauses) : ¬v <+: b := by
  obtain ⟨c, -, rfl⟩ := List.mem_map.mp hb
  rintro ⟨t, ht⟩
  obtain ⟨k, hk, hkeyword, -⟩ := c.exists_kind
  refine h k hk ?_
  rw [← hkeyword, ← take_capitals_written, ← ht, List.take_append_of_le_length hlength]

theorem hasPart_notNull (hplain : d.Plain) :
    Text.hasPart "NOT NULL" (Text.capitals d.declared) = decide (.notNull ∈ d.clauses) := by
  have hphrase : Clause.Phrase "NOT" "NULL" := by decide
  have hcross : ∀ a ∈ Text.capitals d.type.written :: d.loudClauses, ∀ b ∈ d.loudClauses,
      ¬(("NOT" : Text) <:+ a ∧ ("NULL" : Text) <+: b) := fun _ _ _ hb h =>
    not_begins_of_mem (by decide) (by decide) hb h.2
  exact hasPart_eq_decide (hasPart_phrase hphrase hcross) (by decide) hplain.notNull

theorem hasPart_primaryKey (hplain : d.Plain) :
    Text.hasPart "PRIMARY KEY" (Text.capitals d.declared) = decide (.primaryKey ∈ d.clauses) := by
  have hphrase : Clause.Phrase "PRIMARY" "KEY" := by decide
  have hcross : ∀ a ∈ Text.capitals d.type.written :: d.loudClauses, ∀ b ∈ d.loudClauses,
      ¬(("PRIMARY" : Text) <:+ a ∧ ("KEY" : Text) <+: b) := fun _ _ _ hb h =>
    not_begins_of_mem (by decide) (by decide) hb h.2
  exact hasPart_eq_decide (hasPart_phrase hphrase hcross) (by decide) hplain.primaryKey

theorem not_ends_of_open (h : ∀ t ∈ d.openTexts, Text.endsWith (Text.capitals t) "NOT" = false)
    {a : Text} (ha : a ∈ Text.capitals d.type.written :: d.loudClauses) : ¬("NOT" : Text) <:+ a := by
  have hopen : ∀ t ∈ d.openTexts, ¬("NOT" : Text) <:+ Text.capitals t := fun t ht hs => by
    have := h t ht
    rw [Text.endsWith_iff.mpr hs] at this
    exact absurd this (by simp)
  rcases List.mem_cons.mp ha with rfl | ha
  · exact hopen _ List.mem_cons_self
  · obtain ⟨c, hc, rfl⟩ := List.mem_map.mp ha
    cases c with
    | notNull | unique | primaryKey => decide
    | default value =>
      have hspace : ' ' ∉ ("NOT" : Text) := by decide
      rw [Clause.capitals_default, Text.suffix_append_cons hspace]
      exact hopen value (List.mem_cons_of_mem _ (List.mem_filterMap.mpr ⟨_, hc, rfl⟩))
    | check condition =>
      have hclose : ¬("NOT" : Text) <:+ ("CHECK ": Text) ++ '(' :: (Text.capitals condition ++ [')']) := by
        rw [Text.suffix_append_cons (by decide)]
        rintro ⟨t, ht⟩
        have hlast := congrArg List.getLast? ht
        rw [List.getLast?_append_of_ne_nil _ (by decide), List.getLast?_append_of_ne_nil _ (by simp)]
          at hlast
        exact absurd hlast (by decide)
      rw [Clause.capitals_check]
      exact hclose

theorem isUnique_declared (hplain : d.Plain) :
    (Text.hasPart "UNIQUE" (Text.capitals d.declared) &&
      !Text.hasPart "NOT UNIQUE" (Text.capitals d.declared)) = decide (.unique ∈ d.clauses) := by
  have hmarks : Clause.Marks "UNIQUE" .unique := by decide
  have hword := hasPart_word (d := d) (w := "UNIQUE") (by decide) (by decide) (by decide) (by decide)
  have hunique := hplain.unique
  by_cases hmem : .unique ∈ d.clauses
  · rw [if_pos hmem] at hunique
    obtain ⟨hsilent, hopen⟩ := hunique
    have hphrase : Clause.Phrase "NOT" "UNIQUE" := by decide
    have hcross : ∀ a ∈ Text.capitals d.type.written :: d.loudClauses, ∀ b ∈ d.loudClauses,
        ¬(("NOT" : Text) <:+ a ∧ ("UNIQUE" : Text) <+: b) := fun _ ha _ _ h =>
      not_ends_of_open hopen ha h.1
    have hnot : Text.hasPart "NOT UNIQUE" (Text.capitals d.declared) = false := by
      rw [Bool.eq_false_iff]
      intro hpart
      rcases (hasPart_phrase hphrase hcross).mp hpart with ⟨c, -, hc⟩ | htext
      · obtain ⟨k, hk, hkeyword, -⟩ := c.exists_kind
        have hnone : ∀ k ∈ Clause.kinds, ¬("NOT UNIQUE" : Text) <:+: k.keyword := by decide
        exact hnone k hk (hkeyword ▸ hc)
      · exact silent_iff.mp hsilent htext
    rw [hasPart_eq_decide hword hmarks (.inl hmem), hnot]
    simp
  · rw [if_neg hmem] at hunique
    rw [hasPart_eq_decide hword hmarks (.inr hunique)]
    simp [hmem]

end ColumnDeclaration

end DdlAtlas.Sql
