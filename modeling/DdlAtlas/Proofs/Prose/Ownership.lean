import DdlAtlas.Proofs.Name.Written
import DdlAtlas.Proofs.Prose.TwoSided

/-!
# Comparisons with a column

A comparison of the user with a column is described by the known column that begins the name of the column, since
nothing is asked of what follows. No known column begins another one, so that the words are wrong for just the
columns whose names go on behind a known one.
-/

namespace DdlAtlas

namespace Text

theorem isAsciiWord_toLower {c : Char} (h : isAsciiWord c = true) : isAsciiWord c.toLower = true := by
  have hcodes : (List.range' 0 128).all (fun n => !isAsciiWord (Char.ofNat n) ||
      isAsciiWord (Char.ofNat n).toLower) = true := by
    decide
  have hcode := toNat_of_isAsciiWord h
  have hletter := all_of_codes (P := fun c => !isAsciiWord c || isAsciiWord c.toLower) hcodes
    (List.mem_range'_1.mpr (by omega) : c.toNat ∈ List.range' 0 128)
  simpa [h] using hletter

end Text

namespace Sql.IsIdentifier

theorem folded {t : Text} (h : IsIdentifier t) : IsIdentifier (Text.folded t) := by
  refine ⟨fun hnil => h.1 (List.map_eq_nil_iff.mp hnil), fun c hc => ?_⟩
  obtain ⟨d, hd, rfl⟩ := List.mem_map.mp hc
  exact Text.isAsciiWord_toLower (h.2 d hd)

theorem isSide {t : Text} (h : IsIdentifier t) : Prose.IsSide t where
  ne_nil := h.1
  ascii c hc := Nat.lt_of_le_of_lt (Text.toNat_of_isAsciiWord (h.2 c hc)).2 (by decide)
  unbroken c hc := Text.isBlank_of_isAsciiWord (h.folded.2 c hc)
  signless := h.folded.not_mem (by decide)

end Sql.IsIdentifier

namespace Prose

open Pattern

def usingColumns : List (Text × Text) :=
  [("user_id", "only their own data (where user_id matches their login)"), ("id", "only their own record"),
    ("sender_id", "only messages they sent"), ("recipient_id", "only messages they received")]

def withCheckColumns : List (Text × Text) :=
  [("user_id", "Must set user_id to own ID"), ("sender_id", "Must be the sender"),
    ("id", "Can only modify own record")]

inductive Idiom.Besides (column : Text) (i : Idiom) : Prop
  | one {other : Text} (hpattern : i.pattern = userIs other) (hother : IsSide other) (hapart : Text.Apart other column)
  | two {first second : Text} (hpattern : i.pattern = alternatives "auth.uid()" first second) (hfirst : IsSide first)
      (hsecond : IsSide second)

variable {catalogue : List Idiom} {i : Idiom} {k : Nat} {column x s : Text}

theorem Comparison.not_occursIn_alternatives {left first second : Text} (h : Comparison left x s)
    (hleft : IsSide left) (hx : IsSide x) (hfirst : IsSide first) (hsecond : IsSide second) :
    (alternatives left first second).occursIn s = false := by
  refine Bool.eq_false_iff.mpr fun hoccurs => ?_
  obtain ⟨u, v, hcut, hsign, -⟩ := exists_cut_of_occursIn_alternatives hleft hfirst hsecond hoccurs
  exact (h.behind_cut hleft hx hcut).1 hsign

theorem Idiom.Besides.not_occursIn (h : i.Besides column) (hs : Comparison "auth.uid()" x s) (hx : IsSide x)
    (hbegins : Text.folded column <+: Text.folded x) : i.pattern.occursIn s = false := by
  cases h with
  | one hpattern hother hapart =>
    refine Bool.eq_false_iff.mpr fun hoccurs => ?_
    rw [hpattern] at hoccurs
    have hother' := (hs.occursIn_iff isSide_user hx hother).mp hoccurs
    rcases List.prefix_or_prefix_of_prefix hother' hbegins with h | h
    · exact hapart.1 h
    · exact hapart.2 h
  | two hpattern hfirst hsecond =>
    rw [hpattern]
    exact hs.not_occursIn_alternatives isSide_user hx hfirst hsecond

theorem Comparison.trim_eq {left : Text} (h : Comparison left x s) (hleft : IsSide left) (hx : IsSide x) :
    Text.trim s = s := by
  have hnone : ∀ c ∈ ([] : Text), Text.isBlank c = true := by simp
  have htrim := Text.trim_surrounded hnone hnone (h.head?_not_blank hleft []) (h.getLast?_not_blank hx).2
  rwa [List.append_nil, List.nil_append] at htrim

/-- The catalogue has words for a column: it has an idiom of the column, and the idioms before are besides it. -/
structure Known (catalogue : List Idiom) (column words : Text) : Prop where
  isSide : IsSide column
  small : Text.folded column = column
  listed : ∃ (k : Nat) (i : Idiom), catalogue[k]? = some i ∧ i.pattern = userIs column ∧ i.fragment = some words ∧
    ∀ e ∈ catalogue.take k, e.Besides column

theorem Known.chosen_iff {words : Text} (h : Known catalogue column words)
    (hkeys : (catalogue.map (·.fragment)).Nodup) (hs : Comparison "auth.uid()" x s) (hx : IsSide x) :
    (idiom? catalogue s).map (·.fragment) = some (some words) ↔ column <+: Text.folded x := by
  obtain ⟨k, i, hi, hpattern, hfragment, hbesides⟩ := h.listed
  have hoccurs := hs.occursIn_iff isSide_user hx h.isSide
  rw [← hfragment, idiom?_map_iff _ hi hkeys, hs.trim_eq isSide_user hx, hpattern]
  rw [h.small] at hoccurs
  constructor
  · exact fun hchosen => hoccurs.mp hchosen.1
  · intro hbegins
    refine ⟨hoccurs.mpr hbegins, fun e he => (hbesides e he).not_occursIn hs hx ?_⟩
    rwa [h.small]

theorem known_usingColumns : ∀ known ∈ usingColumns, Known usingIdioms known.1 known.2 := by
  have huser : ∀ column, Text.Apart "user_id" column → usingIdioms[0].Besides column :=
    fun _ hapart => .one rfl (by decide) hapart
  have hid : ∀ column, Text.Apart "id" column → usingIdioms[1].Besides column :=
    fun _ hapart => .one rfl (by decide) hapart
  have hboth : ∀ column, usingIdioms[2].Besides column :=
    fun _ => .two rfl (by decide) (by decide)
  have hsender : usingIdioms[3].Besides "recipient_id" :=
    .one rfl (by decide) (by decide)
  refine List.forall_mem_cons.mpr ⟨?_, List.forall_mem_cons.mpr ⟨?_, List.forall_mem_cons.mpr ⟨?_,
    List.forall_mem_singleton.mpr ?_⟩⟩⟩
  · exact ⟨by decide, by decide, 0, usingIdioms[0], rfl, rfl, rfl, List.forall_mem_nil _⟩
  · exact ⟨by decide, by decide, 1, usingIdioms[1], rfl, rfl, rfl,
      List.forall_mem_singleton.mpr (huser "id" (by decide))⟩
  · exact ⟨by decide, by decide, 3, usingIdioms[3], rfl, rfl, rfl, List.forall_mem_cons.mpr
      ⟨huser "sender_id" (by decide), List.forall_mem_cons.mpr
        ⟨hid "sender_id" (by decide), List.forall_mem_singleton.mpr (hboth "sender_id")⟩⟩⟩
  · exact ⟨by decide, by decide, 4, usingIdioms[4], rfl, rfl, rfl, List.forall_mem_cons.mpr
      ⟨huser "recipient_id" (by decide), List.forall_mem_cons.mpr ⟨hid "recipient_id" (by decide),
        List.forall_mem_cons.mpr ⟨hboth "recipient_id", List.forall_mem_singleton.mpr hsender⟩⟩⟩⟩

theorem known_withCheckColumns : ∀ known ∈ withCheckColumns, Known withCheckIdioms known.1 known.2 := by
  have huser : ∀ column, Text.Apart "user_id" column → withCheckIdioms[0].Besides column :=
    fun _ hapart => .one rfl (by decide) hapart
  have hsender : withCheckIdioms[1].Besides "id" :=
    .one rfl (by decide) (by decide)
  refine List.forall_mem_cons.mpr ⟨?_, List.forall_mem_cons.mpr ⟨?_, List.forall_mem_singleton.mpr ?_⟩⟩
  · exact ⟨by decide, by decide, 0, withCheckIdioms[0], rfl, rfl, rfl, List.forall_mem_nil _⟩
  · exact ⟨by decide, by decide, 1, withCheckIdioms[1], rfl, rfl, rfl,
      List.forall_mem_singleton.mpr (huser "sender_id" (by decide))⟩
  · exact ⟨by decide, by decide, 2, withCheckIdioms[2], rfl, rfl, rfl, List.forall_mem_cons.mpr
      ⟨huser "id" (by decide), List.forall_mem_singleton.mpr hsender⟩⟩

theorem describeUsing_comparison (hs : Comparison "auth.uid()" x s) (hx : IsSide x) :
    ∀ known ∈ usingColumns, describeUsing s = known.2 ↔ known.1 <+: Text.folded x := by
  have hwords : ∀ known ∈ usingColumns, ¬"condition: ".toList <+: known.2 := by decide
  intro known hknown
  rw [describeUsing_eq_iff (hwords known hknown)]
  exact (known_usingColumns known hknown).chosen_iff nodup_fragments_usingIdioms hs hx

theorem describeWithCheck?_comparison (hs : Comparison "auth.uid()" x s) (hx : IsSide x) :
    ∀ known ∈ withCheckColumns, describeWithCheck? s = some known.2 ↔ known.1 <+: Text.folded x := by
  have hwords : ∀ known ∈ withCheckColumns, known.2 ≠ "Validation required" := by decide
  intro known hknown
  rw [describeWithCheck?_eq_iff (hwords known hknown)]
  exact (known_withCheckColumns known hknown).chosen_iff nodup_fragments_withCheckIdioms hs hx

theorem eq_of_occursIn_onlyLiteral {literal : Text} (h : (onlyLiteral literal).occursIn s = true) :
    s = literal ∨ s = "(" ++ (literal ++ ")") := by
  obtain ⟨k, -, hmatch⟩ := occursIn_iff.mp h
  obtain ⟨m, hm⟩ := Option.isSome_iff_exists.mp hmatch
  have hreads := (reads_of_matchAt? hm).2
  simp only [onlyLiteral, reads_sequence_cons] at hreads
  obtain ⟨c, ⟨rfl, hbefore⟩, e, hread, d, ⟨rfl, hrest⟩, -⟩ := hreads
  have hwhole : ∀ t, (Cursor.within s k).Passed t d → s = t := by
    intro t hpassed
    have hnone : s.take k = [] := List.reverse_eq_nil_iff.mp hbefore
    have hdrop : s.drop k = t ++ d.rest := hpassed.rest
    rw [← List.take_append_drop k s, hnone, hdrop, hrest, List.nil_append, List.append_nil]
  rcases hread with hbare | henclosed
  · exact .inl (hwhole _ (reads_exactly hbare))
  · simp only [reads_sequence_cons] at henclosed
    obtain ⟨f, hopen, g, hbetween, l, hclose, hd⟩ := henclosed
    obtain rfl : d = l := hd
    exact .inr (hwhole _ ((reads_exactly hopen).trans ((reads_exactly hbetween).trans (reads_exactly hclose))))

theorem describeWithCheck?_of_unknown (hs : Comparison "auth.uid()" x s) (hx : IsSide x)
    (hunknown : ∀ known ∈ withCheckColumns, ¬known.1 <+: Text.folded x) :
    describeWithCheck? s = some ("Validation required" : Text) := by
  have hmissed : ∀ column : Text, IsSide column → ¬Text.folded column <+: Text.folded x →
      (userIs column).occursIn s = false := by
    intro column hcolumn hother
    exact Bool.eq_false_iff.mpr fun hoccurs => hother ((hs.occursIn_iff isSide_user hx hcolumn).mp hoccurs)
  have htrue : (onlyLiteral "true").occursIn s = false := by
    refine Bool.eq_false_iff.mpr fun hoccurs => ?_
    have hsign : '=' ∈ s := by
      obtain ⟨-, -, -, -⟩ := hs
      simp
    rcases eq_of_occursIn_onlyLiteral hoccurs with rfl | rfl
    · exact absurd hsign (by decide)
    · exact absurd hsign (by decide)
  have hnone : idiom? withCheckIdioms s = none := by
    rw [idiom?, List.find?_eq_none, hs.trim_eq isSide_user hx]
    simp only [withCheckIdioms, List.forall_mem_cons, Bool.not_eq_true]
    refine ⟨hmissed "user_id" (by decide) ?_, hmissed "sender_id" (by decide) ?_, hmissed "id" (by decide) ?_,
      htrue, List.forall_mem_nil _⟩
    · exact hunknown withCheckColumns[0] (by decide)
    · exact hunknown withCheckColumns[1] (by decide)
    · exact hunknown withCheckColumns[2] (by decide)
  rw [describeWithCheck?, hnone]

/-- A predicate that compares the user with a column is described by the words for this column, if it is a known one,
and never by those for another. For a column that is not known, a WITH CHECK predicate is left to a general demand. -/
structure NamesColumn (predicate column : Text) : Prop where
  read : ∀ known ∈ usingColumns, describeUsing predicate = known.2 ↔ Text.folded column = known.1
  written : ∀ known ∈ withCheckColumns, describeWithCheck? predicate = some known.2 ↔ Text.folded column = known.1
  unnamed : (∀ known ∈ withCheckColumns, Text.folded column ≠ known.1) →
    describeWithCheck? predicate = some ("Validation required" : Text)

/-- A comparison with a column is described rightly just when no known column is the beginning of its name only. -/
theorem namesColumn_iff (hx : Sql.IsIdentifier x) (hs : Comparison "auth.uid()" x s) :
    NamesColumn s x ↔ ∀ known ∈ usingColumns, known.1 <+: Text.folded x → Text.folded x = known.1 := by
  have husing := describeUsing_comparison hs hx.isSide
  have hcheck := describeWithCheck?_comparison hs hx.isSide
  constructor
  · intro h known hknown hbegins
    exact (h.read known hknown).mp ((husing known hknown).mpr hbegins)
  · intro h
    have hsame : ∀ known ∈ usingColumns, known.1 <+: Text.folded x ↔ Text.folded x = known.1 :=
      fun known hknown => ⟨h known hknown, fun heq => heq ▸ List.prefix_rfl⟩
    have hsubset : ∀ known ∈ withCheckColumns, ∃ known' ∈ usingColumns, known'.1 = known.1 := by decide
    have hsame' : ∀ known ∈ withCheckColumns, known.1 <+: Text.folded x ↔ Text.folded x = known.1 := by
      intro known hknown
      obtain ⟨known', hknown', heq⟩ := hsubset known hknown
      exact heq ▸ hsame known' hknown'
    exact {
      read known hknown := (husing known hknown).trans (hsame known hknown)
      written known hknown := (hcheck known hknown).trans (hsame' known hknown)
      unnamed hother := describeWithCheck?_of_unknown hs hx.isSide
        fun known hknown hbegins => hother known hknown ((hsame' known hknown).mp hbegins) }

theorem namesColumn_recipientId :
    (Sql.IsIdentifier "Recipient_ID" ∧ Comparison "auth.uid()" "Recipient_ID" "auth.uid()\n =\t Recipient_ID") ∧
      NamesColumn "auth.uid()\n =\t Recipient_ID" "Recipient_ID" := by
  have hx : Sql.IsIdentifier "Recipient_ID" := by decide
  have hs : Comparison "auth.uid()" "Recipient_ID" "auth.uid()\n =\t Recipient_ID" :=
    @Comparison.mk _ _ "auth.uid()" "Recipient_ID" "\n " "\t " (by decide) (List.all_eq_true.mp (by decide))
      (List.all_eq_true.mp (by decide)) (by decide)
  exact ⟨⟨hx, hs⟩, (namesColumn_iff hx hs).mpr (by decide)⟩

theorem describeUsing_identity :
    describeUsing "auth.uid() = identity" = "only their own record" ∧
      describeWithCheck? "auth.uid() = user_identity" = some ("Must set user_id to own ID" : Text) := by
  decide +kernel

end Prose

end DdlAtlas
