import DdlAtlas.Proofs.Body.Lines
import DdlAtlas.Proofs.Body.Spacing
import DdlAtlas.Proofs.Column.Literal

/-!
# Literals as default values

A literal comes through the removal of comments and the cuts at commas as it is, and the scan for a default
value takes all of it. But the blanks of a line are collapsed before its column is read, those in a literal
too, so that the value is the literal with single spaces. It is the one that was written just when the literal
had no others.
-/

namespace DdlAtlas.Sql

open Pattern

def literal (u : Text) : Text :=
  '\'' :: (u ++ ['\''])

def literalBody (n t u : Text) : Text :=
  .concat [n, " ", t, " DEFAULT '", u, "'"]

def IsTypeWord (t : Text) : Prop :=
  t ≠ [] ∧ t.all (fun x => Text.isWord x || x == '.') = true

instance (t : Text) : Decidable (IsTypeWord t) :=
  inferInstanceAs (Decidable (_ ∧ _))

theorem IsTypeWord.piece {t : Text} (h : IsTypeWord t) : Piece t := by
  refine piece_of_ordinary h.1 (List.all_eq_true.mpr fun x hx => ?_)
  have hx := List.all_eq_true.mp h.2 x hx
  simp only [Bool.or_eq_true, beq_iff_eq] at hx
  rcases hx with hword | rfl
  · exact isOrdinary_of_isWord hword
  · decide

/-! ### The line -/

theorem Unmarked.collapse {t : Text} (h : Unmarked t) : Unmarked (Text.collapse t) :=
  ⟨fun hw => h.1 (Text.pair_of_collapse (by decide) (by decide) hw),
    fun hw => h.2 (Text.pair_of_collapse (by decide) (by decide) hw)⟩

theorem unmarked_literal {u : Text} (h : Unmarked u) : Unmarked (literal u) :=
  (h.append_cons unmarked_nil (by decide)).cons (by decide)

theorem exists_literal_collapse {u : Text} (hu : '\'' ∉ u) (hmarks : Unmarked u) :
    ∃ w, Text.collapse (literal u) = literal w ∧ '\'' ∉ w ∧ Piece (literal w) := by
  have hquote : Text.isBlank '\'' = false := by decide
  obtain ⟨w, hcollapse, hfilter⟩ := Text.collapse_between hquote u
  have hw : Text.collapse (literal u) = literal w := hcollapse
  have hclean : '\'' ∉ w := by
    intro hmem
    have hkept : '\'' ∈ w.filter (!Text.isBlank ·) := List.mem_filter.mpr ⟨hmem, by decide⟩
    rw [hfilter] at hkept
    exact hu (List.mem_of_mem_filter hkept)
  refine ⟨w, hw, hclean, ?_⟩
  have hneat : Text.Neat (literal w) := hw ▸ Text.neat_collapse (Text.words_ne_nil hquote _)
  have hunmarked : Unmarked (literal w) := hw ▸ (unmarked_literal hmarks).collapse
  exact ⟨hneat, hunmarked, Nesting.passes_quoted (by decide) hclean⟩

theorem logicalLines_of_passes {body : Text} (hunmarked : Unmarked body)
    (hpasses : Nesting.outside.Passes body .outside) (hne : Text.words body ≠ []) :
    logicalLines body = [Text.collapse body] := by
  have hpieces := hpasses.pieces []
  rw [List.append_nil] at hpieces
  have hline : Text.collapse body ≠ [] := (Text.neat_collapse hne).ne_nil
  have hjoin : Text.join [' '] (Text.words body) ≠ [] := hline
  rw [logicalLines_eq, hunmarked.withoutComments_eq, hpieces]
  simp [Nesting.pieces, hjoin, Text.collapse]

def literalFront (n t : Text) : Text :=
  n ++ ' ' :: (t ++ ' ' :: "DEFAULT")

theorem literalBody_eq (n t u : Text) : literalBody n t u = literalFront n t ++ ' ' :: literal u := by
  simp [literalBody, literalFront, literal, Text.concat]

theorem piece_literalFront {n t : Text} (hn : IsIdentifier n) (ht : IsTypeWord t) : Piece (literalFront n t) :=
  (piece_of_identifier hn).append_space (ht.piece.append_space (piece_of_ordinary (by decide) (by decide)))

theorem logicalLines_literalBody {n t u : Text} (hn : IsIdentifier n) (ht : IsTypeWord t) (hu : '\'' ∉ u)
    (hmarks : Unmarked u) :
    logicalLines (literalBody n t u) = [literalFront n t ++ ' ' :: Text.collapse (literal u)] := by
  have hfront := piece_literalFront hn ht
  have hliteral : Text.words (literal u) ≠ [] := Text.words_ne_nil (by decide) _
  have hwords : Text.words (literalFront n t ++ ' ' :: literal u) ≠ [] := by
    rw [Text.words_append_blank (by decide)]
    simp [hliteral]
  have hunmarked : Unmarked (literalFront n t ++ ' ' :: literal u) :=
    hfront.unmarked.append_cons (unmarked_literal hmarks) (by decide)
  have hpasses : Nesting.outside.Passes (literalFront n t ++ ' ' :: literal u) .outside :=
    hfront.passes.append ⟨rfl, Nesting.passes_quoted (by decide) hu⟩
  rw [literalBody_eq, logicalLines_of_passes hunmarked hpasses hwords, hfront.neat.collapse_append_space hliteral]

/-! ### The column -/

theorem suffix_of_behind? {p : Pattern} {t r : Text} (h : p.behind? t = some r) : r <:+ t := by
  obtain ⟨m, hm, rfl⟩ := Option.map_eq_some_iff.mp h
  obtain ⟨before, rest, position, rfl, hmatch⟩ := matchAt?_of_search? hm
  obtain ⟨-, hreads⟩ := reads_of_matchAt? hmatch
  obtain ⟨s, hs⟩ := hreads.passed
  have hrest : rest = s ++ m.stop.rest := hs.rest
  rw [hrest]
  exact (List.suffix_append s _).trans (List.suffix_append _ _)

theorem infix_of_defaultValue? {t value : Text} (h : defaultValue? t = some value) : value <:+: t := by
  rw [defaultValue?_eq] at h
  obtain ⟨r, hr, hvalue⟩ := Option.bind_eq_some_iff.mp h
  unfold nonempty? at hvalue
  split at hvalue
  · cases hvalue
  · obtain rfl := Option.some.inj hvalue
    exact (valueExtent_isPrefix none 0 r).isInfix.trans (suffix_of_behind? hr).isInfix

theorem behind?_default_by {q : Text} (hlast : ∀ x ∈ q.getLast?, Text.isBlank x = false)
    (hmention : Text.mentions "DEFAULT" none q = false) (h : EndsInBy q) :
    defaultKeyword.behind? (q ++ ' ' :: "DEFAULT ") = none := by
  have hfront : defaultKeyword.front.admits ' ' = false := rfl
  have hq : defaultKeyword.Misses [] (q ++ [' ']) (['D'] ++ ("EFAULT" ++ [' '])) :=
    defaultKeyword_announces.misses_space (by decide) hfront hlast hmention
  have hkeyword : defaultKeyword.Misses ((q ++ [' ']).reverse ++ []) ['D'] ("EFAULT" ++ [' ']) := by
    intro u v huv hv position
    obtain ⟨rfl, rfl⟩ : u = [] ∧ v = ['D'] := by
      rcases List.append_eq_singleton_iff.mp huv.symm with hD | ⟨-, hnil⟩
      · exact hD
      · exact absurd hnil hv
    have hbefore : [].reverse ++ ((q ++ [' ']).reverse ++ []) = ' ' :: q.reverse := by simp
    have hby : BehindBy (' ' :: q.reverse).reverse := by
      rwa [List.reverse_cons, List.reverse_reverse, behindBy_append_blank (by decide)]
    rw [hbefore, matchAt?, run_eq_none_of_reads fun d hd => (standsAt_default_of_reads hd).2 hby, Option.map_none]
  have hend : ∀ x ∈ ("EFAULT" : Text).getLast?, Text.isBlank x = false := by
    intro x hx
    obtain rfl : 'T' = x := by simpa using hx
    decide
  have hbehind : Text.mentions "DEFAULT" (some 'D') "EFAULT" = false := by decide
  have hrest : defaultKeyword.Misses ((q ++ [' '] ++ ['D']).reverse ++ []) ("EFAULT" ++ [' ']) [] :=
    defaultKeyword_announces.misses_space (by decide) hfront hend (by simpa using hbehind)
  have hall : defaultKeyword.Misses [] (q ++ [' '] ++ ['D'] ++ ("EFAULT" ++ [' '])) [] := by
    refine Misses.append ?_ hrest
    rw [List.append_nil]
    exact hq.append hkeyword
  have hshape : q ++ ' ' :: "DEFAULT " = q ++ [' '] ++ ['D'] ++ ("EFAULT" ++ [' ']) := by simp
  rw [behind?, hshape, search?_none hall (defaultKeyword_announces.matchAt?_nil (by decide) _ _), Option.map_none]

theorem TableBody.read_of_column {body line name declared : Text} {c : Column}
    (hlines : logicalLines body = [line]) (hline : Line.read line = .column name declared)
    (hc : columnOf name declared = .ok c) (table : Text) :
    ∃ b d, read body table = .ok b ∧ b.columns = [d] ∧ d.name = c.name ∧ d.defaultValue = c.defaultValue := by
  have hread : read body table = .ok ((empty.addColumn c).flagKeys) := by
    simp [read, hlines, hline, add, hc, Except.map]
  have hcolumns : (empty.addColumn c).columns = [c] := columns_addColumn empty c
  refine ⟨_, if (empty.addColumn c).primaryKeys.contains c.name then { c with isPrimaryKey := true } else c, hread,
    ?_, ?_, ?_⟩
  · rw [flagKeys, hcolumns]
    rfl
  · split <;> rfl
  · split <;> rfl

theorem defaultValue?_literal {t w : Text} (ht : IsTypeWord t) (hdefault : Text.mentions "DEFAULT" none t = false)
    (hby : ¬EndsInBy t) (hw : '\'' ∉ w) :
    defaultValue? (t ++ ' ' :: ("DEFAULT" ++ ' ' :: literal w)) = some (literal w) := by
  have hbare : Nesting.outside.Bare (literal w) := ⟨fun _ => by decide, Nesting.bare_literal hw⟩
  have hne : literal w ≠ [] := List.cons_ne_nil _ _
  have hmisses : defaultKeyword.Misses [] t (' ' :: ("DEFAULT" ++ ' ' :: (literal w ++ []))) :=
    defaultKeyword_announces.misses_before_space (by decide) ht.piece.neat.back hdefault (by simp [eq_comm])
  have hvalue := defaultValue?_behind hmisses hby hne (closed_quoted (by decide) hw) hbare
    (fun x hx => nomatch hx : ∀ x ∈ ([] : Text).head?, x = ' ')
  rwa [List.append_nil] at hvalue

theorem defaultValue?_literal_ne {t w : Text} (ht : IsTypeWord t) (hdefault : Text.mentions "DEFAULT" none t = false)
    (hby : EndsInBy t) (hw : '\'' ∉ w) (u : Text) :
    defaultValue? (t ++ ' ' :: ("DEFAULT" ++ ' ' :: literal w)) ≠ some (literal u) := by
  intro hvalue
  have hshape : t ++ ' ' :: ("DEFAULT" ++ ' ' :: literal w) = (t ++ ' ' :: "DEFAULT ") ++ '\'' :: (w ++ ['\'']) := by
    simp [literal]
  have hrest : defaultValue? (w ++ ['\'']) = some (literal u) := by
    rw [defaultValue?_eq, hshape, behind?_append_cons (by decide), behind?_default_by ht.piece.neat.back hdefault hby,
      Option.map_none, Option.none_or] at hvalue
    rw [defaultValue?_eq, hvalue]
  have hcount := (infix_of_defaultValue? hrest).sublist.count_le '\''
  simp only [literal, List.count_cons_self, List.count_append, List.count_eq_zero.mpr hw, List.count_nil] at hcount
  omega

theorem collapse_literal_iff {u : Text} : Text.collapse (literal u) = literal u ↔ Text.Tidy u := by
  have hquote : Text.isBlank '\'' = false := by decide
  constructor
  · intro h
    have hneat : Text.Neat (literal u) := h ▸ Text.neat_collapse (Text.words_ne_nil hquote _)
    have hpart : u <:+: literal u := ⟨['\''], ['\''], rfl⟩
    exact ⟨fun c hc => hneat.tidy.1 c (hpart.subset hc), fun hw => hneat.tidy.2 (hw.trans hpart)⟩
  · exact fun h => Text.collapse_eq_self (h.neat_between hquote hquote)

/-- A body of one column with a literal for its default value is read as that column, and the value is the
literal with its blanks collapsed. It is the literal itself just when that has no blanks but single spaces.
Behind BY the keyword tells of no default value. -/
theorem TableBody.read_literalBody {n t u : Text} (hn : IsIdentifier n) (hreserved : Text.capitals n ∉ reservedWords)
    (ht : IsTypeWord t) (hdefault : Text.mentions "DEFAULT" none t = false) (hu : '\'' ∉ u) (hmarks : Unmarked u)
    (table : Text) :
    ∃ b c, read (literalBody n t u) table = .ok b ∧ b.columns = [c] ∧ c.name = n ∧
      (¬EndsInBy t → c.defaultValue = some (Text.collapse (literal u))) ∧
      (c.defaultValue = some (literal u) ↔ Text.Tidy u ∧ ¬EndsInBy t) := by
  obtain ⟨w, hcollapse, hw, hpiece⟩ := exists_literal_collapse hu hmarks
  have hkeyword : Piece "DEFAULT" := piece_of_ordinary (by decide) (by decide)
  have hdeclared := ht.piece.append_space (hkeyword.append_space hpiece)
  have hlines : logicalLines (literalBody n t u) = [n ++ ' ' :: (t ++ ' ' :: ("DEFAULT" ++ ' ' :: literal w))] := by
    rw [logicalLines_literalBody hn ht hu hmarks, hcollapse, literalFront]
    simp
  have hline := read_named (n := ⟨n, false⟩) ⟨hn, hreserved⟩ hdeclared
  obtain ⟨c, hc⟩ := columnOf_total n hdeclared.neat.words_ne_nil
  obtain ⟨b, d, hb, hcolumns, hname, hvalue⟩ := read_of_column hlines hline hc table
  obtain ⟨hcname, -, hcvalue, -⟩ := columnOf_eq_ok hc
  have hplain := fun hby => defaultValue?_literal ht hdefault hby hw
  refine ⟨b, d, hb, hcolumns, hname.trans hcname, ?_⟩
  rw [hvalue, hcvalue, ← collapse_literal_iff, hcollapse]
  refine ⟨hplain, ?_⟩
  by_cases hby : EndsInBy t
  · exact iff_of_false (defaultValue?_literal_ne ht hdefault hby hw u) fun h => h.2 hby
  · rw [hplain hby, Option.some.injEq, and_iff_left hby]

theorem TableBody.read_literalBody_note :
    (IsIdentifier "note" ∧ Text.capitals "note" ∉ reservedWords ∧ IsTypeWord "text" ∧
      Text.mentions "DEFAULT" none "text" = false ∧ '\'' ∉ ("a, (b" : Text) ∧ Unmarked "a, (b" ∧
      Text.Tidy "a, (b" ∧ ¬EndsInBy "text") ∧
    ∃ b c, read (literalBody "note" "text" "a, (b") "t" = .ok b ∧ b.columns = [c] ∧ c.name = "note".toList ∧
      c.defaultValue = some "'a, (b'" := by
  have hn : IsIdentifier "note" := by decide
  have hreserved : Text.capitals "note" ∉ reservedWords := by decide
  have ht : IsTypeWord "text" := by decide
  have hdefault : Text.mentions "DEFAULT" none "text" = false := by decide
  have hby : ¬EndsInBy "text" := not_endsInBy_of_not_mentions (by decide)
  have hu : '\'' ∉ ("a, (b" : Text) := by decide
  have hmarks : Unmarked "a, (b" := by decide
  have htidy : Text.Tidy "a, (b" := by decide
  obtain ⟨b, c, hb, hcolumns, hname, -, hwhole⟩ := read_literalBody hn hreserved ht hdefault hu hmarks "t"
  exact ⟨⟨hn, hreserved, ht, hdefault, hu, hmarks, htidy, hby⟩, b, c, hb, hcolumns, hname,
    hwhole.mpr ⟨htidy, hby⟩⟩

theorem TableBody.read_doubleSpace :
    read (literalBody "a" "text" "x  y") "t" =
        .ok ⟨[⟨"a", "text", true, some "'x y'", false, false, none⟩], [], []⟩ ∧
      literal "x  y" ≠ "'x y'" := by
  have hunmarked : Unmarked (literalBody "a" "text" "x  y") := by decide +kernel
  have hlines : logicalLines (literalBody "a" "text" "x  y") = ["a text DEFAULT 'x y'".toList] := by
    rw [logicalLines, hunmarked.withoutComments_eq]
    decide +kernel
  refine ⟨?_, by decide +kernel⟩
  rw [read, hlines]
  decide +kernel

end DdlAtlas.Sql
