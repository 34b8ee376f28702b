import DdlAtlas.Proofs.Name.Written
import DdlAtlas.Proofs.Nesting.Closed
import DdlAtlas.Proofs.Text.Mention
import DdlAtlas.Proofs.Text.Neat
import DdlAtlas.Sql.TableBody

/-!
# Lines between commas

Lines that are neat, hold no comment and no comma outside literals and parentheses come back when they are
joined by commas, whichever blank stands behind a comma.
-/

namespace DdlAtlas.Sql

namespace Nesting

def Passes : Nesting → Text → Nesting → Prop
  | s, [], s' => s = s'
  | s, c :: t, s' => s.cutsAt [','] c = false ∧ Passes (s.step c) t s'

theorem Passes.append {s s' s'' : Nesting} {t u : Text} (h : s.Passes t s') (h' : s'.Passes u s'') :
    s.Passes (t ++ u) s'' := by
  induction t generalizing s with
  | nil =>
    obtain rfl : s = s' := h
    exact h'
  | cons c t ih => exact ⟨h.1, ih h.2⟩

theorem Passes.pieces {s s' : Nesting} {t : Text} (h : s.Passes t s') (rest : Text) :
    pieces [','] s (t ++ rest) = (pieces [','] s' rest).modifyHead (t ++ ·) := by
  induction t generalizing s with
  | nil =>
    obtain rfl : s = s' := h
    cases hp : Nesting.pieces [','] s rest <;> simp [hp]
  | cons c t ih =>
    rw [List.cons_append, Nesting.pieces, h.1, ih h.2]
    cases hp : Nesting.pieces [','] s' rest <;> simp

theorem passes_of_plain {t : Text} (h : ∀ c ∈ t, isPlain c = true ∧ c ≠ ',') (depth : Int) :
    Passes ⟨none, depth⟩ t ⟨none, depth⟩ := by
  induction t with
  | nil => rfl
  | cons c t ih =>
    obtain ⟨hplain, hcomma⟩ := h c List.mem_cons_self
    have hcut : cutsAt ⟨none, depth⟩ [','] c = false := by simp [cutsAt, hcomma.symm]
    have hstep : step ⟨none, depth⟩ c = ⟨none, depth⟩ := by
      simp only [isPlain, Bool.and_eq_true, Bool.not_eq_true', bne_iff_ne, ne_eq] at hplain
      simp [step, hplain.1.1, hplain.1.2, hplain.2]
    refine ⟨hcut, ?_⟩
    rw [hstep]
    exact ih fun x hx => h x (List.mem_cons_of_mem c hx)

theorem passes_literal {q : Char} {t : Text} (h : q ∉ t) (depth : Int) :
    Passes ⟨some q, depth⟩ (t ++ [q]) ⟨none, depth⟩ := by
  induction t with
  | nil => exact ⟨rfl, by simp [Passes, step]⟩
  | cons c t ih =>
    have hc : c ≠ q := fun he => h (he ▸ List.mem_cons_self)
    refine ⟨rfl, ?_⟩
    simpa [step, hc] using ih fun hm => h (List.mem_cons_of_mem c hm)

theorem passes_quoted {q : Char} (hq : isQuote q = true) {t : Text} (h : q ∉ t) :
    outside.Passes (q :: (t ++ [q])) outside := by
  have hcut : outside.cutsAt [','] q = false := by simp [cutsAt, isPlain, hq]
  refine ⟨hcut, ?_⟩
  rw [outside, step_of_isQuote hq]
  exact passes_literal h 0

theorem passes_of_closes {s : Nesting} {t : Text} (h : s.Closes t) (hdepth : 0 ≤ s.depth) :
    Passes ⟨s.quote, s.depth + 1⟩ t ⟨none, 1⟩ := by
  induction t generalizing s with
  | nil =>
    obtain rfl : s = outside := h
    rfl
  | cons c t ih =>
    obtain ⟨hpos, hrest⟩ := h
    have hcut : cutsAt ⟨s.quote, s.depth + 1⟩ [','] c = false := by
      have : s.depth + 1 ≠ 0 := by omega
      simp [cutsAt, this]
    refine ⟨hcut, ?_⟩
    rw [step_deeper]
    exact ih hrest hpos

theorem passes_enclosed {t : Text} (h : Closed t) :
    outside.Passes ('(' :: (t ++ [')'])) outside := by
  have hinner : Passes ⟨none, 1⟩ t ⟨none, 1⟩ := passes_of_closes h (Int.le_refl 0)
  exact ⟨rfl, hinner.append ⟨rfl, rfl⟩⟩

def Bare : Nesting → Text → Prop
  | _, [] => True
  | s, c :: t => (s = outside → c ≠ ',' ∧ Text.isBlank c = false) ∧ Bare (s.step c) t

instance decidableBare : (s : Nesting) → (t : Text) → Decidable (s.Bare t)
  | _, [] => inferInstanceAs (Decidable True)
  | s, c :: t =>
    have := decidableBare (s.step c) t
    inferInstanceAs (Decidable (_ ∧ _))

theorem bare_literal {q : Char} {t : Text} (h : q ∉ t) : Bare ⟨some q, 0⟩ (t ++ [q]) := by
  have hinside : (⟨some q, 0⟩ : Nesting) ≠ outside := by simp [outside]
  induction t with
  | nil => exact ⟨fun hs => absurd hs hinside, trivial⟩
  | cons c t ih =>
    have hc : c ≠ q := fun he => h (he ▸ List.mem_cons_self)
    have hstep : step ⟨some q, 0⟩ c = ⟨some q, 0⟩ := by simp [step, hc]
    refine ⟨fun hs => absurd hs hinside, ?_⟩
    rw [hstep]
    exact ih fun hm => h (List.mem_cons_of_mem c hm)

theorem Bare.passes {s : Nesting} {t : Text} (h : s.Bare t) (hc : s.Closes t) :
    s.Passes t outside := by
  induction t generalizing s with
  | nil => exact hc
  | cons c t ih =>
    refine ⟨?_, ih h.2 hc.2⟩
    cases hcut : s.cutsAt [','] c with
    | false => rfl
    | true =>
      simp only [cutsAt, Bool.and_eq_true, beq_iff_eq, Option.isNone_iff_eq_none, List.cons.injEq,
        and_true] at hcut
      obtain ⟨⟨⟨hquote, hdepth⟩, -⟩, hcomma⟩ := hcut
      have hs : s = outside := by
        obtain ⟨quote, depth⟩ := s
        simp only at hquote hdepth
        rw [hquote, hdepth]
        rfl
      exact absurd hcomma.symm (h.1 hs).1

theorem step_of_isPlain {s : Nesting} (hs : ∀ q ∈ s.quote, isQuote q = true) {c : Char}
    (hc : isPlain c = true) : s.step c = s := by
  simp only [isPlain, Bool.and_eq_true, Bool.not_eq_true', bne_iff_ne, ne_eq] at hc
  obtain ⟨⟨hquote, hopen⟩, hclose⟩ := hc
  obtain ⟨quote, depth⟩ := s
  cases quote with
  | none => simp [step, hquote, hopen, hclose]
  | some q =>
    have hne : c ≠ q := by
      rintro rfl
      rw [hs c rfl] at hquote
      exact absurd hquote (by simp)
    simp [step, hne]

theorem isQuote_of_step {s : Nesting} (hs : ∀ q ∈ s.quote, isQuote q = true) (c : Char) :
    ∀ q ∈ (s.step c).quote, isQuote q = true := by
  obtain ⟨quote, depth⟩ := s
  intro q hq
  cases quote with
  | none =>
    by_cases hc : isQuote c = true
    · obtain rfl : c = q := by simpa [step, hc] using hq
      exact hc
    · have hnone : (step ⟨none, depth⟩ c).quote = none := by
        simp only [step, hc, Bool.false_eq_true, if_false]
        split
        · rfl
        · split <;> rfl
      rw [hnone] at hq
      exact absurd hq (by simp)
  | some p =>
    by_cases hc : c = p
    · simp [step, hc] at hq
    · obtain rfl : p = q := by simpa [step, hc] using hq
      exact hs p rfl

theorem Bare.not_blank_of_getLast? {s : Nesting} {t : Text} (h : s.Bare t) (hc : s.Closes t)
    (hs : ∀ q ∈ s.quote, isQuote q = true) : ∀ c ∈ t.getLast?, Text.isBlank c = false := by
  induction t generalizing s with
  | nil => simp
  | cons x t ih =>
    cases t with
    | nil =>
      intro c hlast
      obtain rfl : x = c := by simpa using hlast
      cases hb : Text.isBlank x with
      | false => rfl
      | true =>
        have hend : s.step x = outside := hc.2
        rw [step_of_isPlain hs (isPlain_of_isBlank hb)] at hend
        rw [(h.1 hend).2] at hb
        exact absurd hb (by simp)
    | cons y t =>
      rw [List.getLast?_cons_cons]
      exact ih h.2 hc.2 (isQuote_of_step hs x)

end Nesting

/-- A part of a line: neat, without comments, and without a comma to cut at. -/
structure Piece (t : Text) : Prop where
  neat : Text.Neat t
  unmarked : Unmarked t
  passes : Nesting.outside.Passes t .outside

theorem Piece.append_space {s t : Text} (hs : Piece s) (ht : Piece t) : Piece (s ++ ' ' :: t) where
  neat := hs.neat.append_space ht.neat
  unmarked := hs.unmarked.append_cons ht.unmarked (by decide)
  passes := hs.passes.append ⟨rfl, ht.passes⟩

theorem Piece.append {s t : Text} {x : Char} (hs : Piece s) (ht : Piece (x :: t))
    (hx : x ≠ '-' ∧ x ≠ '/' ∧ x ≠ '*') : Piece (s ++ x :: t) where
  neat := hs.neat.append ht.neat
  unmarked := hs.unmarked.append_cons ht.unmarked.of_cons hx
  passes := hs.passes.append ht.passes

theorem Piece.append_spaced {s : Text} {ts : List Text} (hs : Piece s) (hts : ∀ t ∈ ts, Piece t) :
    Piece (s ++ Text.spaced ts) := by
  induction ts generalizing s with
  | nil => simpa [Text.spaced] using hs
  | cons t ts ih =>
    have hst := hs.append_space (hts t List.mem_cons_self)
    simpa [Text.spaced] using ih hst fun u hu => hts u (List.mem_cons_of_mem t hu)

def isOrdinary (c : Char) : Bool :=
  !Text.isBlank c && Nesting.isPlain c && c != ',' && c != '-' && c != '/'

theorem isOrdinary_of_isWord {c : Char} (h : Text.isWord c = true) : isOrdinary c = true := by
  have hne : ∀ x, Text.isWord x = false → c ≠ x := by
    rintro x hx rfl
    rw [h] at hx
    cases hx
  simp [isOrdinary, Nesting.isPlain, isQuote, Text.not_blank_of_isWord h, hne '\'' (by decide), hne '"' (by decide),
    hne '(' (by decide), hne ')' (by decide), hne ',' (by decide), hne '-' (by decide), hne '/' (by decide)]

theorem isOrdinary_of_isAsciiWord {c : Char} (h : Text.isAsciiWord c = true) : isOrdinary c = true :=
  isOrdinary_of_isWord (Text.isWord_of_isAsciiWord h)

theorem piece_of_ordinary {t : Text} (hne : t ≠ []) (h : t.all isOrdinary = true) : Piece t := by
  have hall : ∀ c ∈ t, (((Text.isBlank c = false ∧ Nesting.isPlain c = true) ∧ c ≠ ',') ∧ c ≠ '-') ∧
      c ≠ '/' := by
    simpa [isOrdinary] using h
  have hhyphen : '-' ∉ t := fun hm => (hall _ hm).1.2 rfl
  have hslash : '/' ∉ t := fun hm => (hall _ hm).2 rfl
  exact {
    neat := Text.neat_of_unbroken hne fun c hc => (hall c hc).1.1.1.1
    unmarked := ⟨fun hw => hhyphen (hw.subset List.mem_cons_self),
      fun hw => hslash (hw.subset List.mem_cons_self)⟩
    passes := Nesting.passes_of_plain (fun c hc => ⟨(hall c hc).1.1.1.2, (hall c hc).1.1.2⟩) 0 }

theorem piece_of_identifier {t : Text} (h : IsIdentifier t) : Piece t :=
  piece_of_ordinary h.1 (List.all_eq_true.mpr fun c hc => isOrdinary_of_isAsciiWord (h.2 c hc))

theorem piece_enclosed {t : Text} (hclosed : Closed t) (hunmarked : Unmarked t) (htidy : Text.Tidy t) :
    Piece ('(' :: (t ++ [')'])) where
  neat := htidy.neat_between (by decide) (by decide)
  unmarked := (hunmarked.append_cons unmarked_nil (by decide)).cons (by decide)
  passes := Nesting.passes_enclosed hclosed

theorem plain_of_isQuote {q : Char} (hq : isQuote q = true) :
    Text.isBlank q = false ∧ q ≠ ',' ∧ q ≠ '-' ∧ q ≠ '/' ∧ q ≠ '*' := by
  simp only [isQuote, Bool.or_eq_true, beq_iff_eq] at hq
  rcases hq with rfl | rfl <;> decide

theorem piece_quoted {q : Char} (hq : isQuote q = true) {t : Text} (hquote : q ∉ t) (hunmarked : Unmarked t)
    (htidy : Text.Tidy t) : Piece (q :: (t ++ [q])) := by
  obtain ⟨hblank, -, hmarks⟩ := plain_of_isQuote hq
  exact {
    neat := htidy.neat_between hblank hblank
    unmarked := (hunmarked.append_cons unmarked_nil hmarks).cons hmarks
    passes := Nesting.passes_quoted hq hquote }

theorem list_of_pieces {t : Text} {ts : List Text} (h : ∀ u ∈ t :: ts, Piece u ∧ Closed u) :
    Closed (Text.join ", " (t :: ts)) ∧ Unmarked (Text.join ", " (t :: ts)) ∧
      Text.Neat (Text.join ", " (t :: ts)) := by
  induction ts generalizing t with
  | nil =>
    obtain ⟨hpiece, hclosed⟩ := h t List.mem_cons_self
    exact ⟨hclosed, hpiece.unmarked, hpiece.neat⟩
  | cons s ts ih =>
    obtain ⟨hpiece, hclosed⟩ := h t List.mem_cons_self
    obtain ⟨hlist, hunmarked, hneat⟩ := ih fun u hu => h u (List.mem_cons_of_mem t hu)
    have hshape : Text.join ", " (t :: s :: ts) = t ++ ',' :: ' ' :: Text.join ", " (s :: ts) := by
      rw [Text.join_cons_cons, List.append_assoc]
      rfl
    have hcomma : Text.Neat [','] := Text.neat_of_unbroken (by simp) (by decide)
    have hopen : Closed [',', ' '] := by decide
    rw [hshape]
    refine ⟨?_, hpiece.unmarked.append_cons (hunmarked.cons (by decide)) (by decide), ?_⟩
    · exact Nesting.Closes.append hclosed (Nesting.Closes.append hopen hlist)
    · simpa using (hpiece.neat.append hcomma).append_space hneat

theorem piece_list {t : Text} {ts : List Text} (h : ∀ u ∈ t :: ts, Piece u ∧ Closed u) :
    Piece ('(' :: (Text.join ", " (t :: ts) ++ [')'])) := by
  obtain ⟨hclosed, hunmarked, hneat⟩ := list_of_pieces h
  exact piece_enclosed hclosed hunmarked hneat.tidy

theorem closed_of_ordinary {t : Text} (h : t.all isOrdinary = true) : Closed t := by
  refine closed_of_plain fun c hc => ?_
  have := List.all_eq_true.mp h c hc
  simp only [isOrdinary, Bool.and_eq_true] at this
  exact this.1.1.1.2

theorem WrittenName.piece_closed {n : WrittenName} (h : IsIdentifier n.text) :
    Piece n.written ∧ Closed n.written := by
  have hordinary : n.text.all isOrdinary = true :=
    List.all_eq_true.mpr fun c hc => isOrdinary_of_isAsciiWord (h.2 c hc)
  have hpiece := piece_of_identifier h
  have hquote : '"' ∉ n.text := h.not_mem (by decide)
  unfold written
  split
  · exact ⟨piece_quoted (by decide) hquote hpiece.unmarked hpiece.neat.tidy, closed_quoted (by decide) hquote⟩
  · exact ⟨hpiece, closed_of_ordinary hordinary⟩

theorem Mention.piece_written {m : Mention} (h : m.Named) : Piece m.written where
  neat := Text.neat_of_unbroken (Mention.written_ne_nil h) (Mention.not_blank h)
  unmarked :=
    ⟨fun hw => Mention.not_mem_written h (c := '-') (by decide) (by decide) (by decide)
        (hw.subset List.mem_cons_self),
      fun hw => Mention.not_mem_written h (c := '/') (by decide) (by decide) (by decide)
        (hw.subset List.mem_cons_self)⟩
  passes := by
    have htable := (WrittenName.piece_closed h.2).1.passes
    unfold written
    split
    · exact htable
    · rename_i s hs
      exact (WrittenName.piece_closed (h.1 s hs)).1.passes.append ⟨rfl, htable⟩

theorem piece_of_bare {t : Text} (hne : t ≠ []) (hbare : Nesting.outside.Bare t) (hclosed : Closed t)
    (hunmarked : Unmarked t) (htidy : Text.Tidy t) : Piece t where
  neat := {
    tidy := htidy
    ne_nil := hne
    front := by
      obtain ⟨c, t, rfl⟩ := List.exists_cons_of_ne_nil hne
      intro x hx
      obtain rfl : c = x := by simpa using hx
      exact (hbare.1 rfl).2
    back := hbare.not_blank_of_getLast? hclosed (by simp [Nesting.outside]) }
  unmarked := hunmarked
  passes := hbare.passes hclosed

theorem Nesting.Passes.not_comma {s : Nesting} {t : Text} (h : s.Passes t .outside)
    (hs : ∀ q ∈ s.quote, isQuote q = true) : ∀ c ∈ t.getLast?, c ≠ ',' := by
  induction t generalizing s with
  | nil => simp
  | cons x t ih =>
    cases t with
    | nil =>
      intro c hlast
      obtain rfl : x = c := by simpa using hlast
      rintro rfl
      obtain ⟨hcut, hend⟩ := h
      have hend : s.step ',' = .outside := hend
      rw [step_of_isPlain hs (by decide)] at hend
      rw [hend] at hcut
      exact absurd hcut (by decide)
    | cons y t =>
      rw [List.getLast?_cons_cons]
      exact ih h.2 (isQuote_of_step hs x)

theorem Piece.not_comma {t : Text} (h : Piece t) : ∀ c ∈ t.getLast?, c ≠ ',' :=
  h.passes.not_comma (by simp [Nesting.outside])

def joined : List (Text × Char) → Text
  | [] => []
  | [(line, _)] => line
  | (line, blank) :: next :: more => line ++ ',' :: blank :: joined (next :: more)

theorem unmarked_joined {lines : List (Text × Char)}
    (h : ∀ l ∈ lines, Piece l.1 ∧ (l.2 = ' ' ∨ l.2 = '\n')) : Unmarked (joined lines) := by
  induction lines with
  | nil => exact unmarked_nil
  | cons l lines ih =>
    obtain ⟨hpiece, hblank⟩ := h l List.mem_cons_self
    cases lines with
    | nil => exact hpiece.unmarked
    | cons next more =>
      have hmore := ih fun m hm => h m (List.mem_cons_of_mem l hm)
      have hrest : Unmarked (l.2 :: joined (next :: more)) :=
        hmore.cons (by rcases hblank with hb | hb <;> rw [hb] <;> decide)
      exact hpiece.unmarked.append_cons hrest (by decide)

theorem collapse_modifyHead {blank : Char} (hb : Text.isBlank blank = true) (ts : List Text) :
    (ts.modifyHead (blank :: ·)).map Text.collapse = ts.map Text.collapse := by
  cases ts with
  | nil => rfl
  | cons t ts => simp [Text.collapse, Text.words_cons_blank hb]

theorem collapse_pieces_joined {l : Text × Char} {lines : List (Text × Char)}
    (h : ∀ m ∈ l :: lines, Piece m.1 ∧ (m.2 = ' ' ∨ m.2 = '\n')) :
    (Nesting.pieces [','] .outside (joined (l :: lines))).map Text.collapse =
      (l :: lines).map (·.1) := by
  induction lines generalizing l with
  | nil =>
    have hpiece := (h l List.mem_cons_self).1
    have := hpiece.passes.pieces []
    rw [List.append_nil] at this
    simp [joined, this, Nesting.pieces, Text.collapse_eq_self hpiece.neat]
  | cons next more ih =>
    obtain ⟨hpiece, hblank⟩ := h l List.mem_cons_self
    have hmore := ih fun m hm => h m (List.mem_cons_of_mem l hm)
    have hisBlank : Text.isBlank l.2 = true := by
      rcases hblank with hb | hb <;> rw [hb] <;> decide
    have hcut : Nesting.pieces [','] .outside (',' :: l.2 :: joined (next :: more)) =
        [] :: (Nesting.pieces [','] .outside (joined (next :: more))).modifyHead (l.2 :: ·) := by
      have hstep : Nesting.outside.cutsAt [','] l.2 = false ∧ Nesting.outside.step l.2 = .outside := by
        rcases hblank with hb | hb <;> rw [hb] <;> exact ⟨rfl, rfl⟩
      have hcomma : Nesting.outside.cutsAt [','] ',' = true := rfl
      rw [Nesting.pieces, if_pos hcomma, Nesting.pieces, hstep.1, hstep.2]
      rfl
    rw [joined, hpiece.passes.pieces, hcut, List.modifyHead_cons, List.append_nil, List.map_cons,
      collapse_modifyHead hisBlank, hmore, Text.collapse_eq_self hpiece.neat]
    rfl

theorem logicalLines_joined {lines : List (Text × Char)}
    (h : ∀ l ∈ lines, Piece l.1 ∧ (l.2 = ' ' ∨ l.2 = '\n')) :
    logicalLines (joined lines) = lines.map (·.1) := by
  have hne : ∀ t ∈ lines.map (·.1), t ≠ [] := by
    intro t ht
    obtain ⟨l, hl, rfl⟩ := List.mem_map.mp ht
    exact (h l hl).1.neat.ne_nil
  rw [logicalLines, (unmarked_joined h).withoutComments_eq]
  cases lines with
  | nil => rfl
  | cons l lines =>
    have hpieces := collapse_pieces_joined h
    have hlast : (Nesting.pieces [','] .outside (joined (l :: lines))).getLast? ≠ some [] := by
      intro hnil
      have hcollapse := congrArg List.getLast? hpieces
      rw [List.getLast?_map, hnil] at hcollapse
      exact hne _ (List.mem_of_mem_getLast? hcollapse.symm) rfl
    have hsplit : splitTopLevel "," (joined (l :: lines)) =
        Nesting.pieces [','] .outside (joined (l :: lines)) := if_neg hlast
    rw [hsplit, hpieces, List.filter_eq_self]
    intro t ht
    simpa using hne t ht

end DdlAtlas.Sql
