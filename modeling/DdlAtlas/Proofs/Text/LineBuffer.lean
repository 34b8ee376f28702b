import DdlAtlas.Text.Lines

/-!
# Lines of a text that arrives in pieces

The first end of a line in a text cuts it into a line and the lines of the rest. A buffer cuts what has
arrived in the same way: what it holds back is an unfinished line and a carriage return that may be half of
an end, and the lines of everything that has arrived are the finished ones and those of what it holds with
what follows. So the lines do not depend on the pieces.
-/

namespace DdlAtlas

namespace Text

def OneLine (t : Text) : Prop :=
  ∀ c ∈ t, isLineEnd c = false

instance (t : Text) : Decidable (OneLine t) :=
  decidable_of_iff (t.all (!isLineEnd ·) = true) (by simp [OneLine])

def EndsLine (e rest : Text) : Prop :=
  e = ['\r', '\n'] ∨ ∃ c, e = [c] ∧ isLineEnd c = true ∧ (c = '\r' → rest.head? ≠ some '\n')

theorem lines_cons_of_not_end {c : Char} {rest : Text} (h : isLineEnd c = false) :
    lines (c :: rest) = match lines rest with
      | [] => [[c]]
      | line :: more => (c :: line) :: more := by
  have hc : c ≠ '\r' := by
    rintro rfl
    exact absurd h (by decide)
  have hpair : ¬(c = '\r' ∧ rest.head? = some '\n') := fun hr => hc hr.1
  have hend : ¬isLineEnd c = true := by simp [h]
  cases hrest : lines rest <;> simp only [lines, if_neg hpair, if_neg hend, hrest]

theorem lines_of_oneLine {w : Text} (h : OneLine w) : lines w = if w = [] then [] else [w] := by
  induction w with
  | nil => rfl
  | cons c w ih =>
    obtain ⟨hc, hw⟩ := List.forall_mem_cons.mp h
    rw [lines_cons_of_not_end hc, ih hw]
    by_cases hnil : w = [] <;> simp [hnil]

theorem lines_endsLine {e rest : Text} (h : EndsLine e rest) : lines (e ++ rest) = [] :: lines rest := by
  have hend : ∀ c more, isLineEnd c = true → ¬(c = '\r' ∧ more.head? = some '\n') →
      lines (c :: more) = [] :: lines more := by
    intro c more hc hpair
    rw [lines, if_neg hpair, if_pos hc]
  rcases h with rfl | ⟨c, rfl, hc, hpair⟩
  · rw [List.cons_append, List.cons_append, List.nil_append, lines, if_pos ⟨rfl, rfl⟩]
    exact hend '\n' rest (by decide) (fun hr => absurd hr.1 (by decide))
  · exact hend c rest hc (fun hr => hpair hr.1 hr.2)

theorem lines_line {w e rest : Text} (hw : OneLine w) (he : EndsLine e rest) :
    lines (w ++ e ++ rest) = w :: lines rest := by
  induction w with
  | nil => rw [List.nil_append, lines_endsLine he]
  | cons c w ih =>
    obtain ⟨hc, hw⟩ := List.forall_mem_cons.mp hw
    rw [List.cons_append, List.cons_append, lines_cons_of_not_end hc, ih hw]

theorem oneLine_or_cut (t : Text) :
    OneLine t ∨ ∃ w e rest, t = w ++ e ++ rest ∧ OneLine w ∧ EndsLine e rest := by
  induction t with
  | nil => exact .inl (by simp [OneLine])
  | cons c t ih =>
    cases hc : isLineEnd c with
    | false =>
      rcases ih with ht | ⟨w, e, rest, rfl, hw, he⟩
      · exact .inl (List.forall_mem_cons.mpr ⟨hc, ht⟩)
      · exact .inr ⟨c :: w, e, rest, by simp, List.forall_mem_cons.mpr ⟨hc, hw⟩, he⟩
    | true =>
      right
      by_cases hpair : c = '\r' ∧ t.head? = some '\n'
      · obtain ⟨rfl, hd⟩ := hpair
        obtain ⟨rest, rfl⟩ := List.head?_eq_some_iff.mp hd
        exact ⟨[], _, rest, rfl, by simp [OneLine], .inl rfl⟩
      · exact ⟨[], [c], t, rfl, by simp [OneLine], .inr ⟨c, rfl, hc, fun h hd => hpair ⟨h, hd⟩⟩⟩

theorem EndsLine.ne_nil {e rest : Text} (h : EndsLine e rest) : e ≠ [] := by
  rcases h with rfl | ⟨c, rfl, -⟩ <;> exact List.cons_ne_nil _ _

theorem EndsLine.getLast? {e rest : Text} (h : EndsLine e rest) : ∃ c, e.getLast? = some c ∧
    isLineEnd c = true := by
  rcases h with rfl | ⟨c, rfl, hc, -⟩
  · exact ⟨'\n', rfl, by decide⟩
  · exact ⟨c, rfl, hc⟩

theorem EndsLine.congr {e rest rest' : Text} (h : EndsLine e rest)
    (hrest : e.getLast? = some '\r' → rest'.head? ≠ some '\n') : EndsLine e rest' := by
  rcases h with rfl | ⟨c, rfl, hc, -⟩
  · exact .inl rfl
  · exact .inr ⟨c, rfl, hc, fun hcr => hrest (by rw [hcr]; rfl)⟩

theorem lines_ne_nil {t : Text} (h : t ≠ []) : lines t ≠ [] := by
  rcases oneLine_or_cut t with hw | ⟨w, e, rest, rfl, hw, he⟩
  · rw [lines_of_oneLine hw, if_neg h]
    exact List.cons_ne_nil _ _
  · rw [lines_line hw he]
    exact List.cons_ne_nil _ _

end Text

namespace LineBuffer

open Text

theorem cut_of_oneLine {w : Text} (h : OneLine w) : cut w = ([], w) := by
  have hlast : w.getLast?.any isLineEnd = false := by
    cases hl : w.getLast? with
    | none => rfl
    | some c => exact h c (List.mem_of_getLast? hl)
  rw [cut, hlast, if_neg (by decide), lines_of_oneLine h]
  by_cases hnil : w = [] <;> simp [hnil]

theorem cut_line {w e rest : Text} (hw : OneLine w) (he : EndsLine e rest) :
    cut (w ++ e ++ rest) = (w :: (cut rest).1, (cut rest).2) := by
  obtain ⟨c, hlast, hc⟩ := he.getLast?
  by_cases hrest : rest = []
  · subst hrest
    rw [cut, lines_line hw he, if_pos (by simp [List.getLast?_append, hlast, hc])]
    rfl
  · have hsame : (w ++ e ++ rest).getLast? = rest.getLast? := by
      rw [List.getLast?_append, List.getLast?_eq_some_getLast hrest, Option.some_or]
    obtain ⟨line, more, hmore⟩ := List.exists_cons_of_ne_nil (lines_ne_nil hrest)
    rw [cut, cut, hsame, lines_line hw he, hmore]
    split <;> rfl

/-- Cutting a text off at its last end of a line does not change the lines of what follows, unless the cut
parts the two halves of one end. -/
theorem lines_append {x y : Text} (h : x.getLast? = some '\r' → y.head? ≠ some '\n') :
    lines (x ++ y) = (cut x).1 ++ lines ((cut x).2 ++ y) ∧ OneLine (cut x).2 := by
  induction hn : x.length using Nat.strongRecOn generalizing x with
  | ind n ih =>
    rcases oneLine_or_cut x with hx | ⟨w, e, rest, rfl, hw, he⟩
    · rw [cut_of_oneLine hx]
      exact ⟨rfl, hx⟩
    · have hcut : EndsLine e (rest ++ y) := by
        apply he.congr
        intro hlast
        by_cases hrest : rest = []
        · subst hrest
          exact h (by simp [List.getLast?_append, hlast])
        · obtain ⟨d, tail, rfl⟩ := List.exists_cons_of_ne_nil hrest
          rcases he with rfl | ⟨c, rfl, -, hpair⟩
          · exact absurd hlast (by decide)
          · obtain rfl : c = '\r' := by simpa using hlast
            exact hpair rfl
      have hshort : rest.length < n := by
        have hpos := List.length_pos_iff.mpr he.ne_nil
        simp only [List.length_append] at hn
        omega
      have hrest : rest.getLast? = some '\r' → y.head? ≠ some '\n' := by
        intro hlast
        exact h (by rw [List.getLast?_append, hlast, Option.some_or])
      obtain ⟨hlines, hheld⟩ := ih rest.length hshort hrest rfl
      rw [cut_line hw he, List.append_assoc (w ++ e), lines_line hw hcut, hlines]
      exact ⟨rfl, hheld⟩

def heldText (held : Bool) : Text :=
  if held then ['\r'] else []

def text (b : LineBuffer) : Text :=
  b.unfinished ++ heldText b.heldReturn

theorem push_lines {b : LineBuffer} (h : OneLine b.unfinished) (piece more : Text) :
    lines (b.text ++ piece ++ more) = (b.push piece).1 ++ lines ((b.push piece).2.text ++ more) ∧
      OneLine (b.push piece).2.unfinished := by
  have harrived : heldText b.heldReturn ++ piece = if b.heldReturn then '\r' :: piece else piece := by
    cases b.heldReturn <;> rfl
  generalize hall : (if b.heldReturn then '\r' :: piece else piece) = arrived at harrived
  generalize hheld : (arrived.getLast? == some '\r') = held
  generalize hsure : (if held then arrived.dropLast else arrived) = sure
  have hparts : arrived = sure ++ heldText held := by
    cases held with
    | false => simpa [heldText] using hsure
    | true =>
      have hlast : arrived.getLast? = some '\r' := by simpa using hheld
      obtain ⟨front, rfl⟩ := List.getLast?_eq_some_iff.mp hlast
      simpa [heldText] using hsure
  have hsafe : (b.unfinished ++ sure).getLast? = some '\r' → (heldText held ++ more).head? ≠ some '\n' := by
    intro hlast
    cases held with
    | true => simp [heldText]
    | false =>
      have hsame : sure = arrived := by simpa [heldText] using hparts.symm
      rw [hsame, List.getLast?_append] at hlast
      cases hlast' : arrived.getLast? with
      | none =>
        rw [hlast', Option.none_or] at hlast
        exact absurd (h _ (List.mem_of_getLast? hlast)) (by decide)
      | some c =>
        rw [hlast', Option.some_or] at hlast
        simp [hlast', hlast] at hheld
  have hpush : b.push piece = ((cut (b.unfinished ++ sure)).1, ⟨(cut (b.unfinished ++ sure)).2, held⟩) := by
    simp only [push, hall, hheld, hsure]
  obtain ⟨hlines, hone⟩ := lines_append hsafe
  have htext : b.text ++ piece ++ more = b.unfinished ++ sure ++ (heldText held ++ more) := by
    rw [text, List.append_assoc b.unfinished, harrived, hparts]
    simp only [List.append_assoc]
  rw [hpush, htext, hlines, text, List.append_assoc]
  exact ⟨rfl, hone⟩

theorem finish_eq {b : LineBuffer} (h : OneLine b.unfinished) : b.finish = lines b.text := by
  cases hheld : b.heldReturn with
  | false =>
    rw [text, hheld, heldText, if_neg (by decide), List.append_nil, lines_of_oneLine h]
    by_cases hnil : b.unfinished = [] <;> simp [finish, hheld, hnil]
  | true =>
    have hline : lines (b.unfinished ++ ['\r'] ++ []) = b.unfinished :: lines [] :=
      lines_line h (.inr ⟨'\r', rfl, by decide, by simp⟩)
    rw [List.append_nil] at hline
    simp [finish, text, heldText, hheld, hline, lines]

theorem linesFrom_eq {b : LineBuffer} (h : OneLine b.unfinished) (pieces : List Text) :
    linesFrom b pieces = lines (b.text ++ Text.concat pieces) := by
  induction pieces generalizing b with
  | nil => rw [linesFrom, finish_eq h, Text.concat, List.flatten_nil, List.append_nil]
  | cons piece pieces ih =>
    obtain ⟨hlines, hone⟩ := push_lines h piece (Text.concat pieces)
    have hall : Text.concat (piece :: pieces) = piece ++ Text.concat pieces := List.flatten_cons
    rw [hall, ← List.append_assoc, hlines, ← ih hone, linesFrom]

theorem linesOfPieces_eq (pieces : List Text) : linesOfPieces pieces = lines (Text.concat pieces) :=
  linesFrom_eq (b := .empty) (by simp [OneLine, empty]) pieces

end LineBuffer

end DdlAtlas
