import DdlAtlas.Sql.Basic

/-!
# Closed block comments

The first pass of comment removal along a text: it copies a character, or it writes a space and goes on
behind the block comment. A comment that is never closed stays with all that follows. A line break
separates the text before it from the text behind it unless a comment that opens before it is closed
behind it.
-/

namespace DdlAtlas.Sql

def opensBlock (c : Char) (rest : Text) : Bool :=
  c = '/' && rest.head? = some '*' && (behindBlock? rest.tail).isSome

theorem withoutBlocks_cons_of_not {c : Char} {rest : Text} (h : ¬(c = '/' ∧ rest.head? = some '*')) :
    withoutBlocks (c :: rest) = c :: withoutBlocks rest := by
  rw [withoutBlocks, if_neg h]

theorem withoutBlocks_closed {rest after : Text} (h : behindBlock? rest = some after) :
    withoutBlocks ('/' :: '*' :: rest) = ' ' :: withoutBlocks after := by
  rw [withoutBlocks]
  simp only [List.head?_cons, and_self, if_true, List.tail_cons]
  split
  · rename_i found hf
    rw [h, Option.some.injEq] at hf
    rw [hf]
  · rename_i hf
    rw [h] at hf
    cases hf

theorem withoutBlocks_open {rest : Text} (h : behindBlock? rest = none) :
    withoutBlocks ('/' :: '*' :: rest) = '/' :: '*' :: rest := by
  rw [withoutBlocks]
  simp only [List.head?_cons, and_self, if_true, List.tail_cons]
  split
  · rename_i found hf
    rw [h] at hf
    cases hf
  · rfl

theorem behindBlock?_cons_eq_none {c : Char} {rest : Text} (h : behindBlock? (c :: rest) = none) :
    behindBlock? rest = none := by
  rw [behindBlock?] at h
  split at h
  · cases h
  · exact h

theorem withoutBlocks_of_unclosed {t : Text} (h : behindBlock? t = none) : withoutBlocks t = t := by
  induction t with
  | nil => rw [withoutBlocks]
  | cons c rest ih =>
    have hrest := behindBlock?_cons_eq_none h
    by_cases ho : c = '/' ∧ rest.head? = some '*'
    · obtain ⟨rfl, hd⟩ := ho
      obtain ⟨more, rfl⟩ := List.head?_eq_some_iff.mp hd
      exact withoutBlocks_open (behindBlock?_cons_eq_none hrest)
    · rw [withoutBlocks_cons_of_not ho, ih hrest]

theorem withoutBlocks_cons {c : Char} {rest : Text} (h : opensBlock c rest = false) :
    withoutBlocks (c :: rest) = c :: withoutBlocks rest := by
  by_cases ho : c = '/' ∧ rest.head? = some '*'
  · obtain ⟨rfl, hd⟩ := ho
    obtain ⟨more, rfl⟩ := List.head?_eq_some_iff.mp hd
    have hnone : behindBlock? more = none := by simpa [opensBlock] using h
    rw [withoutBlocks_open hnone, withoutBlocks_cons_of_not (by simp),
      withoutBlocks_of_unclosed hnone]
  · exact withoutBlocks_cons_of_not ho

theorem exists_of_opensBlock {c : Char} {rest : Text} (h : opensBlock c rest = true) :
    ∃ more after, c = '/' ∧ rest = '*' :: more ∧ behindBlock? more = some after := by
  simp only [opensBlock, Bool.and_eq_true, decide_eq_true_eq] at h
  obtain ⟨⟨rfl, hd⟩, hs⟩ := h
  obtain ⟨more, rfl⟩ := List.head?_eq_some_iff.mp hd
  obtain ⟨after, hafter⟩ := Option.isSome_iff_exists.mp hs
  exact ⟨more, after, rfl, rfl, hafter⟩

theorem head?_withoutBlocks {x : Char} (hblank : x ≠ ' ') (hslash : x ≠ '/') (t : Text) :
    (withoutBlocks t).head? = some x ↔ t.head? = some x := by
  cases t with
  | nil => simp [withoutBlocks]
  | cons c rest =>
    by_cases h : opensBlock c rest = true
    · obtain ⟨more, after, rfl, rfl, hafter⟩ := exists_of_opensBlock h
      rw [withoutBlocks_closed hafter]
      simp [hblank.symm, hslash.symm]
    · rw [withoutBlocks_cons (by simpa using h)]
      simp

theorem behindBlock?_append_some {t after : Text} (h : behindBlock? t = some after) (s : Text) :
    behindBlock? (t ++ s) = some (after ++ s) := by
  induction t with
  | nil => simp [behindBlock?] at h
  | cons c rest ih =>
    rw [behindBlock?] at h
    rw [List.cons_append, behindBlock?]
    split at h
    · rename_i hc
      obtain ⟨rfl, hd⟩ := hc
      cases rest with
      | nil => simp at hd
      | cons d more => simp_all
    · rename_i hc
      cases rest with
      | nil => simp [behindBlock?] at h
      | cons d more => rw [if_neg (by simpa using hc), ih h]

theorem behindBlock?_append_none {t s : Text} (h : behindBlock? t = none)
    (hs : s.head? ≠ some '/') : behindBlock? (t ++ s) = behindBlock? s := by
  induction t with
  | nil => rfl
  | cons c rest ih =>
    have hrest := behindBlock?_cons_eq_none h
    rw [behindBlock?] at h
    rw [List.cons_append, behindBlock?]
    split at h
    · cases h
    · rename_i hc
      rw [if_neg, ih hrest]
      rintro ⟨rfl, hd⟩
      cases rest with
      | nil => exact hs hd
      | cons d more => exact hc ⟨rfl, by simpa using hd⟩

theorem suffix_of_behindBlock? {t after : Text} (h : behindBlock? t = some after) : after <:+ t := by
  induction t with
  | nil => simp [behindBlock?] at h
  | cons c rest ih =>
    rw [behindBlock?] at h
    split at h
    · simp only [Option.some.injEq] at h
      subst h
      exact (List.tail_suffix rest).trans (List.suffix_cons c rest)
    · exact (ih h).trans (List.suffix_cons c rest)

def leavesOpen (t : Text) : Bool :=
  Text.hasPart "/*" (withoutBlocks t)

theorem leavesOpen_closed {rest after : Text} (h : behindBlock? rest = some after) :
    leavesOpen ('/' :: '*' :: rest) = leavesOpen after := by
  simp [leavesOpen, withoutBlocks_closed h, Text.hasPart, Text.startsWith, Text.behind?]

theorem leavesOpen_open {rest : Text} (h : behindBlock? rest = none) :
    leavesOpen ('/' :: '*' :: rest) = true := by
  simp [leavesOpen, withoutBlocks_open h, Text.hasPart, Text.startsWith, Text.behind?]

theorem leavesOpen_of_rest {c : Char} {rest : Text} (h : ¬(c = '/' ∧ rest.head? = some '*'))
    (hrest : leavesOpen rest = true) : leavesOpen (c :: rest) = true := by
  unfold leavesOpen at *
  rw [withoutBlocks_cons_of_not h, Text.hasPart, hrest, Bool.or_true]

theorem withoutBlocks_append {line tail : Text} (hbreak : ∀ c ∈ tail.head?, c = '\n')
    (h : leavesOpen line = true → behindBlock? tail = none) :
    withoutBlocks (line ++ tail) = withoutBlocks line ++ withoutBlocks tail := by
  have hslash : tail.head? ≠ some '/' := fun hd => by simpa using hbreak _ hd
  have hstar : tail.head? ≠ some '*' := fun hd => by simpa using hbreak _ hd
  induction hn : line.length using Nat.strongRecOn generalizing line with
  | ind n ih =>
    cases line with
    | nil => simp [withoutBlocks]
    | cons c rest =>
      by_cases ho : c = '/' ∧ rest.head? = some '*'
      · obtain ⟨rfl, hd⟩ := ho
        obtain ⟨more, rfl⟩ := List.head?_eq_some_iff.mp hd
        cases hb : behindBlock? more with
        | some after =>
          have hlen := length_le_of_behindBlock? hb
          have happ := ih after.length (by simp at hn; omega)
            (fun hl => h (by rwa [leavesOpen_closed hb])) rfl
          simp only [List.cons_append]
          rw [withoutBlocks_closed (behindBlock?_append_some hb tail), withoutBlocks_closed hb,
            happ, List.cons_append]
        | none =>
          have htail := h (leavesOpen_open hb)
          have hall : behindBlock? (more ++ tail) = none := by
            rw [behindBlock?_append_none hb hslash, htail]
          simp only [List.cons_append]
          rw [withoutBlocks_open hall, withoutBlocks_open hb, withoutBlocks_of_unclosed htail]
          rfl
      · have ho' : ¬(c = '/' ∧ (rest ++ tail).head? = some '*') := by
          rintro ⟨hc, hd⟩
          cases rest with
          | nil => exact hstar hd
          | cons d more => exact ho ⟨hc, hd⟩
        rw [List.cons_append, withoutBlocks_cons_of_not ho', withoutBlocks_cons_of_not ho,
          ih rest.length (by simp at hn; omega) (fun hl => h (leavesOpen_of_rest ho hl)) rfl,
          List.cons_append]

/-- Along a text, the first pass of comment removal either goes behind a closed block comment or copies a
character. -/
theorem withoutBlocks_induction {P : Text → Prop} (nil : P [])
    (closed : ∀ more after, behindBlock? more = some after → P after → P ('/' :: '*' :: more))
    (cons : ∀ c rest, opensBlock c rest = false → P rest → P (c :: rest)) (t : Text) : P t := by
  induction hn : t.length using Nat.strongRecOn generalizing t with
  | ind n ih =>
    cases t with
    | nil => exact nil
    | cons c rest =>
      by_cases ho : opensBlock c rest = true
      · obtain ⟨more, after, rfl, rfl, hafter⟩ := exists_of_opensBlock ho
        have hlen := length_le_of_behindBlock? hafter
        apply closed more after hafter
        exact ih after.length (by simp at hn; omega) after rfl
      · apply cons c rest (by simpa using ho)
        exact ih rest.length (by simp at hn; omega) rest rfl

theorem mem_of_mem_withoutBlocks {x : Char} (hblank : x ≠ ' ') {t : Text}
    (h : x ∈ withoutBlocks t) : x ∈ t := by
  induction t using withoutBlocks_induction with
  | nil => simp [withoutBlocks] at h
  | closed more after hafter ih =>
    rw [withoutBlocks_closed hafter, List.mem_cons] at h
    have hmem := (suffix_of_behindBlock? hafter).subset (ih (h.resolve_left hblank))
    exact List.mem_cons_of_mem _ (List.mem_cons_of_mem _ hmem)
  | cons c rest hopen ih =>
    rw [withoutBlocks_cons hopen, List.mem_cons] at h
    rcases h with rfl | h
    · exact List.mem_cons_self
    · exact List.mem_cons_of_mem _ (ih h)

end DdlAtlas.Sql
