import DdlAtlas.Proofs.Comment.Idempotence

/-!
# A single reading of a text with comments

A single reading from left to right knows at each character whether it stands in code, in a literal or in
a comment. Line breaks tell it apart from the first pass of comment removal: the reading loses one only
within a block comment, and where no two block marks share a character every block comment that it meets
ends where the first pass would end one.
-/

namespace DdlAtlas.Sql

inductive Place
  | code
  | literal (quote : Char)
  | lineComment
  | blockComment
deriving DecidableEq, Repr

/-- The text without its comments as a single reading gives it, if every block comment in it is
closed. Literals stay as they are, a line comment goes up to the end of its line, and a block comment
leaves a space. -/
def lexed : Place → Text → Option Text
  | .code, '-' :: '-' :: rest => lexed .lineComment rest
  | .code, '/' :: '*' :: rest => lexed .blockComment rest
  | .code, c :: rest => (lexed (if isQuote c then .literal c else .code) rest).map (c :: ·)
  | .literal q, c :: rest => (lexed (if c = q then .code else .literal q) rest).map (c :: ·)
  | .lineComment, c :: rest =>
    if c = '\n' then (lexed .code rest).map (c :: ·) else lexed .lineComment rest
  | .blockComment, '*' :: '/' :: rest => (lexed .code rest).map (' ' :: ·)
  | .blockComment, _ :: rest => lexed .blockComment rest
  | .blockComment, [] => none
  | _, [] => some []

theorem lexed_lineComment_head? {t r : Text} (h : lexed .lineComment t = some r) :
    r.head? ≠ some '-' := by
  induction t generalizing r with
  | nil =>
    obtain rfl : [] = r := by simpa [lexed] using h
    simp
  | cons c rest ih =>
    rw [lexed] at h
    split at h
    · rename_i hc
      obtain ⟨u, -, rfl⟩ := Option.map_eq_some_iff.mp h
      simp [hc]
    · exact ih h

theorem lexed_lineComment (t : Text) : lexed .lineComment t = lexed .code (fromBreak t) := by
  induction t with
  | nil => rfl
  | cons c rest ih =>
    rw [lexed]
    split
    · rename_i hc
      rw [hc, fromBreak_newline]
      rfl
    · rename_i hc
      rw [fromBreak_cons hc, ih]

theorem head?_ne_of_forall {c x y : Char} {rest : Text}
    (h : ∀ more, c = x → rest = y :: more → False) : ¬(c = x ∧ rest.head? = some y) := by
  rintro ⟨hc, hd⟩
  obtain ⟨more, hmore⟩ := List.head?_eq_some_iff.mp hd
  exact h more hc hmore

theorem behindBlock?_cons {c : Char} {rest : Text}
    (h : ∀ more, c = '*' → rest = '/' :: more → False) :
    behindBlock? (c :: rest) = behindBlock? rest := by
  rw [behindBlock?, if_neg (head?_ne_of_forall h)]

theorem isSome_behindBlock?_of_lexed {t r : Text} (h : lexed .blockComment t = some r) :
    (behindBlock? t).isSome := by
  induction t generalizing r with
  | nil => simp [lexed] at h
  | cons c rest ih =>
    by_cases hc : c = '*' ∧ rest.head? = some '/'
    · rw [behindBlock?, if_pos hc]
      rfl
    · have hcons : ∀ more, c = '*' → rest = '/' :: more → False :=
        fun more hs hr => hc ⟨hs, by simp [hr]⟩
      rw [lexed.eq_7 _ _ hcons] at h
      rw [behindBlock?_cons hcons]
      exact ih h

/-- Two marks of block comments share a character. -/
def MarksOverlap (t : Text) : Prop :=
  ['/', '*', '/'] <:+: t ∨ ['*', '/', '*'] <:+: t

instance (t : Text) : Decidable (MarksOverlap t) :=
  inferInstanceAs (Decidable (_ ∨ _))

theorem MarksOverlap.of_suffix {t u : Text} (hu : u <:+ t) (h : MarksOverlap u) : MarksOverlap t :=
  h.imp (·.trans hu.isInfix) (·.trans hu.isInfix)

theorem not_marksOverlap_tail {c : Char} {rest : Text} (h : ¬MarksOverlap (c :: rest)) :
    ¬MarksOverlap rest :=
  fun hr => h (hr.of_suffix (List.suffix_cons c rest))

theorem not_marksOverlap_tails {c d : Char} {rest : Text} (h : ¬MarksOverlap (c :: d :: rest)) :
    ¬MarksOverlap rest :=
  not_marksOverlap_tail (not_marksOverlap_tail h)

structure BreaksWithin (p : Place) (t : Text) (n : Nat) : Prop where
  whole : p ≠ .blockComment → (withoutBlocks t).count '\n' ≤ n
  behind : ∀ after, behindBlock? t = some after → (withoutBlocks after).count '\n' ≤ n

theorem BreaksWithin.nil (p : Place) (n : Nat) : BreaksWithin p [] n :=
  ⟨fun _ => by simp [withoutBlocks], fun _ h => by simp [behindBlock?] at h⟩

theorem behindBlock?_star {rest : Text} (h : ¬MarksOverlap ('/' :: '*' :: rest)) :
    behindBlock? ('*' :: rest) = behindBlock? rest := by
  rw [behindBlock?, if_neg]
  rintro ⟨-, hd⟩
  obtain ⟨more, rfl⟩ := List.head?_eq_some_iff.mp hd
  exact h (.inl ⟨[], more, rfl⟩)

theorem BreaksWithin.cons {p q : Place} {c : Char} {rest : Text} {n : Nat}
    (hmarks : ¬MarksOverlap (c :: rest)) (hq : q ≠ .blockComment) (h : BreaksWithin q rest n) :
    BreaksWithin p (c :: rest) (n + if c = '\n' then 1 else 0) where
  whole := by
    intro _
    by_cases ho : opensBlock c rest = true
    · obtain ⟨more, after, rfl, rfl, hafter⟩ := exists_of_opensBlock ho
      have := h.behind after (by rwa [behindBlock?_star hmarks])
      rw [withoutBlocks_closed hafter, List.count_cons_of_ne (by decide)]
      omega
    · have := h.whole hq
      rw [withoutBlocks_cons (by simpa using ho), List.count_cons]
      simp only [beq_iff_eq]
      omega
  behind := by
    intro after hafter
    rw [behindBlock?] at hafter
    split at hafter
    · rename_i hc
      obtain ⟨rfl, hd⟩ := hc
      obtain ⟨more, rfl⟩ := List.head?_eq_some_iff.mp hd
      obtain rfl : more = after := by simpa using hafter
      have hslash : ¬('/' = '/' ∧ more.head? = some '*') := by
        rintro ⟨-, hstar⟩
        obtain ⟨behind, rfl⟩ := List.head?_eq_some_iff.mp hstar
        exact hmarks (.inr ⟨[], behind, rfl⟩)
      have := h.whole hq
      rw [withoutBlocks_cons_of_not hslash, List.count_cons_of_ne (by decide)] at this
      omega
    · have := h.behind after hafter
      omega

theorem BreaksWithin.opening {rest after : Text} {n : Nat} (hmarks : ¬MarksOverlap ('/' :: '*' :: rest))
    (hafter : behindBlock? rest = some after) (h : BreaksWithin .blockComment rest n) :
    BreaksWithin .code ('/' :: '*' :: rest) n where
  whole := by
    intro _
    rw [withoutBlocks_closed hafter, List.count_cons_of_ne (by decide)]
    exact h.behind after hafter
  behind := by
    intro behind hbehind
    rw [behindBlock?, if_neg (by simp), behindBlock?_star hmarks] at hbehind
    exact h.behind behind hbehind

/-- Where marks do not overlap, the single reading keeps as many line breaks as the first pass of comment
removal leaves, even if that takes the place for one within a block comment. -/
theorem breaksWithin_of_lexed {p : Place} {t r : Text} (hmarks : ¬MarksOverlap t)
    (h : lexed p t = some r) : BreaksWithin p t (r.count '\n') := by
  have copied {p q : Place} {c : Char} {rest u : Text} (hmarks : ¬MarksOverlap (c :: rest))
      (hq : q ≠ .blockComment) (h : BreaksWithin q rest (u.count '\n')) :
      BreaksWithin p (c :: rest) ((c :: u).count '\n') := by
    rw [List.count_cons]
    simpa using h.cons hmarks hq
  fun_induction lexed p t generalizing r with
  | case1 rest ih =>
    have hline := (ih (not_marksOverlap_tails hmarks) h).cons (p := .lineComment)
      (not_marksOverlap_tail hmarks) (by simp)
    simpa using hline.cons (p := .code) hmarks (by simp)
  | case2 rest ih =>
    obtain ⟨after, hafter⟩ := Option.isSome_iff_exists.mp (isSome_behindBlock?_of_lexed h)
    exact .opening hmarks hafter (ih (not_marksOverlap_tails hmarks) h)
  | case3 c rest hhyphen hblock ih =>
    obtain ⟨u, hu, rfl⟩ := Option.map_eq_some_iff.mp h
    exact copied hmarks (by split <;> simp) (ih (not_marksOverlap_tail hmarks) hu)
  | case4 q c rest ih =>
    obtain ⟨u, hu, rfl⟩ := Option.map_eq_some_iff.mp h
    exact copied hmarks (by split <;> simp) (ih (not_marksOverlap_tail hmarks) hu)
  | case5 rest ih =>
    obtain ⟨u, hu, rfl⟩ := Option.map_eq_some_iff.mp h
    exact copied hmarks (by simp) (ih (not_marksOverlap_tail hmarks) hu)
  | case6 c rest hc ih =>
    simpa [hc] using (ih (not_marksOverlap_tail hmarks) h).cons (p := .lineComment) hmarks (by simp)
  | case7 rest ih =>
    obtain ⟨u, hu, rfl⟩ := Option.map_eq_some_iff.mp h
    refine ⟨by simp, fun after hafter => ?_⟩
    obtain rfl : rest = after := by simpa [behindBlock?] using hafter
    rw [List.count_cons_of_ne (by decide)]
    exact (ih (not_marksOverlap_tails hmarks) hu).whole (by simp)
  | case8 c rest hend ih =>
    refine ⟨by simp, fun after hafter => ?_⟩
    rw [behindBlock?_cons hend] at hafter
    exact (ih (not_marksOverlap_tail hmarks) h).behind after hafter
  | case9 => cases h
  | case10 => exact .nil _ _

end DdlAtlas.Sql
