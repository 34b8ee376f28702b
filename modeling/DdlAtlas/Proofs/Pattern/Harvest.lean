import DdlAtlas.Proofs.Pattern.Run

/-!
# Harvests over texts put together

A harvest passes over a stretch in which nothing is found, takes what is found at the front of a
stretch, and goes on behind it. A pattern that begins with a word finds nothing where the word is not
spelled.
-/

namespace DdlAtlas

namespace Cursor

theorem harvest_covered {α : Type} (front : Front) (find : Cursor → Option (α × Nat))
    (position : Nat) (before s rest : Text) :
    harvest front find s.length position before (s ++ rest) =
      harvest front find 0 (position + s.length) (s.reverse ++ before) rest := by
  induction s generalizing position before with
  | nil => rfl
  | cons x s ih =>
    rw [List.length_cons, List.cons_append, harvest, ih]
    simp only [List.reverse_cons, List.append_assoc, List.singleton_append]
    congr 1
    omega

theorem harvest_missed {α : Type} {front : Front} {find : Cursor → Option (α × Nat)} {s rest : Text}
    (h : ∀ position before u, u ≠ [] → u <:+ s → find ⟨before, u ++ rest, position, []⟩ = none)
    (position : Nat) (before : Text) :
    harvest front find 0 position before (s ++ rest) =
      harvest front find 0 (position + s.length) (s.reverse ++ before) rest := by
  induction s generalizing position before with
  | nil => rfl
  | cons x s ih =>
    have hx : find ⟨before, x :: (s ++ rest), position, []⟩ = none :=
      h position before (x :: s) (by simp) List.suffix_rfl
    rw [List.cons_append, harvest, hx]
    simp only [ite_self]
    rw [ih fun position before u hne hu => h position before u hne (hu.trans (List.suffix_cons x s))]
    simp only [List.reverse_cons, List.append_assoc, List.singleton_append, List.length_cons]
    congr 1
    omega

theorem harvest_cons_missed {α : Type} {front : Front} {find : Cursor → Option (α × Nat)} {x : Char}
    {rest before : Text} {position : Nat} (h : find ⟨before, x :: rest, position, []⟩ = none) :
    harvest front find 0 position before (x :: rest) =
      harvest front find 0 (position + 1) (x :: before) rest := by
  rw [harvest, h]
  simp

theorem harvest_line {α : Type} {front : Front} {find : Cursor → Option (α × Nat)}
    {word : Text} (hfind : ∀ c : Cursor, ¬Text.folded word <+: Text.folded c.rest → find c = none)
    (hbreak : '\n' ∉ Text.folded word) (line : Text) (h : Text.Lacks word line) (position : Nat)
    (before rest : Text) :
    ∃ position' before', harvest front find 0 position before (line ++ '\n' :: rest) =
      harvest front find 0 position' before' rest := by
  have hmissed : ∀ position before u, u ≠ [] → u <:+ line ++ ['\n'] →
      find ⟨before, u ++ rest, position, []⟩ = none := fun position before u hne hu =>
    hfind ⟨before, u ++ rest, position, []⟩ (h.missed hbreak rest hne hu)
  have hsplit : line ++ '\n' :: rest = (line ++ ['\n']) ++ rest := by simp
  rw [hsplit, harvest_missed hmissed]
  exact ⟨_, _, rfl⟩

theorem harvest_found {α : Type} {front : Front} {find : Cursor → Option (α × Nat)} {s rest : Text}
    {found : α} {position : Nat} {before : Text} (hne : s ≠ [])
    (hfront : ∀ x ∈ s.head?, front.admits x = true)
    (h : find ⟨before, s ++ rest, position, []⟩ = some (found, s.length)) :
    harvest front find 0 position before (s ++ rest) =
      found :: harvest front find 0 (position + s.length) (s.reverse ++ before) rest := by
  obtain ⟨x, s, rfl⟩ := List.exists_cons_of_ne_nil hne
  rw [List.cons_append] at h ⊢
  rw [harvest, if_pos (hfront x rfl), h]
  simp only [List.length_cons, Nat.add_sub_cancel]
  rw [harvest_covered]
  simp only [List.reverse_cons, List.append_assoc, List.singleton_append]
  congr 2
  omega

theorem firstAlong_missed {stop : Front} {next : Cursor → Option Cursor} {groups : List Capture}
    {s rest : Text}
    (h : ∀ position before u, u ≠ [] → u <:+ s → next ⟨before, u ++ rest, position, groups⟩ = none)
    (position : Nat) (before : Text) :
    firstAlong (fun _ => true) stop next groups position before (s ++ rest) =
      firstAlong (fun _ => true) stop next groups (position + s.length) (s.reverse ++ before)
        rest := by
  induction s generalizing position before with
  | nil => rfl
  | cons x s ih =>
    have hx : next ⟨before, x :: (s ++ rest), position, groups⟩ = none :=
      h position before (x :: s) (by simp) List.suffix_rfl
    rw [List.cons_append, firstAlong, hx]
    simp only [ite_self, if_true]
    rw [ih fun position before u hne hu => h position before u hne (hu.trans (List.suffix_cons x s))]
    simp only [List.reverse_cons, List.append_assoc, List.singleton_append, List.length_cons]
    congr 1
    omega

theorem firstAlong_end {stop : Front} {next : Cursor → Option Cursor} {groups : List Capture} {s : Text}
    (h : ∀ position before u, u ≠ [] → u <:+ s → next ⟨before, u, position, groups⟩ = none)
    (position : Nat) (before : Text) :
    firstAlong (fun _ => true) stop next groups position before s =
      next ⟨s.reverse ++ before, [], position + s.length, groups⟩ := by
  have hmissed : firstAlong (fun _ => true) stop next groups position before (s ++ []) = _ :=
    firstAlong_missed (fun p b u hu hs => by
      rw [List.append_nil]
      exact h p b u hu hs) position before
  rwa [List.append_nil] at hmissed

theorem firstAlong_found {stop : Front} {next : Cursor → Option Cursor} {groups : List Capture}
    {position : Nat} {before rest : Text} {x : Char} {found : Cursor}
    (hfront : stop.admits x = true)
    (h : next ⟨before, x :: rest, position, groups⟩ = some found) :
    firstAlong (fun _ => true) stop next groups position before (x :: rest) = some found := by
  rw [firstAlong, if_pos hfront, h]

theorem firstAlong_of_isSome {stop : Front} {next : Cursor → Option Cursor} {groups : List Capture}
    {position : Nat} {before s rest : Text} (hfront : ∀ x ∈ rest.head?, stop.admits x = true)
    (h : (next ⟨s.reverse ++ before, rest, position + s.length, groups⟩).isSome = true) :
    ∃ w v d, s = w ++ v ∧ next ⟨w.reverse ++ before, v ++ rest, position + w.length, groups⟩ = some d ∧
      firstAlong (fun _ => true) stop next groups position before (s ++ rest) = some d := by
  induction s generalizing position before with
  | nil =>
    obtain ⟨d, hd⟩ := Option.isSome_iff_exists.mp h
    refine ⟨[], [], d, rfl, hd, ?_⟩
    cases rest with
    | nil => exact hd
    | cons x rest => exact firstAlong_found (hfront x rfl) hd
  | cons x s ih =>
    cases hx : if stop.admits x then next ⟨before, x :: (s ++ rest), position, groups⟩ else none with
    | some d =>
      refine ⟨[], x :: s, d, rfl, ?_, by rw [List.cons_append, firstAlong, hx]⟩
      split at hx
      · exact hx
      · simp at hx
    | none =>
      rw [List.length_cons, List.reverse_cons, List.append_assoc, ← Nat.add_assoc,
        Nat.add_right_comm] at h
      obtain ⟨w, v, d, rfl, hnext, hfound⟩ := ih h
      refine ⟨x :: w, v, d, rfl, ?_, ?_⟩
      · rw [← hnext, List.length_cons, List.reverse_cons, List.append_assoc, Nat.add_assoc,
          Nat.add_comm 1, List.singleton_append]
      · rw [List.cons_append, firstAlong, hx]
        exact hfound

theorem advance_append (before s rest : Text) (position : Nat) (groups : List Capture) :
    advance s.length ⟨before, s ++ rest, position, groups⟩ =
      ⟨s.reverse ++ before, rest, position + s.length, groups⟩ := by
  induction s generalizing before position with
  | nil => rfl
  | cons x s ih =>
    rw [List.length_cons, List.cons_append, advance, ih]
    simp only [List.reverse_cons, List.append_assoc, List.singleton_append]
    congr 1
    omega

end Cursor

def Text.TwoFormed (word : Text) : Prop :=
  ∀ x ∈ word, x.toLower ≠ 'i' ∧ x.toLower ≠ 's' ∧ x.toLower ≠ 'k'

instance (word : Text) : Decidable word.TwoFormed :=
  List.decidableBAll _ word

namespace Pattern

theorem sameLetter_iff {p c : Char}
    (hp : p.toLower ≠ 'i' ∧ p.toLower ≠ 's' ∧ p.toLower ≠ 'k') :
    Text.sameLetter p c = true ↔ c.toLower = p.toLower := by
  obtain ⟨hi, hs, hk⟩ := hp
  unfold Text.sameLetter
  split <;> simp_all

theorem folded_of_sameLetters {w s : Text} (hw : w.TwoFormed)
    (h : List.Forall₂ (fun p x => Text.sameLetter p x = true) w s) :
    Text.folded s = Text.folded w := by
  induction h with
  | nil => rfl
  | @cons p x w s hp _ ih =>
    have hx : x.toLower = p.toLower := (sameLetter_iff (hw p List.mem_cons_self)).mp hp
    have hs := ih fun q hq => hw q (List.mem_cons_of_mem p hq)
    rw [Text.folded] at hs ⊢
    rw [List.map_cons, hx, hs]
    rfl

theorem matchAt?_eq_none {w : Text} (hw : w.TwoFormed) {ps : List Pattern} {c : Cursor}
    (h : ¬Text.folded w <+: Text.folded c.rest) :
    (sequence (word w :: ps)).matchAt? c = none := by
  have hnone : (sequence (word w :: ps)).run some c = none := by
    refine run_eq_none_of_reads fun d hd => ?_
    obtain ⟨e, he, -⟩ := reads_sequence_cons.mp hd
    obtain ⟨s, hs, hall⟩ := reads_word he
    refine h ?_
    rw [hs.rest, ← folded_of_sameLetters hw hall, Text.folded, Text.folded, List.map_append]
    exact List.prefix_append _ _
  rw [matchAt?, hnone, Option.map_none]

end Pattern

end DdlAtlas
