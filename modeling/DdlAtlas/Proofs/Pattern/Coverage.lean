import DdlAtlas.Proofs.Pattern.Harvest
import DdlAtlas.Proofs.Pattern.Search

/-!
# What a harvest covers

A harvest that goes on behind each of its finds leaves no place of the text out: between two finds, in front
of the first one and behind the last one nothing is found, and what else is found begins inside a find. The
finds stand in the order of the text and do not overlap, so there are no more of them than characters.
-/

namespace DdlAtlas

namespace Cursor

structure Stretch (α : Type) where
  value : α
  start : Nat
  stop : Nat
deriving DecidableEq, Repr

def within (t : Text) (position : Nat) : Cursor :=
  ⟨(t.take position).reverse, t.drop position, position, []⟩

theorem within_of_append (before rest : Text) :
    within (before.reverse ++ rest) before.length = ⟨before, rest, before.length, []⟩ := by
  have hlength : before.length = before.reverse.length := List.length_reverse.symm
  rw [within, hlength, List.take_left, List.drop_left, List.reverse_reverse]

theorem Passed.of_within {t s : Text} {p : Nat} {d : Cursor} (h : (within t p).Passed s d) :
    d.position = p + s.length ∧ d.rest = t.drop (p + s.length) ∧ d.before = (t.take (p + s.length)).reverse ∧
      s <+: t.drop p := by
  have hrest : t.drop p = s ++ d.rest := h.rest
  refine ⟨h.position, ?_, ?_, hrest ▸ List.prefix_append s d.rest⟩
  · rw [← List.drop_drop, hrest, List.drop_left]
  · rw [h.before, within, ← List.reverse_append, List.take_add, hrest, List.take_left]

theorem position_advance {n : Nat} {c : Cursor} (h : n ≤ c.rest.length) :
    (c.advance n).position = c.position + n := by
  have hsplit := advance_append c.before (c.rest.take n) (c.rest.drop n) c.position c.groups
  rw [List.take_append_drop, List.length_take_of_le h] at hsplit
  exact congrArg Cursor.position hsplit

variable {α : Type} {front : Front} {find : Cursor → Option (α × Nat)} {t : Text} {p q : Nat}
  {finds : List (Stretch α)}

def Covers (find : Cursor → Option (α × Nat)) (t : Text) : Prop :=
  ∀ q a width, find (within t q) = some (a, width) → 0 < width ∧ q + width ≤ t.length

/-- The finds along a text from a position on, each the first one behind the one before. -/
inductive Walk (find : Cursor → Option (α × Nat)) (t : Text) : Nat → List (Stretch α) → Prop
  | done {p : Nat} (missed : ∀ q, p ≤ q → q ≤ t.length → find (within t q) = none) : Walk find t p []
  | found {p q width : Nat} {a : α} {finds : List (Stretch α)} (le : p ≤ q) (inside : q ≤ t.length)
      (missed : ∀ k, p ≤ k → k < q → find (within t k) = none)
      (hit : find (within t q) = some (a, width)) (walk : Walk find t (q + width) finds) :
      Walk find t p (⟨a, q, q + width⟩ :: finds)

theorem Walk.of_missed (h : Walk find t (p + 1) finds) (hp : find (within t p) = none) :
    Walk find t p finds := by
  have hmore : ∀ k, p ≤ k → k = p ∨ p + 1 ≤ k := fun k hk => by omega
  cases h with
  | done missed =>
    refine .done fun q hq hlength => ?_
    rcases hmore q hq with rfl | hq
    · exact hp
    · exact missed q hq hlength
  | found le inside missed hit walk =>
    refine .found (Nat.le_of_succ_le le) inside (fun k hk hlt => ?_) hit walk
    rcases hmore k hk with rfl | hk
    · exact hp
    · exact missed k hk hlt

theorem walk_harvest (hfront : ∀ before x rest position, front.admits x = false →
      find ⟨before, x :: rest, position, []⟩ = none)
    (hcovers : Covers find t) {covered : Nat} {before rest : Text} (ht : t = before.reverse ++ rest)
    (hcovered : covered ≤ rest.length) : ∃ finds, Walk find t (before.length + covered) finds ∧
      harvest front find covered before.length before rest = finds.map (·.value) := by
  -- the harvest steps over single characters; the walk leaps over those that a find covers
  induction rest generalizing covered before with
  | nil =>
    obtain rfl : covered = 0 := Nat.le_zero.mp hcovered
    have hlength : t.length = before.length := by simp [ht]
    have hplace : within t before.length = ⟨before, [], before.length, []⟩ := ht ▸ within_of_append before []
    refine ⟨[], .done fun q hq hle => ?_, ?_⟩
    · obtain rfl : q = before.length := by omega
      exact Option.eq_none_iff_forall_ne_some.mpr fun ⟨a, width⟩ hit => by
        have := hcovers _ a width hit
        omega
    · rw [harvest]
      cases hit : find ⟨before, [], before.length, []⟩ with
      | none => rfl
      | some found =>
        have := hcovers before.length found.1 found.2 (hplace ▸ hit)
        omega
  | cons x rest ih =>
    have hplace : within t before.length = ⟨before, x :: rest, before.length, []⟩ :=
      ht ▸ within_of_append before (x :: rest)
    have hlength : t.length = before.length + (rest.length + 1) := by simp [ht]
    have hnext : ∀ {n}, n ≤ rest.length → ∃ finds, Walk find t (before.length + 1 + n) finds ∧
        harvest front find n (before.length + 1) (x :: before) rest = finds.map (·.value) :=
      ih (by simp [ht] : t = (x :: before).reverse ++ rest)
    cases covered with
    | succ n =>
      obtain ⟨finds, hwalk, hfinds⟩ := hnext (Nat.le_of_succ_le_succ hcovered)
      exact ⟨finds, by rwa [Nat.add_assoc, Nat.add_comm 1] at hwalk, hfinds⟩
    | zero =>
      have htried : (if front.admits x then find ⟨before, x :: rest, before.length, []⟩ else none) =
          find (within t before.length) := by
        rw [hplace]
        split
        · rfl
        · exact (hfront before x rest before.length (Bool.eq_false_iff.mpr ‹_›)).symm
      rw [harvest, htried]
      cases hit : find (within t before.length) with
      | none =>
        obtain ⟨finds, hwalk, hfinds⟩ := hnext (Nat.zero_le _)
        exact ⟨finds, hwalk.of_missed hit, hfinds⟩
      | some found =>
        obtain ⟨hpos, hle⟩ := hcovers _ found.1 found.2 hit
        obtain ⟨finds, hwalk, hfinds⟩ := hnext (n := found.2 - 1) (by omega)
        rw [show before.length + 1 + (found.2 - 1) = before.length + found.2 by omega] at hwalk
        refine ⟨⟨found.1, before.length, before.length + found.2⟩ :: finds, ?_, ?_⟩
        · exact .found (Nat.le_refl _) (by omega) (fun k hk hlt => by omega) hit hwalk
        · simp only [List.map_cons, hfinds]

namespace Walk

theorem le_start (h : Walk find t p finds) : ∀ f ∈ finds, p ≤ f.start := by
  induction h with
  | done => simp
  | @found p q width a finds le _ _ _ _ ih =>
    intro f hf
    rcases List.mem_cons.mp hf with rfl | hf
    · exact le
    · have := ih f hf
      omega

theorem hit (h : Walk find t p finds) :
    ∀ f ∈ finds, ∃ width, f.stop = f.start + width ∧ find (within t f.start) = some (f.value, width) := by
  induction h with
  | done => simp
  | found _ _ _ hit _ ih =>
    intro f hf
    rcases List.mem_cons.mp hf with rfl | hf
    · exact ⟨_, rfl, hit⟩
    · exact ih f hf

theorem apart (h : Walk find t p finds) : finds.Pairwise fun f g => f.stop ≤ g.start := by
  induction h with
  | done => exact .nil
  | found _ _ _ _ walk ih => exact .cons walk.le_start ih

theorem covers (h : Walk find t p finds) (hp : p ≤ q) (hq : q ≤ t.length)
    (hfind : find (within t q) ≠ none) : ∃ f ∈ finds, f.start ≤ q ∧ q < f.stop := by
  induction h with
  | done missed => exact absurd (missed q hp hq) hfind
  | @found p k width a finds _ _ missed _ _ ih =>
    rcases Nat.lt_or_ge q k with hlt | hge
    · exact absurd (missed q hp hlt) hfind
    · rcases Nat.lt_or_ge q (k + width) with hinside | hbehind
      · exact ⟨_, List.mem_cons_self, hge, hinside⟩
      · obtain ⟨f, hf, hstands⟩ := ih hbehind
        exact ⟨f, List.mem_cons_of_mem _ hf, hstands⟩

theorem length_le (h : Walk find t p finds) (hcovers : Covers find t) (hp : p ≤ t.length) :
    p + finds.length ≤ t.length := by
  induction h with
  | done => exact hp
  | found le _ _ hit _ ih =>
    obtain ⟨hpos, hstop⟩ := hcovers _ _ _ hit
    have := ih hstop
    rw [List.length_cons]
    omega

end Walk

end Cursor

namespace Pattern

variable {p : Pattern} {t before rest : Text} {k : Nat} {m n : Match} {found found' : Option Match}

structure FirstFrom (p : Pattern) (t : Text) (k : Nat) (m : Match) : Prop where
  le : k ≤ m.offset
  inside : m.offset ≤ t.length
  hit : p.matchAt? (.within t m.offset) = some m
  missed : ∀ j, k ≤ j → j < m.offset → p.matchAt? (.within t j) = none

def Yields (p : Pattern) (t : Text) (k : Nat) : Option Match → Prop
  | none => ∀ q, k ≤ q → q ≤ t.length → p.matchAt? (.within t q) = none
  | some m => p.FirstFrom t k m

theorem offset_of_matchAt? {c : Cursor} (h : p.matchAt? c = some m) : m.offset = c.position := by
  obtain ⟨e, -, rfl⟩ := Option.map_eq_some_iff.mp h
  rfl

theorem firstFrom_of_matchAt? (hk : k ≤ t.length) (h : p.matchAt? (.within t k) = some m) :
    p.FirstFrom t k m := by
  have hoffset : m.offset = k := offset_of_matchAt? h
  refine ⟨Nat.le_of_eq hoffset.symm, hoffset ▸ hk, hoffset ▸ h, fun j hj hlt => ?_⟩
  omega

theorem Yields.of_missed (h : p.Yields t (k + 1) found) (hk : p.matchAt? (.within t k) = none) :
    p.Yields t k found := by
  cases found with
  | none =>
    intro q hq hle
    rcases Nat.eq_or_lt_of_le hq with rfl | hq
    · exact hk
    · exact h q hq hle
  | some m =>
    refine ⟨Nat.le_of_succ_le h.le, h.inside, h.hit, fun j hj hlt => ?_⟩
    rcases Nat.eq_or_lt_of_le hj with rfl | hj
    · exact hk
    · exact h.missed j hj hlt

theorem FirstFrom.offset_le (h : p.FirstFrom t k m) (hn : p.FirstFrom t k n) : n.offset ≤ m.offset := by
  refine Nat.le_of_not_lt fun hlt => ?_
  have hhit := h.hit
  rw [hn.missed m.offset h.le hlt] at hhit
  cases hhit

theorem Yields.unique (h : p.Yields t k found) (h' : p.Yields t k found') : found = found' := by
  have hnone : ∀ {m}, p.Yields t k none → ¬p.FirstFrom t k m := fun hnone hm => by
    have hhit := hm.hit
    rw [hnone _ hm.le hm.inside] at hhit
    cases hhit
  cases found with
  | none =>
    cases found' with
    | none => rfl
    | some m => exact absurd h' (hnone h)
  | some m =>
    cases found' with
    | none => exact absurd h (hnone h')
    | some n =>
      have hoffset := Nat.le_antisymm (FirstFrom.offset_le h' h) (FirstFrom.offset_le h h')
      rw [← FirstFrom.hit h, ← FirstFrom.hit h', hoffset]

theorem searchWith?_yields (ht : t = before.reverse ++ rest) :
    p.Yields t before.length (p.searchWith? none before.length before rest) := by
  have hplace : Cursor.within t before.length = ⟨before, rest, before.length, []⟩ :=
    ht ▸ Cursor.within_of_append before rest
  have hlength : t.length = before.length + rest.length := by simp [ht]
  induction rest generalizing before with
  | nil =>
    rw [searchWith?, ← hplace]
    rw [List.length_nil] at hlength
    cases hm : p.matchAt? (.within t before.length) with
    | none =>
      intro q hq hle
      obtain rfl : q = before.length := by omega
      exact hm
    | some m => exact firstFrom_of_matchAt? (by omega) hm
  | cons x rest ih =>
    rw [searchWith?_cons, ← hplace]
    cases hm : p.matchAt? (.within t before.length) with
    | some m => exact firstFrom_of_matchAt? (by omega) hm
    | none =>
      have hrest : t = (x :: before).reverse ++ rest := by simp [ht]
      refine (ih hrest (hrest ▸ Cursor.within_of_append (x :: before) rest) ?_).of_missed hm
      rw [hlength, List.length_cons, List.length_cons]
      omega

theorem searchFrom?_eq_iff (hk : k ≤ t.length) :
    p.searchFrom? k (t.take k).reverse (t.drop k) = found ↔ p.Yields t k found := by
  have hlength : (t.take k).reverse.length = k := by simp [hk]
  have hsplit : t = (t.take k).reverse.reverse ++ t.drop k := by simp
  have hyields := searchWith?_yields (p := p) hsplit
  rw [hlength, ← searchWith?_front] at hyields
  exact ⟨fun h => h ▸ hyields, fun h => hyields.unique h⟩

end Pattern

end DdlAtlas
