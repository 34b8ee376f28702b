import DdlAtlas.Proofs.Pattern.Coverage
import DdlAtlas.Proofs.Pattern.Opener

/-!
# The texts of a pattern

Some patterns read the texts of a certain class and nothing else, and read each of these texts wherever it stands.
Such a pattern occurs in a text just when a text of the class is a part of it. For any other pattern, an occurrence
is a place of the text at which it matches.
-/

namespace DdlAtlas.Pattern

variable {p : Pattern} {L : Text → Prop} {t : Text}

theorem occursIn_iff : p.occursIn t = true ↔ ∃ k ≤ t.length, (p.matchAt? (.within t k)).isSome = true := by
  have hfrom : p.Yields t 0 (p.search? t) := (searchFrom?_eq_iff (Nat.zero_le _)).mp rfl
  rw [occursIn]
  cases hsearch : p.search? t with
  | none =>
    rw [hsearch] at hfrom
    refine iff_of_false (by simp) ?_
    rintro ⟨k, hk, hmatch⟩
    rw [hfrom k (Nat.zero_le k) hk] at hmatch
    exact absurd hmatch (by simp)
  | some m =>
    rw [hsearch] at hfrom
    have hit := hfrom.hit
    exact iff_of_true rfl ⟨m.offset, hfrom.inside, by rw [hit]; rfl⟩

theorem occursIn_iff_cut : p.occursIn t = true ↔
    ∃ u v, t = u ++ v ∧ (p.matchAt? ⟨u.reverse, v, u.length, []⟩).isSome = true := by
  have hplace : ∀ u v : Text, Cursor.within (u ++ v) u.length = ⟨u.reverse, v, u.length, []⟩ := by
    intro u v
    have hwithin := Cursor.within_of_append u.reverse v
    rwa [List.reverse_reverse, List.length_reverse] at hwithin
  rw [occursIn_iff]
  constructor
  · rintro ⟨k, hk, hmatch⟩
    have hcut := hplace (t.take k) (t.drop k)
    rw [List.take_append_drop, List.length_take_of_le hk] at hcut
    refine ⟨t.take k, t.drop k, (List.take_append_drop k t).symm, ?_⟩
    rwa [List.length_take_of_le hk, ← hcut]
  · rintro ⟨u, v, rfl, hmatch⟩
    exact ⟨u.length, by simp, by rwa [hplace]⟩

theorem matchAt?_of_not_occursIn {u v : Text} (h : p.occursIn (u ++ v) = false) :
    p.matchAt? ⟨u.reverse, v, u.length, []⟩ = none :=
  Option.not_isSome_iff_eq_none.mp fun hmatch =>
    Bool.eq_false_iff.mp h (occursIn_iff_cut.mpr ⟨u, v, rfl, hmatch⟩)

theorem Finds.occursIn_iff (hp : p.Finds L) : p.occursIn t = true ↔ Holds L t := by
  simp only [occursIn_iff_cut, hp _, Holds]

theorem occursIn_of_passed {k : Nat} {s : Text} {d : Cursor} (hk : k ≤ t.length)
    (hpassed : (Cursor.within t k).Passed s d) (hgroups : d.groups = []) (hmatch : (p.matchAt? d).isSome = true) :
    p.occursIn t = true := by
  obtain ⟨hposition, hrest, hbefore, hprefix⟩ := hpassed.of_within
  obtain ⟨before, rest, position, groups⟩ := d
  obtain rfl : rest = _ := hrest
  obtain rfl : before = _ := hbefore
  obtain rfl : position = _ := hposition
  obtain rfl : groups = [] := hgroups
  refine occursIn_iff.mpr ⟨k + s.length, ?_, hmatch⟩
  have hlength := hprefix.length_le
  rw [List.length_drop] at hlength
  omega

/-- The pattern reads the texts of the class and nothing else, and reads each of them wherever it stands. -/
structure Takes (p : Pattern) (L : Text → Prop) : Prop where
  reads : ∀ {c d : Cursor}, p.Reads c d → ∃ s, L s ∧ c.Passed s d
  run : ∀ {s : Text}, L s → ∀ (next : Cursor → Option Cursor) (before rest : Text) (position : Nat)
    (groups : List Capture), p.run next ⟨before, s ++ rest, position, groups⟩ =
      next ⟨s.reverse ++ before, rest, position + s.length, groups⟩

theorem Takes.occursIn_iff (h : p.Takes L) : p.occursIn t = true ↔ ∃ s, L s ∧ s <:+: t := by
  rw [Pattern.occursIn_iff]
  constructor
  · rintro ⟨k, -, hmatch⟩
    obtain ⟨m, hm⟩ := Option.isSome_iff_exists.mp hmatch
    obtain ⟨s, hs, hpassed⟩ := h.reads (reads_of_matchAt? hm).2
    obtain ⟨-, -, -, hprefix⟩ := hpassed.of_within
    exact ⟨s, hs, hprefix.isInfix.trans (List.drop_suffix k t).isInfix⟩
  · rintro ⟨s, hs, before, rest, rfl⟩
    rw [← Pattern.occursIn_iff, occursIn_iff_cut]
    refine ⟨before, s ++ rest, List.append_assoc before s rest, ?_⟩
    rw [matchAt?, h.run hs]
    rfl

end DdlAtlas.Pattern
