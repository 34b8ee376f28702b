import DdlAtlas.Proofs.Pattern.Reads
import Mathlib

/-!
# What the groups of a match hold

A group holds a part of the stretch that its match covers, and the stretches of the matches in a text lie
one behind the other. A measure of texts that is at least as large on a whole as on its parts together is
thus as large on the text as on what the matches hold, taken together.
-/

namespace DdlAtlas

def Capture.text (g : Capture) : Text :=
  g.opened.take g.width

namespace Pattern

theorem Reads.captured {p : Pattern} {c d : Cursor} {s : Text} (h : p.Reads c d) (hs : c.Passed s d) :
    ∀ g ∈ d.groups, g ∈ c.groups ∨ g.text <:+: s := by
  induction p generalizing c d s with
  | empty =>
    obtain rfl : d = c := h
    exact fun g hg => .inl hg
  | one test =>
    obtain ⟨x, rest, -, -, rfl⟩ := h
    exact fun g hg => .inl hg
  | seq p q ihp ihq =>
    obtain ⟨e, hp, hq⟩ := h
    obtain ⟨u, hu⟩ := hp.passed
    obtain ⟨v, hv⟩ := hq.passed
    obtain rfl : u ++ v = s := (hu.trans hv).take_eq.symm.trans hs.take_eq
    intro g hg
    rcases ihq hq hv g hg with hg | hg
    · rcases ihp hp hu g hg with hg | hg
      · exact .inl hg
      · exact .inr (hg.trans (List.prefix_append u v).isInfix)
    · exact .inr (hg.trans (List.suffix_append u v).isInfix)
  | alt p q ihp ihq =>
    rcases h with hp | hq
    · exact ihp hp hs
    · exact ihq hq hs
  | solid test =>
    obtain rfl := h
    intro g hg
    rw [Cursor.groups_past] at hg
    exact .inl hg
  | longest test stop | shortest test stop =>
    intro g hg
    rw [Cursor.groups_of_mem_reach h] at hg
    exact .inl hg
  | many p ih =>
    induction h generalizing s with
    | refl => exact fun g hg => .inl hg
    | @tail e d hmany hstep ih' =>
      obtain ⟨u, hu⟩ := Reads.passed (p := .many p) hmany
      obtain ⟨v, hv⟩ := hstep.passed
      obtain rfl : u ++ v = s := (hu.trans hv).take_eq.symm.trans hs.take_eq
      intro g hg
      rcases ih hstep hv g hg with hg | hg
      · rcases ih' hu g hg with hg | hg
        · exact .inl hg
        · exact .inr (hg.trans (List.prefix_append u v).isInfix)
      · exact .inr (hg.trans (List.suffix_append u v).isInfix)
  | group label p ih =>
    obtain ⟨e, hp, rfl⟩ := h
    have he : c.Passed s e := ⟨hs.rest, hs.before, hs.position⟩
    intro g hg
    rcases List.mem_cons.mp hg with rfl | hg
    · right
      rw [Capture.text, he.take_eq]
    · exact ih hp he g hg
  | ahead p _ | notBehind width p _ | wordEdge | textStart | textEnd | lineEnd =>
    rw [h.1]
    exact fun g hg => .inl hg

theorem stretch_of_matchAt? {p : Pattern} {before rest : Text} {position : Nat} {m : Match}
    (h : p.matchAt? ⟨before, rest, position, []⟩ = some m) :
    ∃ s, rest = s ++ m.stop.rest ∧ m.width = s.length ∧
      ∀ label t, m.group? label = some t → t <:+: s := by
  obtain ⟨hstart, hreads⟩ := reads_of_matchAt? h
  obtain ⟨s, hs⟩ := hreads.passed
  refine ⟨s, hs.rest, ?_, fun label t ht => ?_⟩
  · rw [Match.width, hstart, hs.position]
    exact Nat.add_sub_cancel_left position s.length
  · obtain ⟨g, hg, rfl⟩ := Option.map_eq_some_iff.mp ht
    rcases hreads.captured hs g (List.mem_of_find?_eq_some hg) with hold | hinfix
    · exact absurd hold List.not_mem_nil
    · exact hinfix

section Weight

variable {weight : Text → Nat} (hweight : ∀ a b, weight a + weight b ≤ weight (a ++ b))
include hweight

theorem weight_le_of_infix {a b : Text} (h : a <:+: b) : weight a ≤ weight b := by
  obtain ⟨u, v, rfl⟩ := h
  have hleft := hweight u a
  have hright := hweight (u ++ a) v
  omega

theorem weight_add_drop_le {c : Char} {rest s u a : Text} (hs : c :: rest = s ++ u) (h : a <:+: s) :
    weight a + weight (rest.drop (s.length - 1)) ≤ weight (c :: rest) := by
  have hpart := weight_le_of_infix hweight h
  have hwhole := hweight s u
  cases s with
  | nil =>
    have hempty := hweight [] []
    have hrest := weight_le_of_infix hweight (List.suffix_cons c rest).isInfix
    simp only [List.length_nil, Nat.zero_sub, List.drop_zero, List.nil_append] at hempty ⊢
    omega
  | cons x s =>
    rw [List.cons_append] at hs
    obtain ⟨rfl, rfl⟩ := List.cons.inj hs
    rw [List.length_cons, Nat.add_sub_cancel, List.drop_left]
    exact (Nat.add_le_add_right hpart _).trans hwhole

theorem sum_harvest_le {p : Pattern} {part : Match → Text}
    (hpart : ∀ before rest position m, p.matchAt? ⟨before, rest, position, []⟩ = some m →
      ∃ s, rest = s ++ m.stop.rest ∧ m.width = s.length ∧ part m <:+: s)
    (covered position : Nat) (before t : Text) :
    ((Cursor.harvest p.front (fun c => (p.matchAt? c).map fun m => (m, m.width)) covered position before
      t).map fun m => weight (part m)).sum ≤ weight (t.drop covered) := by
  induction t generalizing covered position before with
  | nil =>
    rw [Cursor.harvest]
    cases hm : p.matchAt? ⟨before, [], position, []⟩ with
    | none => simp
    | some m =>
      obtain ⟨s, hs, -, hinfix⟩ := hpart _ _ _ m hm
      obtain ⟨rfl, -⟩ := List.append_eq_nil_iff.mp hs.symm
      simpa using weight_le_of_infix hweight hinfix
  | cons c rest ih =>
    have hrest : weight rest ≤ weight (c :: rest) :=
      weight_le_of_infix hweight (List.suffix_cons c rest).isInfix
    cases covered with
    | succ covered =>
      rw [Cursor.harvest, List.drop_succ_cons]
      exact ih covered _ _
    | zero =>
      rw [Cursor.harvest, List.drop_zero]
      split
      · rename_i m width hfind
        split at hfind
        · obtain ⟨m', hm, heq⟩ := Option.map_eq_some_iff.mp hfind
          obtain ⟨rfl, rfl⟩ := Prod.mk.inj heq
          obtain ⟨s, hs, hwidth, hinfix⟩ := hpart _ _ _ m' hm
          have hbehind := ih (m'.width - 1) (position + 1) (c :: before)
          have hboth := weight_add_drop_le hweight hs hinfix
          rw [← hwidth] at hboth
          rw [List.map_cons, List.sum_cons]
          exact (Nat.add_le_add_left hbehind _).trans hboth
        · simp at hfind
      · exact (ih 0 _ _).trans hrest

theorem sum_occurrences_le {p : Pattern} {part : Match → Text}
    (hpart : ∀ before rest position m, p.matchAt? ⟨before, rest, position, []⟩ = some m →
      ∃ s, rest = s ++ m.stop.rest ∧ m.width = s.length ∧ part m <:+: s) (t : Text) :
    ((p.occurrences t).map fun m => weight (part m)).sum ≤ weight t :=
  sum_harvest_le hweight hpart 0 0 [] t

end Weight

end Pattern

end DdlAtlas
