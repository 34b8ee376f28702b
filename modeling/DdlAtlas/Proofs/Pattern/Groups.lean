import DdlAtlas.Proofs.Pattern.Captures
import DdlAtlas.Proofs.Pattern.Search

/-!
# What a group can hold

A group is closed around a part of its pattern, so that it holds a text which that part reads. The parts behind
a label are computed from the pattern. What all texts of these parts have in common is true of every group with
the label, wherever in a text the match was found.
-/

namespace DdlAtlas

namespace Pattern

def Spells (p : Pattern) (s : Text) : Prop :=
  ∃ c d : Cursor, p.Reads c d ∧ c.Passed s d

def bodies (label : Nat) : Pattern → List Pattern
  | .seq p q | .alt p q => p.bodies label ++ q.bodies label
  | .many p => p.bodies label
  | .group l p => if l = label then p :: p.bodies label else p.bodies label
  | _ => []

theorem Reads.closed {p : Pattern} {c d : Cursor} (h : p.Reads c d) :
    ∀ g ∈ d.groups, g ∈ c.groups ∨ ∃ q ∈ p.bodies g.label, q.Spells g.text := by
  induction p generalizing c d with
  | empty =>
    obtain rfl : d = c := h
    exact fun g hg => .inl hg
  | one test =>
    obtain ⟨x, rest, -, -, rfl⟩ := h
    exact fun g hg => .inl hg
  | seq p q ihp ihq =>
    obtain ⟨e, hp, hq⟩ := h
    intro g hg
    rcases ihq hq g hg with hg | ⟨r, hr, hspells⟩
    · rcases ihp hp g hg with hg | ⟨r, hr, hspells⟩
      · exact .inl hg
      · exact .inr ⟨r, List.mem_append_left _ hr, hspells⟩
    · exact .inr ⟨r, List.mem_append_right _ hr, hspells⟩
  | alt p q ihp ihq =>
    intro g hg
    rcases h with hp | hq
    · exact (ihp hp g hg).imp_right fun ⟨r, hr, hspells⟩ => ⟨r, List.mem_append_left _ hr, hspells⟩
    · exact (ihq hq g hg).imp_right fun ⟨r, hr, hspells⟩ => ⟨r, List.mem_append_right _ hr, hspells⟩
  | solid test =>
    obtain rfl := h
    intro g hg
    rw [Cursor.groups_past] at hg
    exact .inl hg
  | longest test stop | shortest test stop =>
    intro g hg
    rw [Cursor.groups_of_mem_reach h] at hg
    exact .inl hg
  | many p ih =>
    induction h with
    | refl => exact fun g hg => .inl hg
    | tail _ hstep ih' =>
      intro g hg
      rcases ih hstep g hg with hg | hspells
      · exact ih' g hg
      · exact .inr hspells
  | group label p ih =>
    obtain ⟨e, hp, rfl⟩ := h
    intro g hg
    rcases List.mem_cons.mp hg with rfl | hg
    · obtain ⟨s, hs⟩ := hp.passed
      refine .inr ⟨p, by simp [bodies], c, e, hp, ?_⟩
      rwa [Capture.text, hs.take_eq]
    · refine (ih hp g hg).imp_right fun ⟨r, hr, hspells⟩ => ⟨r, ?_, hspells⟩
      rw [bodies]
      split
      · exact List.mem_cons_of_mem p hr
      · exact hr
  | ahead p _ | notBehind width p _ | wordEdge | textStart | textEnd | lineEnd =>
    rw [h.1]
    exact fun g hg => .inl hg

theorem spells_of_matchAt? {p : Pattern} {before rest : Text} {position label : Nat} {m : Match} {t : Text}
    (h : p.matchAt? ⟨before, rest, position, []⟩ = some m) (ht : m.group? label = some t) :
    ∃ q ∈ p.bodies label, q.Spells t := by
  obtain ⟨-, hreads⟩ := reads_of_matchAt? h
  obtain ⟨g, hg, rfl⟩ := Option.map_eq_some_iff.mp ht
  obtain rfl : g.label = label := by simpa using List.find?_some hg
  rcases hreads.closed g (List.mem_of_find?_eq_some hg) with hold | hspells
  · exact absurd hold List.not_mem_nil
  · exact hspells

def closes (label : Nat) : Pattern → Bool
  | .seq p q => p.closes label || q.closes label
  | .alt p q => p.closes label && q.closes label
  | .group l p => l == label || p.closes label
  | _ => false

theorem Reads.exists_closed {label : Nat} {p : Pattern} {c d : Cursor} (h : p.Reads c d)
    (hp : p.closes label = true) : ∃ g ∈ d.groups, g.label = label := by
  induction p generalizing c d with
  | seq p q ihp ihq =>
    obtain ⟨e, hread, hrest⟩ := h
    rcases (Bool.or_eq_true _ _).mp hp with hp | hq
    · obtain ⟨g, hg, hlabel⟩ := ihp hread hp
      obtain ⟨gs, hgs, -⟩ := hrest.groups
      exact ⟨g, by rw [hgs]; exact List.mem_append_right gs hg, hlabel⟩
    · exact ihq hrest hq
  | alt p q ihp ihq =>
    obtain ⟨hp, hq⟩ := (Bool.and_eq_true _ _).mp hp
    exact h.elim (fun h => ihp h hp) fun h => ihq h hq
  | group l p ih =>
    obtain ⟨e, hread, rfl⟩ := h
    rcases (Bool.or_eq_true _ _).mp hp with hl | hp
    · exact ⟨_, List.mem_cons_self, beq_iff_eq.mp hl⟩
    · obtain ⟨g, hg, hlabel⟩ := ih hread hp
      exact ⟨g, List.mem_cons_of_mem _ hg, hlabel⟩
  | _ => exact absurd hp (by simp [closes])

theorem matchAt?_of_searchWith? {p : Pattern} {position : Nat} {before rest : Text} {m : Match}
    (h : p.searchWith? none position before rest = some m) :
    ∃ before' rest' position', before.reverse ++ rest = before'.reverse ++ rest' ∧
      p.matchAt? ⟨before', rest', position', []⟩ = some m := by
  induction rest generalizing before position with
  | nil => exact ⟨before, [], position, rfl, h⟩
  | cons x rest ih =>
    simp only [searchWith?, Front.admits, if_true] at h
    split at h
    · obtain rfl := Option.some.inj h
      exact ⟨before, x :: rest, position, rfl, ‹_›⟩
    · obtain ⟨before', rest', position', heq, hm⟩ := ih h
      exact ⟨before', rest', position', by simpa using heq, hm⟩

theorem matchAt?_of_search? {p : Pattern} {t : Text} {m : Match} (h : p.search? t = some m) :
    ∃ before rest position, t = before.reverse ++ rest ∧
      p.matchAt? ⟨before, rest, position, []⟩ = some m := by
  rw [search?_eq] at h
  exact matchAt?_of_searchWith? h

theorem spells_of_search? {p : Pattern} {t u : Text} {label : Nat} {m : Match} (h : p.search? t = some m)
    (hu : m.group? label = some u) : ∃ q ∈ p.bodies label, q.Spells u := by
  obtain ⟨before, rest, position, -, hm⟩ := matchAt?_of_search? h
  exact spells_of_matchAt? hm hu

/-- Of a match that a search finds, a group that is closed in any case holds a text of a part with its label. -/
theorem group_of_search? {p : Pattern} {t : Text} {label : Nat} {m : Match} (h : p.search? t = some m)
    (hp : p.closes label = true) : ∃ q ∈ p.bodies label, q.Spells (m.group label) := by
  obtain ⟨before, rest, position, -, hm⟩ := matchAt?_of_search? h
  obtain ⟨g, hg, hlabel⟩ := (reads_of_matchAt? hm).2.exists_closed hp
  have hfound : (m.stop.groups.find? fun g => g.label == label).isSome = true :=
    List.find?_isSome.mpr ⟨g, hg, beq_iff_eq.mpr hlabel⟩
  obtain ⟨taken, htaken⟩ := Option.isSome_iff_exists.mp hfound
  have hgroup : m.group? label = some (taken.opened.take taken.width) := by rw [Match.group?, htaken]; rfl
  rw [Match.group, hgroup, Option.getD_some]
  exact spells_of_search? h hgroup

theorem Spells.solid1_cons {test : Char → Bool} {s : Text} (h : (solid1 test).Spells s) :
    ∃ y u, s = y :: u ∧ test y = true ∧ ∀ x ∈ u, test x = true := by
  obtain ⟨c, d, ⟨e, ⟨y, rest, hy, htest, rfl⟩, hsolid⟩, hs⟩ := h
  obtain ⟨u, hu, hall, -⟩ := reads_solid hsolid
  have hone : c.Passed [y] ⟨y :: c.before, rest, c.position + 1, c.groups⟩ := ⟨hy, rfl, rfl⟩
  exact ⟨y, u, hs.take_eq.symm.trans (hone.trans hu).take_eq, htest, hall⟩

theorem Spells.solid1 {test : Char → Bool} {s : Text} (h : (solid1 test).Spells s) :
    ∀ x ∈ s, test x = true := by
  obtain ⟨y, u, rfl, hy, hu⟩ := h.solid1_cons
  exact List.forall_mem_cons.mpr ⟨hy, hu⟩

theorem Spells.word {w s : Text} (h : (word w).Spells s) : Text.SameLetters w s := by
  obtain ⟨c, d, hreads, hs⟩ := h
  obtain ⟨u, hu, hall⟩ := reads_word hreads
  obtain rfl : u = s := hu.take_eq.symm.trans hs.take_eq
  exact hall

theorem Spells.choice {p : Pattern} {ps : List Pattern} {s : Text} (h : (choice p ps).Spells s) :
    ∃ q ∈ p :: ps, q.Spells s := by
  induction ps generalizing p with
  | nil => exact ⟨p, List.mem_cons_self, h⟩
  | cons q ps ih =>
    obtain ⟨c, d, hp | hq, hs⟩ := h
    · exact ⟨p, List.mem_cons_self, c, d, hp, hs⟩
    · obtain ⟨r, hr, hspells⟩ := ih ⟨c, d, hq, hs⟩
      exact ⟨r, List.mem_cons_of_mem p hr, hspells⟩

end Pattern

theorem Cursor.found_of_mem_harvest {α : Type} {front : Front} {find : Cursor → Option (α × Nat)} {found : α}
    {covered position : Nat} {before t : Text} (h : found ∈ harvest front find covered position before t) :
    ∃ before' rest position' width, before.reverse ++ t = before'.reverse ++ rest ∧
      find ⟨before', rest, position', []⟩ = some (found, width) := by
  induction t generalizing covered position before with
  | nil =>
    rw [harvest] at h
    obtain ⟨⟨x, width⟩, hx, rfl⟩ : ∃ y, find ⟨before, [], position, []⟩ = some y ∧ y.1 = found := by simpa using h
    exact ⟨before, [], position, width, rfl, hx⟩
  | cons c rest ih =>
    have hbehind : ∀ {covered}, found ∈ harvest front find covered (position + 1) (c :: before) rest →
        ∃ before' rest' position' width, before.reverse ++ c :: rest = before'.reverse ++ rest' ∧
          find ⟨before', rest', position', []⟩ = some (found, width) := by
      intro covered h
      obtain ⟨before', rest', position', width, heq, hfind⟩ := ih h
      exact ⟨before', rest', position', width, by simpa using heq, hfind⟩
    cases covered with
    | succ covered => exact hbehind h
    | zero =>
      rw [harvest] at h
      split at h
      · rename_i x width hx
        rcases List.mem_cons.mp h with rfl | h
        · split at hx
          · exact ⟨before, c :: rest, position, width, rfl, hx⟩
          · cases hx
        · exact hbehind h
      · exact hbehind h

end DdlAtlas
