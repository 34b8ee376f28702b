import DdlAtlas.Pattern.Search
import Mathlib.Logic.Relation

/-!
# What a pattern reads

The ways in which a pattern leads from one reading position to another, without the order in which a
run tries them. Whatever a run finds is such a way, so that a text in which there is none is known not
to match. Each way reads a stretch of the text.
-/

namespace DdlAtlas

structure Cursor.Passed (c : Cursor) (s : Text) (d : Cursor) : Prop where
  rest : c.rest = s ++ d.rest
  before : d.before = s.reverse ++ c.before
  position : d.position = c.position + s.length

namespace Cursor.Passed

theorem refl (c : Cursor) : c.Passed [] c :=
  ⟨rfl, rfl, rfl⟩

theorem trans {c d e : Cursor} {s t : Text} (h : c.Passed s d) (h' : d.Passed t e) :
    c.Passed (s ++ t) e where
  rest := by rw [h.rest, h'.rest, List.append_assoc]
  before := by rw [h'.before, h.before, List.reverse_append, List.append_assoc]
  position := by rw [h'.position, h.position, List.length_append, Nat.add_assoc]

theorem cons {before rest s : Text} {position : Nat} {groups : List Capture} {x : Char} {d : Cursor}
    (h : Passed ⟨x :: before, rest, position + 1, groups⟩ s d) :
    Passed ⟨before, x :: rest, position, groups⟩ (x :: s) d where
  rest := congrArg (x :: ·) h.rest
  before := by simpa using h.before
  position := by
    rw [h.position, List.length_cons, Nat.add_assoc, Nat.add_comm 1]

theorem take_eq {c d : Cursor} {s : Text} (h : c.Passed s d) :
    c.rest.take (d.position - c.position) = s := by
  have hlen : d.position - c.position = s.length := by
    have := h.position
    omega
  rw [h.rest, hlen, List.take_left]

theorem close {c d : Cursor} {s : Text} (h : c.Passed s d) (label : Nat) (opened : Cursor) :
    c.Passed s (d.close label opened) :=
  ⟨h.rest, h.before, h.position⟩

end Cursor.Passed

namespace Cursor

theorem passed_past (test : Char → Bool) (groups : List Capture) (position : Nat)
    (before rest : Text) (others : List Capture) :
    ∃ s, (∀ x ∈ s, test x = true) ∧
      Passed ⟨before, rest, position, others⟩ s (past test groups position before rest) := by
  induction rest generalizing position before with
  | nil => exact ⟨[], by simp, ⟨rfl, rfl, rfl⟩⟩
  | cons c rest ih =>
    unfold past
    split
    · rename_i hc
      obtain ⟨s, hs, hp⟩ := ih (position + 1) (c :: before)
      exact ⟨c :: s, by simpa [hc] using hs, hp.cons⟩
    · exact ⟨[], by simp, ⟨rfl, rfl, rfl⟩⟩

theorem groups_past (test : Char → Bool) (groups : List Capture) (position : Nat)
    (before rest : Text) : (past test groups position before rest).groups = groups := by
  induction rest generalizing position before with
  | nil => rfl
  | cons c rest ih =>
    unfold past
    split
    · exact ih ..
    · rfl

theorem mem_reach_cons {test : Char → Bool} {stop : Front} {groups : List Capture} {position : Nat}
    {before rest : Text} {c : Char} {d : Cursor}
    (h : d ∈ reach test stop groups position before (c :: rest)) :
    d = ⟨before, c :: rest, position, groups⟩ ∨
      test c = true ∧ d ∈ reach test stop groups (position + 1) (c :: before) rest := by
  have hfurther : d ∈ (if test c = true then reach test stop groups (position + 1) (c :: before) rest else []) →
      test c = true ∧ d ∈ reach test stop groups (position + 1) (c :: before) rest := by
    intro hd
    split at hd
    · exact ⟨‹_›, hd⟩
    · simp at hd
  unfold reach at h
  simp only at h
  split at h
  · exact (List.mem_cons.mp h).imp_right hfurther
  · exact .inr (hfurther h)

theorem groups_of_mem_reach {test : Char → Bool} {stop : Front} {groups : List Capture}
    {position : Nat} {before rest : Text} {d : Cursor}
    (h : d ∈ reach test stop groups position before rest) : d.groups = groups := by
  induction rest generalizing position before with
  | nil =>
    simp only [reach, List.mem_singleton] at h
    rw [h]
  | cons c rest ih =>
    rcases mem_reach_cons h with rfl | ⟨-, hd⟩
    · rfl
    · exact ih hd

theorem passed_of_mem_reach {test : Char → Bool} {stop : Front} {groups : List Capture}
    {position : Nat} {before rest : Text} {d : Cursor}
    (h : d ∈ reach test stop groups position before rest) (others : List Capture) :
    ∃ s, (∀ x ∈ s, test x = true) ∧ Passed ⟨before, rest, position, others⟩ s d := by
  induction rest generalizing position before with
  | nil =>
    simp only [reach, List.mem_singleton] at h
    subst h
    exact ⟨[], by simp, ⟨rfl, rfl, rfl⟩⟩
  | cons c rest ih =>
    rcases mem_reach_cons h with rfl | ⟨hc, hd⟩
    · exact ⟨[], by simp, ⟨rfl, rfl, rfl⟩⟩
    · obtain ⟨s, hs, hp⟩ := ih hd
      exact ⟨c :: s, by simpa [hc] using hs, hp.cons⟩

end Cursor

namespace Pattern

/-- The pattern can lead from the one position to the other. -/
def Reads : Pattern → Cursor → Cursor → Prop
  | .empty, c, d => d = c
  | .one test, c, d => ∃ x rest, c.rest = x :: rest ∧ test x = true ∧
      d = ⟨x :: c.before, rest, c.position + 1, c.groups⟩
  | .seq p q, c, d => ∃ e, p.Reads c e ∧ q.Reads e d
  | .alt p q, c, d => p.Reads c d ∨ q.Reads c d
  | .solid test, c, d => d = Cursor.past test c.groups c.position c.before c.rest
  | .longest test stop, c, d | .shortest test stop, c, d =>
    d ∈ Cursor.reach test stop c.groups c.position c.before c.rest
  | .many p, c, d => Relation.ReflTransGen p.Reads c d
  | .group label p, c, d => ∃ e, p.Reads c e ∧ d = e.close label c
  | .ahead p, c, d => d = c ∧ ∃ e, p.Reads c e
  | .notBehind width p, c, d => d = c ∧ ((c.back? width).bind (p.run some)) = none
  | .wordEdge, c, d => d = c ∧ c.atWordEdge = true
  | .textStart, c, d => d = c ∧ c.before = []
  | .textEnd, c, d => d = c ∧ c.rest = []
  | .lineEnd, c, d => d = c ∧ c.atLineEnd = true

theorem rounds_reads {step : (Cursor → Option Cursor) → Cursor → Option Cursor}
    {R : Cursor → Cursor → Prop}
    (hstep : ∀ {next c e}, step next c = some e → ∃ d, R c d ∧ next d = some e)
    {next : Cursor → Option Cursor} {bound : Text} {c e : Cursor}
    (h : rounds step next bound c = some e) :
    ∃ d, Relation.ReflTransGen R c d ∧ next d = some e := by
  induction bound generalizing c with
  | nil => exact ⟨c, .refl, h⟩
  | cons b bound ih =>
    rw [rounds] at h
    cases hs : step (rounds step next bound) c with
    | some f =>
      simp only [hs, Option.orElse_some, Option.some.injEq] at h
      subst h
      obtain ⟨d, hd, hn⟩ := hstep hs
      obtain ⟨d', hd', hn'⟩ := ih hn
      exact ⟨d', .head hd hd', hn'⟩
    | none => exact ⟨c, .refl, by simpa [hs] using h⟩

theorem reads_of_run {p : Pattern} {next : Cursor → Option Cursor} {c e : Cursor}
    (h : p.run next c = some e) : ∃ d, p.Reads c d ∧ next d = some e := by
  induction p generalizing next c e with
  | empty => exact ⟨c, rfl, h⟩
  | one test =>
    simp only [run] at h
    split at h
    · simp at h
    · rename_i x rest hc
      split at h
      · exact ⟨_, ⟨x, rest, hc, ‹_›, rfl⟩, h⟩
      · simp at h
  | seq p q ihp ihq =>
    obtain ⟨d, hd, hn⟩ := ihp h
    obtain ⟨d', hd', hn'⟩ := ihq hn
    exact ⟨d', ⟨d, hd, hd'⟩, hn'⟩
  | alt p q ihp ihq =>
    simp only [run] at h
    cases hp : p.run next c with
    | some f =>
      simp only [hp, Option.orElse_some, Option.some.injEq] at h
      subst h
      obtain ⟨d, hd, hn⟩ := ihp hp
      exact ⟨d, .inl hd, hn⟩
    | none =>
      obtain ⟨d, hd, hn⟩ := ihq (by simpa [hp] using h)
      exact ⟨d, .inr hd, hn⟩
  | solid test => exact ⟨_, rfl, h⟩
  | longest test stop =>
    simp only [run, Cursor.farthest_eq, List.append_nil] at h
    obtain ⟨d, hd, hn⟩ := List.exists_of_findSome?_eq_some h
    exact ⟨d, List.mem_reverse.mp hd, hn⟩
  | shortest test stop =>
    simp only [run, Cursor.firstAlong_eq] at h
    exact List.exists_of_findSome?_eq_some h
  | many p ih =>
    have hr : rounds p.run next c.rest c = some e := h
    exact rounds_reads (fun hs => ih hs) hr
  | group label p ih =>
    obtain ⟨d, hd, hn⟩ := ih h
    exact ⟨_, ⟨d, hd, rfl⟩, hn⟩
  | ahead p ih =>
    simp only [run] at h
    split at h
    · rename_i hp
      obtain ⟨f, hf⟩ := Option.isSome_iff_exists.mp hp
      obtain ⟨d, hd, -⟩ := ih hf
      exact ⟨c, ⟨rfl, d, hd⟩, h⟩
    · simp at h
  | notBehind width p _ =>
    simp only [run] at h
    split at h
    · simp at h
    · exact ⟨c, ⟨rfl, Option.not_isSome_iff_eq_none.mp ‹_›⟩, h⟩
  | wordEdge | lineEnd =>
    simp only [run] at h
    split at h
    · exact ⟨c, ⟨rfl, ‹_›⟩, h⟩
    · simp at h
  | textStart | textEnd =>
    simp only [run] at h
    split at h
    · exact ⟨c, ⟨rfl, List.isEmpty_iff.mp ‹_›⟩, h⟩
    · simp at h

theorem Reads.passed {p : Pattern} {c d : Cursor} (h : p.Reads c d) : ∃ s, c.Passed s d := by
  induction p generalizing c d with
  | empty => exact ⟨[], h ▸ .refl c⟩
  | one test =>
    obtain ⟨x, rest, hc, -, rfl⟩ := h
    exact ⟨[x], hc, rfl, rfl⟩
  | seq p q ihp ihq =>
    obtain ⟨e, hp, hq⟩ := h
    obtain ⟨s, hs⟩ := ihp hp
    obtain ⟨t, ht⟩ := ihq hq
    exact ⟨s ++ t, hs.trans ht⟩
  | alt p q ihp ihq => exact h.elim ihp ihq
  | solid test =>
    obtain rfl := h
    obtain ⟨s, -, hs⟩ := Cursor.passed_past test c.groups c.position c.before c.rest c.groups
    exact ⟨s, hs⟩
  | longest test stop | shortest test stop =>
    obtain ⟨s, -, hs⟩ := Cursor.passed_of_mem_reach h c.groups
    exact ⟨s, hs⟩
  | many p ih =>
    induction h with
    | refl => exact ⟨[], .refl c⟩
    | tail _ hstep ih' =>
      obtain ⟨s, hs⟩ := ih'
      obtain ⟨t, ht⟩ := ih hstep
      exact ⟨s ++ t, hs.trans ht⟩
  | group label p ih =>
    obtain ⟨e, hp, rfl⟩ := h
    obtain ⟨s, hs⟩ := ih hp
    exact ⟨s, hs.close label c⟩
  | ahead p _ | notBehind width p _ | wordEdge | textStart | textEnd | lineEnd =>
    exact ⟨[], h.1 ▸ .refl c⟩

def labels : Pattern → List Nat
  | .seq p q | .alt p q => p.labels ++ q.labels
  | .many p => p.labels
  | .group label p => label :: p.labels
  | _ => []

theorem Reads.groups {p : Pattern} {c d : Cursor} (h : p.Reads c d) :
    ∃ gs, d.groups = gs ++ c.groups ∧ ∀ g ∈ gs, g.label ∈ p.labels := by
  induction p generalizing c d with
  | empty => exact ⟨[], by rw [h]; rfl, by simp⟩
  | one test =>
    obtain ⟨x, rest, -, -, rfl⟩ := h
    exact ⟨[], rfl, by simp⟩
  | seq p q ihp ihq =>
    obtain ⟨e, hp, hq⟩ := h
    obtain ⟨gs, hgs, hl⟩ := ihp hp
    obtain ⟨gs', hgs', hl'⟩ := ihq hq
    refine ⟨gs' ++ gs, by rw [hgs', hgs, List.append_assoc], fun g hg => ?_⟩
    rcases List.mem_append.mp hg with hg | hg
    · exact List.mem_append_right _ (hl' g hg)
    · exact List.mem_append_left _ (hl g hg)
  | alt p q ihp ihq =>
    rcases h with hp | hq
    · obtain ⟨gs, hgs, hl⟩ := ihp hp
      exact ⟨gs, hgs, fun g hg => List.mem_append_left _ (hl g hg)⟩
    · obtain ⟨gs, hgs, hl⟩ := ihq hq
      exact ⟨gs, hgs, fun g hg => List.mem_append_right _ (hl g hg)⟩
  | solid test =>
    refine ⟨[], ?_, by simp⟩
    obtain rfl := h
    exact Cursor.groups_past ..
  | longest test stop | shortest test stop =>
    exact ⟨[], Cursor.groups_of_mem_reach h, by simp⟩
  | many p ih =>
    induction h with
    | refl => exact ⟨[], rfl, by simp⟩
    | tail _ hstep ih' =>
      obtain ⟨gs, hgs, hl⟩ := ih'
      obtain ⟨gs', hgs', hl'⟩ := ih hstep
      refine ⟨gs' ++ gs, by rw [hgs', hgs, List.append_assoc], fun g hg => ?_⟩
      rcases List.mem_append.mp hg with hg | hg
      · exact hl' g hg
      · exact hl g hg
  | group label p ih =>
    obtain ⟨e, hp, rfl⟩ := h
    obtain ⟨gs, hgs, hl⟩ := ih hp
    refine ⟨⟨label, c.rest, e.position - c.position⟩ :: gs, by simp [Cursor.close, hgs], ?_⟩
    intro g hg
    rcases List.mem_cons.mp hg with rfl | hg
    · exact List.mem_cons_self
    · exact List.mem_cons_of_mem _ (hl g hg)
  | ahead p _ | notBehind width p _ | wordEdge | textStart | textEnd | lineEnd =>
    exact ⟨[], by rw [h.1]; rfl, by simp⟩

theorem Reads.groups_eq {p : Pattern} {c d : Cursor} (h : p.Reads c d) (hp : p.labels = []) :
    d.groups = c.groups := by
  obtain ⟨gs, hgs, hl⟩ := h.groups
  rw [hp] at hl
  cases gs with
  | nil => exact hgs
  | cons g gs => exact absurd (hl g List.mem_cons_self) List.not_mem_nil

theorem reads_sequence_cons {p : Pattern} {ps : List Pattern} {c d : Cursor} :
    (sequence (p :: ps)).Reads c d ↔ ∃ e, p.Reads c e ∧ (sequence ps).Reads e d := by
  cases ps with
  | nil => simp [sequence, Reads]
  | cons q ps => rfl

theorem reads_sequence_append {ps qs : List Pattern} {c d : Cursor} :
    (sequence (ps ++ qs)).Reads c d ↔ ∃ e, (sequence ps).Reads c e ∧ (sequence qs).Reads e d := by
  induction ps generalizing c with
  | nil => simp [sequence, Reads]
  | cons p ps ih =>
    simp only [List.cons_append, reads_sequence_cons, ih]
    constructor
    · rintro ⟨e, hp, f, hps, hqs⟩
      exact ⟨f, ⟨e, hp, hps⟩, hqs⟩
    · rintro ⟨f, ⟨e, hp, hps⟩, hqs⟩
      exact ⟨e, hp, f, hps, hqs⟩

theorem reads_sequence_last {p : Pattern} {ps : List Pattern} {c d : Cursor} (hp : p ∈ ps.getLast?)
    (h : (sequence ps).Reads c d) : ∃ e, (sequence ps.dropLast).Reads c e ∧ p.Reads e d := by
  obtain ⟨qs, rfl⟩ := List.getLast?_eq_some_iff.mp hp
  rw [List.dropLast_concat]
  exact reads_sequence_append.mp h

theorem reads_exactly {w : Text} {c d : Cursor} (h : (exactly w).Reads c d) : c.Passed w d := by
  induction w generalizing c with
  | nil =>
    obtain rfl : d = c := h
    exact .refl d
  | cons p w ih =>
    obtain ⟨e, ⟨x, rest, hc, hx, rfl⟩, hd⟩ := reads_sequence_cons.mp h
    obtain rfl : x = p := beq_iff_eq.mp hx
    have hone : c.Passed [x] ⟨x :: c.before, rest, c.position + 1, c.groups⟩ := ⟨hc, rfl, rfl⟩
    exact hone.trans (ih hd)

theorem reads_of_matchAt? {p : Pattern} {c : Cursor} {m : Match} (h : p.matchAt? c = some m) :
    m.start = c ∧ p.Reads c m.stop := by
  simp only [matchAt?, Option.map_eq_some_iff] at h
  obtain ⟨e, he, rfl⟩ := h
  obtain ⟨d, hd, hde⟩ := reads_of_run he
  simp only [Option.some.injEq] at hde
  subst hde
  exact ⟨rfl, hd⟩

end Pattern

end DdlAtlas
