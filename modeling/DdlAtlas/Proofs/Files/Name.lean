import DdlAtlas.Files.Source
import DdlAtlas.Proofs.Text.Case
import DdlAtlas.Proofs.Text.Phrase
import Mathlib.Data.List.TakeWhile

/-!
# File names

A file name is cut at its last point into a stem and a suffix, and the two together give the name back.
Lower-casing keeps the points of a text, so that a suffix with one point is never an extension with two in
other letters. A file name leads a path on by exactly one part.
-/

namespace DdlAtlas

namespace Path

def IsPart (t : Text) : Prop :=
  t ≠ [] ∧ t ≠ ['.'] ∧ '/' ∉ t

theorem ofText_of_isPart {t : Text} (h : IsPart t) : ofText t = ⟨[], [t]⟩ := by
  obtain ⟨hne, hpoint, hslash⟩ := h
  have hroot : rootOf t = [] := by
    obtain ⟨c, rest, rfl⟩ := List.exists_cons_of_ne_nil hne
    have hc : c ≠ '/' := fun he => hslash (he ▸ List.mem_cons_self)
    simp [rootOf, hc]
  simp [ofText, hroot, Text.cells_of_not_mem hslash, hne, hpoint]

theorem isPart_of_mem_ofText {t part : Text} (h : part ∈ (ofText t).parts) : IsPart part := by
  obtain ⟨hcell, hkept⟩ := List.mem_filter.mp h
  have hslash := Text.not_mem_of_mem_cells hcell
  simp only [Bool.and_eq_true, bne_iff_ne] at hkept
  exact ⟨hkept.1, hkept.2, hslash⟩

theorem extend_of_isPart (p : Path) {t : Text} (h : IsPart t) :
    p.extend t = ⟨p.root, p.parts ++ [t]⟩ := by
  rw [extend, ofText_of_isPart h]
  rfl

theorem takeWhile_reverse {b : Text} (h : '.' ∉ b) (s : Text) :
    (s ++ '.' :: b).reverse.takeWhile (· != '.') = b.reverse := by
  have hreverse : (s ++ '.' :: b).reverse = b.reverse ++ '.' :: s.reverse := by simp
  have hall : ∀ x ∈ b.reverse, (x != '.') = true := by
    intro x hx
    have : x ≠ '.' := fun he => h (he ▸ List.mem_reverse.mp hx)
    simpa using this
  rw [hreverse, List.takeWhile_append_of_pos hall]
  simp

theorem splitSuffix_append {s b : Text} (h : '.' ∉ b) :
    splitSuffix (s ++ '.' :: b) = if s = [] ∨ b = [] then (s ++ '.' :: b, []) else (s, '.' :: b) := by
  have hwidth : (s ++ '.' :: b).length - b.length - 1 = s.length := by
    simp only [List.length_append, List.length_cons]
    omega
  have hlong : b.length ≠ (s ++ '.' :: b).length := by
    simp only [List.length_append, List.length_cons]
    omega
  rw [splitSuffix]
  simp only [takeWhile_reverse h, List.length_reverse, List.reverse_reverse, hwidth, List.take_left]
  by_cases hs : s = []
  · simp [hs]
  · by_cases hb : b = []
    · simp [hb]
    · simp [hs, hb, -List.length_append, hlong]

theorem splitSuffix_of_not_mem {name : Text} (h : '.' ∉ name) : splitSuffix name = (name, []) := by
  have hback : name.reverse.takeWhile (· != '.') = name.reverse := by
    rw [List.takeWhile_eq_self_iff]
    intro x hx
    have : x ≠ '.' := fun he => h (he ▸ List.mem_reverse.mp hx)
    simpa using this
  rw [splitSuffix]
  simp [hback]

theorem exists_last_point {name : Text} (h : '.' ∈ name) : ∃ s b, name = s ++ '.' :: b ∧ '.' ∉ b := by
  obtain ⟨u, v, hname, hu⟩ := List.eq_append_cons_of_mem (List.mem_reverse.mpr h)
  refine ⟨v.reverse, u.reverse, ?_, fun hm => hu (List.mem_reverse.mp hm)⟩
  rw [← List.reverse_reverse name, hname]
  simp

theorem stem_append_suffix (name : Text) : stem name ++ suffix name = name := by
  rw [stem, suffix]
  by_cases h : '.' ∈ name
  · obtain ⟨s, b, rfl, hb⟩ := exists_last_point h
    rw [splitSuffix_append hb]
    split <;> simp
  · simp [splitSuffix_of_not_mem h]

theorem count_suffix_le (name : Text) : (suffix name).count '.' ≤ 1 := by
  rw [suffix]
  by_cases h : '.' ∈ name
  · obtain ⟨s, b, rfl, hb⟩ := exists_last_point h
    rw [splitSuffix_append hb]
    split
    · simp
    · simp [List.count_eq_zero.mpr hb]
  · simp [splitSuffix_of_not_mem h]

theorem lower_suffix_append_iff {name e : Text} (hname : name ≠ []) :
    Text.lower (suffix (name ++ '.' :: e)) = Text.lower ('.' :: e) ↔ e ≠ [] ∧ '.' ∉ e := by
  constructor
  · intro h
    have hcount := congrArg (List.count '.') h
    rw [Text.count_lower (by decide), Text.count_lower (by decide), List.count_cons_self] at hcount
    have hone := count_suffix_le (name ++ '.' :: e)
    have hpoint : '.' ∉ e := by
      rw [← List.count_eq_zero]
      omega
    refine ⟨?_, hpoint⟩
    rintro rfl
    rw [suffix, splitSuffix_append hpoint, if_pos (.inr rfl)] at hcount
    simp at hcount
  · rintro ⟨he, hpoint⟩
    rw [suffix, splitSuffix_append hpoint, if_neg (not_or.mpr ⟨hname, he⟩)]

end Path

namespace Source

open DdlAtlas.Path

theorem isName_iff {name : Text} :
    isName name = true ↔ IsPart name ∧ name ≠ ['.', '.'] ∧ '\\' ∉ name := by
  simp [isName, IsPart]
  tauto

theorem isPart_filenameOf {name extension : Text} (hname : isName name = true) (hslash : '/' ∉ extension) :
    IsPart (filenameOf name extension) ∧ filenameOf name extension ≠ ['.', '.'] := by
  obtain ⟨⟨hne, hpoint, hinner⟩, hup, -⟩ := isName_iff.mp hname
  unfold filenameOf
  split
  · exact ⟨⟨hne, hpoint, hinner⟩, hup⟩
  · obtain ⟨c, rest, rfl⟩ := List.exists_cons_of_ne_nil hne
    refine ⟨⟨by simp, fun h => ?_, by simp_all⟩, fun h => ?_⟩
    · obtain ⟨rfl, hrest⟩ := List.cons.inj h
      exact hpoint (by rw [(List.append_eq_nil_iff.mp hrest).1])
    · cases rest <;> simp_all

theorem resolve_eq_ok_iff {folder name extension : Text} {path : Path} (hslash : '/' ∉ extension) :
    resolve folder name extension = .ok path ↔ isName name = true ∧
      path = ⟨(ofText folder).root, (ofText folder).parts ++ [filenameOf name extension]⟩ := by
  unfold resolve
  split
  · rename_i hname
    rw [extend_of_isPart _ (isPart_filenameOf hname hslash).1]
    simp [hname, eq_comm]
  · rename_i hname
    simp [hname]

theorem exists_part_of_resolve {folder name extension : Text} {path : Path} (hname : IsPart name)
    (h : resolve folder name extension = .ok path) : ∃ more, name ++ more ∈ path.parts := by
  obtain ⟨hne, hpoint, hslash⟩ := hname
  obtain ⟨x, hx⟩ : ∃ x, filenameOf name extension = name ++ x := by
    unfold filenameOf
    split
    · exact ⟨[], (List.append_nil _).symm⟩
    · exact ⟨extension, rfl⟩
  obtain ⟨u, us, hu⟩ := List.exists_cons_of_ne_nil (Text.cells_ne_nil '/' x)
  have hcell : name ++ u ∈ Text.cells '/' (name ++ x) := by
    rw [Text.cells_append hslash, hu]
    exact List.mem_cons_self
  have hkept : (name ++ u != [] && name ++ u != ['.']) = true := by
    have hwhole : name ++ u ≠ ['.'] := by
      intro heq
      rcases List.append_eq_singleton_iff.mp heq with ⟨hnil, -⟩ | ⟨hdot, -⟩
      · exact hne hnil
      · exact hpoint hdot
    simp [hne, hwhole]
  refine ⟨u, ?_⟩
  unfold resolve at h
  split at h
  · obtain rfl := Except.ok.inj h
    have hmem : name ++ u ∈ (ofText (filenameOf name extension)).parts := by
      rw [hx]
      exact List.mem_filter.mpr ⟨hcell, hkept⟩
    unfold extend
    dsimp only
    split
    · exact List.mem_append_right _ hmem
    · exact hmem
  · simp at h

end Source

end DdlAtlas
