import DdlAtlas.Proofs.Pattern.Language
import DdlAtlas.Prose.Sentence
import Mathlib.Data.List.Nodup

/-!
# The order of a catalogue

A predicate is described by the first idiom that occurs in it, so that an idiom is passed over where an earlier one
occurs, too. One that never occurs without an earlier one is never chosen. In the catalogue of USING predicates
this is so for the three idioms behind the keyword EXISTS, and for no other.
-/

namespace DdlAtlas.Prose

open Pattern

def Idiom.ShadowedBy (i : Idiom) (others : List Idiom) : Prop :=
  ∀ t, i.pattern.occursIn t = true → ∃ e ∈ others, e.pattern.occursIn t = true

variable {catalogue : List Idiom} {i : Idiom} {k : Nat}

theorem idiom?_eq_some_iff (hi : catalogue[k]? = some i) (hnodup : catalogue.Nodup) (predicate : Text) :
    idiom? catalogue predicate = some i ↔ i.pattern.occursIn (Text.trim predicate) = true ∧
      ∀ e ∈ catalogue.take k, e.pattern.occursIn (Text.trim predicate) = false := by
  obtain ⟨hk, hget⟩ := List.getElem?_eq_some_iff.mp hi
  have hsplit : catalogue = catalogue.take k ++ i :: catalogue.drop (k + 1) := by
    rw [← hget, List.getElem_cons_drop, List.take_append_drop]
  generalize catalogue.take k = earlier at hsplit ⊢
  generalize catalogue.drop (k + 1) = later at hsplit
  subst hsplit
  obtain ⟨hother, -⟩ := List.nodup_cons.mp (List.nodup_middle.mp hnodup)
  obtain ⟨hearlier, hlater⟩ := not_or.mp (List.mem_append.not.mp hother)
  rw [idiom?, List.find?_eq_some_iff_append]
  refine and_congr_right fun _ => ⟨?_, fun hmissed => ⟨earlier, later, rfl, by simpa using hmissed⟩⟩
  rintro ⟨front, back, hcut, hmissed⟩
  obtain ⟨rfl, -, -⟩ := (List.append_cons_inj_of_notMem hearlier hlater).mp hcut
  simpa using hmissed

theorem idiom?_map_iff {β : Type} (key : Idiom → β) (hi : catalogue[k]? = some i)
    (hkeys : (catalogue.map key).Nodup) (predicate : Text) :
    (idiom? catalogue predicate).map key = some (key i) ↔ i.pattern.occursIn (Text.trim predicate) = true ∧
      ∀ e ∈ catalogue.take k, e.pattern.occursIn (Text.trim predicate) = false := by
  rw [← idiom?_eq_some_iff hi hkeys.of_map]
  constructor
  · intro hchosen
    obtain ⟨e, he, hkey⟩ := Option.map_eq_some_iff.mp hchosen
    rw [he, List.inj_on_of_nodup_map hkeys (List.mem_of_find?_eq_some he) (List.mem_of_getElem? hi) hkey]
  · intro hchosen
    rw [hchosen, Option.map_some]

theorem idiom?_map_ne_of_shadowedBy {β : Type} (key : Idiom → β) (hi : catalogue[k]? = some i)
    (hkeys : (catalogue.map key).Nodup) (h : i.ShadowedBy (catalogue.take k)) (predicate : Text) :
    (idiom? catalogue predicate).map key ≠ some (key i) := by
  intro hchosen
  obtain ⟨hoccurs, hmissed⟩ := (idiom?_map_iff key hi hkeys predicate).mp hchosen
  obtain ⟨e, he, hearlier⟩ := h _ hoccurs
  exact Bool.eq_false_iff.mp (hmissed e he) hearlier

theorem describeUsing_eq_iff {predicate words : Text} (hwords : ¬"condition: ".toList <+: words) :
    describeUsing predicate = words ↔ (idiom? usingIdioms predicate).map (·.fragment) = some (some words) := by
  have hcondition : ∀ t : Text, ("condition: " ++ t : Text) ≠ words := by
    rintro t rfl
    exact hwords (List.prefix_append _ _)
  unfold describeUsing
  cases idiom? usingIdioms predicate with
  | none => exact iff_of_false (hcondition _) (by simp)
  | some i =>
    simp only [Option.bind_some, Option.map_some]
    cases i.fragment with
    | none => exact iff_of_false (hcondition _) (by simp)
    | some fragment => simp

theorem describeWithCheck?_eq_iff {predicate words : Text} (hwords : words ≠ "Validation required") :
    describeWithCheck? predicate = some words ↔
      (idiom? withCheckIdioms predicate).map (·.fragment) = some (some words) := by
  unfold describeWithCheck?
  cases idiom? withCheckIdioms predicate with
  | none => exact iff_of_false (fun h => hwords (Option.some.inj h).symm) (by simp)
  | some i => simp

theorem occursIn_of_existsThen {p : Pattern} {t : Text} (h : (existsThen p).occursIn t = true) :
    p.occursIn t = true := by
  obtain ⟨k, hk, hmatch⟩ := occursIn_iff.mp h
  obtain ⟨m, hm⟩ := Option.isSome_iff_exists.mp hmatch
  obtain ⟨e, he, -⟩ := Option.map_eq_some_iff.mp hm
  have hrun : (word "EXISTS").run ((longest (· != '\n') p.front).run (p.run some)) (.within t k) = some e := he
  obtain ⟨c, hkeyword, hrest⟩ := reads_of_run hrun
  obtain ⟨d, hline, hmatch⟩ := reads_of_run hrest
  obtain ⟨s, hs⟩ := hkeyword.passed
  obtain ⟨u, hu⟩ := hline.passed
  have hgroups : d.groups = [] := (hline.groups_eq rfl).trans (hkeyword.groups_eq (by decide))
  exact occursIn_of_passed hk (hs.trans hu) hgroups (by rw [matchAt?, hmatch]; rfl)

theorem shadowedBy_of_existsThen {e : Idiom} {others : List Idiom} (he : e ∈ others)
    (hi : i.pattern = existsThen e.pattern) : i.ShadowedBy others :=
  fun _ hoccurs => ⟨e, he, occursIn_of_existsThen (hi ▸ hoccurs)⟩

def shadowedNames : List Text :=
  ["exists_admin", "exists_moderator", "exists_published"]

def plainPredicates : List Text :=
  ["auth.uid() = user_id", "auth.uid() = id", "auth.uid() = sender_id OR auth.uid() = recipient_id",
    "auth.uid() = sender_id", "auth.uid() = recipient_id", "is_published = true", "auth.role() = 'authenticated'",
    "auth.role() = 'anon'", "auth.role() = 'admin'", "role = 'admin'", "role = 'moderator'", "is_admin", "true",
    "false"]

theorem nodup_fragments_usingIdioms : (usingIdioms.map (·.fragment)).Nodup := by
  decide +kernel

theorem nodup_fragments_withCheckIdioms : (withCheckIdioms.map (·.fragment)).Nodup := by
  decide +kernel

theorem nodup_names_usingIdioms : (usingIdioms.map Idiom.name).Nodup := by
  decide +kernel

theorem names_plainPredicates : plainPredicates.map (fun predicate => (idiom? usingIdioms predicate).map Idiom.name) =
    ((usingIdioms.map Idiom.name).filter fun name => !shadowedNames.contains name).map some := by
  decide +kernel

theorem shadowedBy_of_mem_shadowedNames : ∀ name ∈ shadowedNames, ∃ (k : Nat) (i : Idiom), usingIdioms[k]? = some i ∧
    i.name = name ∧ i.ShadowedBy (usingIdioms.take k) := by
  refine List.forall_mem_cons.mpr ⟨⟨11, usingIdioms[11], rfl, rfl, ?_⟩, List.forall_mem_cons.mpr
    ⟨⟨12, usingIdioms[12], rfl, rfl, ?_⟩, List.forall_mem_singleton.mpr ⟨13, usingIdioms[13], rfl, rfl, ?_⟩⟩⟩
  · exact shadowedBy_of_existsThen (List.mem_of_getElem? (i := 9) rfl) rfl
  · exact shadowedBy_of_existsThen (List.mem_of_getElem? (i := 10) rfl) rfl
  · exact shadowedBy_of_existsThen (List.mem_of_getElem? (i := 5) rfl) rfl

/-- The idioms behind EXISTS are found nowhere without an earlier one, and are never chosen. Every other idiom is
chosen for some predicate. -/
theorem idiom?_usingIdioms_names :
    (∀ name ∈ shadowedNames, ∃ (k : Nat) (i : Idiom), usingIdioms[k]? = some i ∧ i.name = name ∧
      i.ShadowedBy (usingIdioms.take k)) ∧
    ∀ name, (∃ predicate, (idiom? usingIdioms predicate).map Idiom.name = some name) ↔
      name ∈ usingIdioms.map Idiom.name ∧ name ∉ shadowedNames := by
  refine ⟨shadowedBy_of_mem_shadowedNames, fun name => ⟨?_, ?_⟩⟩
  · rintro ⟨predicate, hchosen⟩
    obtain ⟨i, hi, rfl⟩ := Option.map_eq_some_iff.mp hchosen
    refine ⟨List.mem_map_of_mem (List.mem_of_find?_eq_some hi), fun hshadowed => ?_⟩
    obtain ⟨k, j, hj, hname, hby⟩ := shadowedBy_of_mem_shadowedNames _ hshadowed
    exact idiom?_map_ne_of_shadowedBy Idiom.name hj nodup_names_usingIdioms hby predicate (hname ▸ hchosen)
  · rintro ⟨hmem, hplain⟩
    have hname : some name ∈ ((usingIdioms.map Idiom.name).filter fun name => !shadowedNames.contains name).map some :=
      List.mem_map_of_mem (List.mem_filter.mpr ⟨hmem, by simpa using hplain⟩)
    rw [← names_plainPredicates] at hname
    obtain ⟨predicate, -, hchosen⟩ := List.mem_map.mp hname
    exact ⟨predicate, hchosen⟩

end DdlAtlas.Prose
