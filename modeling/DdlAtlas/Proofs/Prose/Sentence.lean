import DdlAtlas.Proofs.Policy.Command
import DdlAtlas.Proofs.Table.Flat
import DdlAtlas.Schema.Assembly

/-!
# Sentences and line feeds

The sentence on a policy is put together from fixed words, a command, roles and at most one stretch of the
source, the beginning of a predicate that no idiom describes. Commands and roles are words, so that a line feed
can only come in with that stretch. The name of a policy is taken as it stands between its quotes, line feeds
included.
-/

namespace DdlAtlas

open Sql Prose

def PolicyClauses.quoted? (p : PolicyClauses) : Option Text :=
  p.using?.bind fun predicate =>
    if (idiom? usingIdioms predicate).isNone then some ((Text.trim predicate).take 60) else none

def Policy.OnOneLine (p : Policy) : Prop :=
  p.name.Flat ∧ ∀ quoted ∈ p.clauses.quoted?, quoted.Flat

namespace Sql

theorem flat_commandOf (head : Text) : (commandOf head).Flat := by
  have hcommands : ∀ command ∈ dottedInsert :: policyCommands, command.Flat := by decide
  rcases (commandOf_mem_iff head).1 with h | h
  · exact hcommands _ (List.mem_cons_of_mem _ h)
  · rw [h]
    exact hcommands _ List.mem_cons_self

theorem flat_rolesOf (head : Text) : ∀ role ∈ rolesOf head, role.Flat := by
  obtain ⟨role, hroles, -, hword⟩ := rolesOf_eq head
  rw [hroles, List.forall_mem_singleton]
  exact fun hmem => absurd (hword _ hmem) (by decide)

end Sql

namespace Prose

theorem flat_actionOf {command : Text} (h : command.Flat) : (actionOf command).Flat := by
  have hlower : Text.Flat (Text.lower command) := by
    refine List.count_eq_zero.mp ?_
    rw [Text.count_lower (by decide)]
    exact List.count_eq_zero.mpr h
  unfold actionOf
  exact Text.flat_ite (by decide) (Text.flat_ite (by decide) (Text.flat_ite (by decide)
    (Text.flat_ite (by decide) (Text.flat_ite (by decide) hlower))))

theorem flat_roleLabel {role : Text} (h : role.Flat) : (roleLabel role).Flat := by
  unfold roleLabel
  exact Text.flat_ite (by decide) (Text.flat_ite (by decide) (Text.flat_ite (by decide)
    (Text.flat_ite (by decide) h)))

theorem flat_describeRoles {roles : List Text} (h : ∀ role ∈ roles, role.Flat) : (describeRoles roles).Flat := by
  unfold describeRoles
  split
  · decide
  · exact Text.not_mem_join (by decide) (List.forall_mem_map.mpr fun role hrole => flat_roleLabel (h role hrole))

theorem flat_subject {p : PolicyClauses} (hcommand : p.command.Flat) (hroles : ∀ role ∈ p.roles, role.Flat) :
    (subject p).Flat := by
  unfold subject
  split
  · refine Text.flat_concat.mpr ?_
    simp only [List.forall_mem_cons]
    exact ⟨flat_describeRoles hroles, by decide, flat_actionOf hcommand, by decide, by simp⟩
  · refine Text.flat_concat.mpr ?_
    simp only [List.forall_mem_cons]
    exact ⟨by decide, flat_actionOf hcommand, by decide, by simp⟩

theorem flat_demand (p : PolicyClauses) : (demand p).Flat := by
  have hfragments : withCheckIdioms.all (fun i => i.fragment.all fun f => decide (Text.Flat f)) = true := by decide
  have hdescribed : ∀ {predicate fragment}, describeWithCheck? predicate = some fragment → fragment.Flat := by
    intro predicate fragment h
    unfold describeWithCheck? at h
    split at h
    · rename_i i hi
      have hall := List.all_eq_true.mp hfragments i (List.mem_of_find?_eq_some hi)
      rw [h] at hall
      exact of_decide_eq_true hall
    · obtain rfl := Option.some.inj h
      decide
  unfold demand
  split
  · exact List.not_mem_nil
  · exact List.not_mem_nil
  · refine Text.flat_ite List.not_mem_nil ?_
    split
    · exact List.not_mem_nil
    · exact List.not_mem_nil
    · exact Text.flat_append.mpr ⟨by decide, hdescribed ‹_›⟩

theorem flat_cutTo_iff {limit : Nat} {t : Text} : Text.Flat (cutTo limit t) ↔ Text.Flat (t.take limit) := by
  unfold cutTo
  split
  · have hkept : (if (limit : Int) < 0 then t.length - (limit : Int).natAbs else (limit : Int).toNat) = limit := by
      rw [if_neg (by omega), Int.toNat_natCast]
    simp only [hkept]
    rw [Text.flat_append]
    exact and_iff_left (by decide)
  · rw [List.take_of_length_le (by omega)]

theorem flat_describeUsing_iff {predicate : Text} : (describeUsing predicate).Flat ↔
    ((idiom? usingIdioms predicate).isNone = true → Text.Flat ((Text.trim predicate).take 60)) := by
  unfold describeUsing
  cases hi : idiom? usingIdioms predicate with
  | none =>
    have hquoted := @flat_cutTo_iff 60 (Text.trim predicate)
    simp only [Option.bind_none, Option.isNone_none, true_implies]
    rw [Text.flat_append]
    exact (and_iff_right (by decide)).trans hquoted
  | some i =>
    have hfragments : usingIdioms.all (fun i => i.fragment.any fun f => decide (Text.Flat f)) = true := by decide
    have hfragment := List.all_eq_true.mp hfragments i (List.mem_of_find?_eq_some hi)
    cases hf : i.fragment with
    | none => simp [hf] at hfragment
    | some fragment =>
      have hflat : fragment.Flat := by simpa [hf] using hfragment
      simp [hf, hflat]

theorem flat_condition_iff {p : PolicyClauses} : (condition p).Flat ↔ ∀ quoted ∈ p.quoted?, quoted.Flat := by
  unfold condition PolicyClauses.quoted?
  split
  · rename_i hnone
    simp [hnone, Text.Flat]
  · rename_i hempty
    simp [hempty, Text.Flat, Text.trim, Text.trimStart, Text.trimEnd]
  · rename_i predicate _ hsome
    rw [hsome, Text.flat_append, and_iff_right (by decide), flat_describeUsing_iff]
    simp

/-- The sentence on a policy is on one line just when it quotes no line feed. -/
theorem flat_sentence_iff {p : PolicyClauses} (hcommand : p.command.Flat) (hroles : ∀ role ∈ p.roles, role.Flat) :
    (sentence p).Flat ↔ ∀ quoted ∈ p.quoted?, quoted.Flat := by
  rw [sentence, Text.flat_append, Text.flat_append, and_iff_left (flat_demand p),
    and_iff_right (flat_subject hcommand hroles), flat_condition_iff]

end Prose

theorem Policy.flat_contextLine_iff (s : PolicyStatement) :
    (Policy.ofStatement s).contextLine.Flat ↔ (Policy.ofStatement s).OnOneLine := by
  have hcommand : (policyClauses s.body).command.Flat := flat_commandOf _
  have hsentence := flat_sentence_iff hcommand (flat_rolesOf _)
  rw [contextLine, Text.flat_concat]
  simp only [List.forall_mem_cons]
  constructor
  · rintro ⟨-, hname, -, -, -, hprose, -⟩
    exact ⟨hname, hsentence.mp hprose⟩
  · rintro ⟨hname, hquoted⟩
    exact ⟨by decide, hname, by decide, hcommand, by decide, hsentence.mpr hquoted, by simp⟩

end DdlAtlas
