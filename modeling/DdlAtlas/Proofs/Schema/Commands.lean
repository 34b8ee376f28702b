import DdlAtlas.Proofs.Prose.Sentence
import DdlAtlas.Proofs.Schema.Parsed

/-!
# The policies of a parsed schema

Every policy of a schema is for one role, a name without quotes and blanks. It is for one of the five commands,
and its sentence has the verb of that command, unless its head spells INSERT with a dotted i.
-/

namespace DdlAtlas

open Sql

def Prose.commandVerbs : List Text :=
  ["access", "view", "create", "modify", "remove"]

theorem Prose.actionOf_mem_iff {command : Text} (h : command ∈ policyCommands ∨ command = dottedInsert) :
    actionOf command ∈ commandVerbs ↔ command ∈ policyCommands := by
  have hverbs : ∀ command ∈ policyCommands, actionOf command ∈ commandVerbs := by decide
  have hother : actionOf dottedInsert ∉ commandVerbs := by decide +kernel
  refine ⟨fun hverb => h.resolve_right ?_, hverbs command⟩
  rintro rfl
  exact hother hverb

def Sql.PolicyStatement.spelledCommand? (s : PolicyStatement) : Option Text :=
  Sql.spelledCommand? (clauseHead (firstStatement (withoutComments s.body)))

namespace PolicyClauses

def ForOneRole (p : PolicyClauses) : Prop :=
  ∃ role, p.roles = [role] ∧ role ≠ [] ∧ ∀ x ∈ role, x ∉ ['"', '\'', '\x60'] ∧ Text.isBlank x = false

structure WellFormed (p : PolicyClauses) : Prop where
  command : p.command ∈ policyCommands
  verb : Prose.actionOf p.command ∈ Prose.commandVerbs
  role : p.ForOneRole

theorem forOneRole (body : Text) : (policyClauses body).ForOneRole := by
  obtain ⟨role, hroles, hne, hword⟩ := rolesOf_eq (clauseHead (firstStatement (withoutComments body)))
  have hmarks : ['"', '\'', '\x60'].all (fun mark => !Text.isWord mark) = true := by decide
  refine ⟨role, hroles, hne, fun x hx => ⟨fun hmark => ?_, Text.not_blank_of_isWord (hword x hx)⟩⟩
  have hnot := List.all_eq_true.mp hmarks x hmark
  rw [hword x hx] at hnot
  exact absurd hnot (by simp)

theorem wellFormed_iff (s : PolicyStatement) :
    (policyClauses s.body).WellFormed ↔ ∀ spelled ∈ s.spelledCommand?, '\u0130' ∉ spelled := by
  obtain ⟨hcommand, hspelled⟩ := commandOf_mem_iff (clauseHead (firstStatement (withoutComments s.body)))
  constructor
  · intro h
    exact hspelled.mp h.command
  · intro h
    have hmem := hspelled.mpr h
    exact ⟨hmem, (Prose.actionOf_mem_iff hcommand).mpr hmem, forOneRole s.body⟩

end PolicyClauses

namespace Schema

/-- Every policy on a table of a parsed schema is one of those found in the text. It is for one role and has a
verb just if its command is one of the five, which it is unless the head of the policy spells it with a dotted i;
and then it is INSERT with this letter. -/
theorem parse_policies_wellFormed_iff (text : Text) :
    ∃ s, parse text = .ok s ∧ ∀ t ∈ s.tables, ∀ p ∈ t.policies,
      ∃ d ∈ (Statements.locate text).1.policies, d.table = t.name ∧ p = .ofStatement d ∧ p.clauses.ForOneRole ∧
        (p.clauses.WellFormed ↔ ∀ spelled ∈ d.spelledCommand?, '\u0130' ∉ spelled) ∧
        (¬p.clauses.WellFormed → p.clauses.command = dottedInsert) := by
  obtain ⟨s, hs, hall⟩ := parse_total text
  refine ⟨s, hs, fun t ht p hp => ?_⟩
  obtain ⟨declared, -, htable⟩ := exists_of_mem_forall₂ hall ht
  obtain ⟨body, -, rfl⟩ := Table.ofStatement_eq_ok htable
  obtain ⟨d, hd, rfl⟩ := List.mem_map.mp hp
  obtain ⟨hfound, hname⟩ := List.mem_filter.mp hd
  have hiff := PolicyClauses.wellFormed_iff d
  refine ⟨d, hfound, beq_iff_eq.mp hname, rfl, PolicyClauses.forOneRole d.body, hiff, fun hnot => ?_⟩
  obtain ⟨hcommand, hspelled⟩ := commandOf_mem_iff (clauseHead (firstStatement (withoutComments d.body)))
  exact hcommand.resolve_left fun hmem => hnot (hiff.mpr (hspelled.mp hmem))

def dottedPolicy : Text :=
  "CREATE TABLE t (a int);\nCREATE POLICY p ON t FOR \u0130NSERT WITH CHECK (true);"

def parsedPolicy : Policy where
  name := "p"
  clauses := ⟨"\u0130NSERT", ["public"], none, some "true", true⟩
  plainEnglish := "Anyone can i\u0307nsert rows"

theorem parse_dottedPolicy : parse dottedPolicy =
    .ok ⟨[⟨"t", "public", [⟨"a", "int", true, none, false, false, none⟩], [], [], true, [parsedPolicy]⟩]⟩ := by
  have hfound : (Statements.locate dottedPolicy).1 =
      ⟨[], [⟨"p", "t", "FOR \u0130NSERT WITH CHECK (true)"⟩], [⟨"public", "t", "a int"⟩]⟩ := by
    have hunmarked : Unmarked dottedPolicy := by decide +kernel
    simp only [Statements.locate, hunmarked.withoutComments_eq]
    decide +kernel
  have hpolicy : Policy.ofStatement ⟨"p", "t", "FOR \u0130NSERT WITH CHECK (true)"⟩ = parsedPolicy := by
    have hunmarked : Unmarked "FOR \u0130NSERT WITH CHECK (true)" := by decide +kernel
    simp only [Policy.ofStatement, policyClauses, hunmarked.withoutComments_eq]
    decide +kernel
  rw [parse_of_locate_policy hfound, hpolicy]

theorem not_wellFormed_dottedPolicy : ∃ s, parse dottedPolicy = .ok s ∧ ∃ t ∈ s.tables, ∃ p ∈ t.policies,
    p.clauses.command ∉ policyCommands ∧ Prose.actionOf p.clauses.command ∉ Prose.commandVerbs ∧
      ¬p.clauses.WellFormed := by
  have hcommand : parsedPolicy.clauses.command ∉ policyCommands := by decide
  refine ⟨_, parse_dottedPolicy, _, List.mem_cons_self, parsedPolicy, List.mem_cons_self, hcommand, ?_, ?_⟩
  · decide +kernel
  · exact fun h => hcommand h.command

end Schema

end DdlAtlas
