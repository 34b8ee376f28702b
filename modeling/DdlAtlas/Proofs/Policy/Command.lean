import DdlAtlas.Proofs.Pattern.Groups
import DdlAtlas.Proofs.Text.Case
import DdlAtlas.Sql.PolicyBody

/-!
# The command and the role of a policy

A head names a command without regard to letter case, and it is kept in capitals. This gives back one of the
five commands for every spelling but those of INSERT with a dotted i: that counts as an i and is a capital of
its own. The role is a word in any case.
-/

namespace DdlAtlas.Sql

open Pattern

def policyCommands : List Text :=
  ["ALL", "SELECT", "INSERT", "UPDATE", "DELETE"]

def dottedInsert : Text :=
  "\u0130NSERT"

def spelledCommand? (head : Text) : Option Text :=
  (commandClause.search? head).map (·.group 1)

theorem commandOf_eq (head : Text) : commandOf head = ((spelledCommand? head).map Text.capitals).getD "ALL" := by
  unfold commandOf spelledCommand?
  cases commandClause.search? head with
  | none => rfl
  | some m => rfl

theorem sameLetters_of_spelledCommand? {head s : Text} (h : spelledCommand? head = some s) :
    ∃ w ∈ policyCommands, Text.SameLetters w s := by
  obtain ⟨m, hm, rfl⟩ := Option.map_eq_some_iff.mp h
  obtain ⟨q, hq, hspells⟩ := group_of_search? hm (rfl : commandClause.closes 1 = true)
  obtain rfl := List.mem_singleton.mp
    (show q ∈ [choice (word "ALL") [word "SELECT", word "INSERT", word "UPDATE", word "DELETE"]] from hq)
  obtain ⟨r, hr, hword⟩ := hspells.choice
  obtain ⟨w, hw, rfl⟩ := List.mem_map.mp (show r ∈ policyCommands.map word from hr)
  exact ⟨w, hw, hword.word⟩

theorem capitals_of_command {w s : Text} (hw : w ∈ policyCommands) (h : Text.SameLetters w s) :
    Text.capitals s = if '\u0130' ∈ s then dottedInsert else w := by
  have hcommands : ∀ w ∈ policyCommands, w.all (fun p => 65 ≤ p.toNat && p.toNat ≤ 90) = true ∧ 'K' ∉ w ∧
      ('I' ∈ w → w = "INSERT".toList) := by
    decide
  obtain ⟨hcapitals, hk, hinsert⟩ := hcommands w hw
  have hletters := Text.mem_of_sameLetters hcapitals h
  split
  · rename_i hdotted
    obtain rfl := hinsert (hletters.1 hdotted)
    cases h with
    | @cons _ x _ s _ hrest =>
      have hlater := Text.mem_of_sameLetters (by decide) hrest
      have hplain : '\u0130' ∉ s ∧ '\u212a' ∉ s :=
        ⟨fun hs => absurd (hlater.1 hs) (by decide), fun hs => absurd (hlater.2 hs) (by decide)⟩
      obtain rfl : '\u0130' = x := (List.mem_cons.mp hdotted).resolve_right hplain.1
      have hcapital := Text.capitals_of_sameLetters (by decide) hrest hplain
      rw [Text.capitals] at hcapital ⊢
      rw [List.flatMap_cons, hcapital]
      rfl
  · exact Text.capitals_of_sameLetters hcapitals h ⟨‹_›, fun hs => hk (hletters.2 hs)⟩

/-- The command is one of the five unless the head spells it with a dotted i. -/
theorem commandOf_mem_iff (head : Text) :
    (commandOf head ∈ policyCommands ∨ commandOf head = dottedInsert) ∧
      (commandOf head ∈ policyCommands ↔ ∀ s ∈ spelledCommand? head, '\u0130' ∉ s) := by
  have hother : dottedInsert ∉ policyCommands := by decide
  rw [commandOf_eq]
  cases hs : spelledCommand? head with
  | none => exact ⟨.inl (by decide), iff_of_true (by decide) nofun⟩
  | some s =>
    obtain ⟨w, hw, hletters⟩ := sameLetters_of_spelledCommand? hs
    simp only [Option.map_some, Option.getD_some, Option.mem_some, forall_eq', capitals_of_command hw hletters]
    split
    · exact ⟨.inr rfl, iff_of_false hother (by simpa)⟩
    · exact ⟨.inl hw, iff_of_true hw ‹_›⟩

theorem rolesOf_eq (head : Text) :
    ∃ role, rolesOf head = [role] ∧ role ≠ [] ∧ ∀ x ∈ role, Text.isWord x = true := by
  unfold rolesOf
  split
  · rename_i m hm
    obtain ⟨q, hq, hspells⟩ := group_of_search? hm (rfl : roleClause.closes 1 = true)
    obtain rfl := List.mem_singleton.mp (show q ∈ [solid1 Text.isWord] from hq)
    have hword := hspells.solid1
    obtain ⟨x, more, hcons, -⟩ := hspells.solid1_cons
    have hquotes : '"' ∉ m.group 1 ∧ '\x60' ∉ m.group 1 :=
      ⟨fun hx => absurd (hword _ hx) (by decide), fun hx => absurd (hword _ hx) (by decide)⟩
    have hbare : unquoted (m.group 1) = m.group 1 := by
      rw [unquoted, Text.without_eq_self hquotes.1, Text.without_eq_self hquotes.2, Text.trim_eq_self]
      exact fun x hx => Text.not_blank_of_isWord (hword x hx)
    exact ⟨_, rfl, by rw [hbare, hcons]; simp, by rwa [hbare]⟩
  · exact ⟨_, rfl, by decide, List.all_eq_true.mp (by decide)⟩

end DdlAtlas.Sql
