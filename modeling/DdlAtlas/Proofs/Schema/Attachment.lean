import DdlAtlas.Proofs.Comment.Lines
import DdlAtlas.Proofs.Schema.Parsed
import DdlAtlas.Proofs.Text.Mention
import Mathlib

/-!
# Policies and their tables

Every table of a schema stands for one declaration of the text and takes exactly the policies on its own
name, so that a policy on a name that two schemas share is taken twice, and one on a name that no table
has is taken nowhere. The counts over the tables agree with the counts over the policies: both count the
pairs of a table and a policy on its name.
-/

namespace DdlAtlas

open Sql

theorem sum_countP_comm {α β : Type} (related : α → β → Bool) (l : List α) (u : List β) :
    (l.map fun a => u.countP (related a)).sum = (u.map fun b => l.countP (related · b)).sum := by
  induction l with
  | nil => simp
  | cons a l ih =>
    have hrow : u.countP (related a) = (u.map fun b => if related a b then 1 else 0).sum := by
      clear ih
      induction u with
      | nil => rfl
      | cons b u ih => simp [List.countP_cons, ih, Nat.add_comm]
    simp only [List.map_cons, List.sum_cons, List.countP_cons, List.sum_map_add, ih, hrow]
    exact Nat.add_comm _ _

theorem Totals.sum_eq (count : Table → Nat) (ts : List Table) :
    Totals.sum count ts = (ts.map count).sum := by
  induction ts with
  | nil => rfl
  | cons t ts ih => rw [Totals.sum, ih, List.map_cons, List.sum_cons]

theorem Sql.Statements.policiesOn_eq_nil_iff {found : Statements} {name : Text} :
    found.policiesOn name = [] ↔ ∀ p ∈ found.policies, p.table ≠ name := by
  simp [Statements.policiesOn]

theorem Sql.Statements.length_policiesOn (found : Statements) (name : Text) :
    (found.policiesOn name).length = found.policies.countP (·.table == name) := by
  simp [Statements.policiesOn, List.countP_eq_length_filter]

structure Table.StandsFor (found : Statements) (declared : TableStatement) (t : Table) : Prop where
  name : t.name = declared.name
  schema : t.schema = declared.schema
  body : TableBody.read declared.body declared.name = .ok ⟨t.columns, t.primaryKeys, t.foreignKeys⟩
  policies : t.policies = (found.policies.filter (·.table == t.name)).map fun p =>
    ⟨p.name, policyClauses p.body, Prose.sentence (policyClauses p.body)⟩
  rlsEnabled : t.rlsEnabled = true ↔ t.name ∈ found.switched ∨ t.policies ≠ []
  deniesAll : t.deniesAll = true ↔ t.name ∈ found.switched ∧ ∀ p ∈ found.policies, p.table ≠ t.name

def Table.Carries (t : Table) (p : PolicyStatement) : Prop :=
  t.name = p.table ∧ Policy.ofStatement p ∈ t.policies

theorem Table.standsFor_of_ofStatement {found : Statements} {declared : TableStatement} {t : Table}
    (h : Table.ofStatement found declared = .ok t) : t.StandsFor found declared := by
  obtain ⟨b, hb, rfl⟩ := Table.ofStatement_eq_ok h
  refine ⟨rfl, rfl, hb, rfl, by simp, ?_⟩
  rw [← Statements.policiesOn_eq_nil_iff]
  by_cases hp : found.policiesOn declared.name = [] <;> simp [Table.deniesAll, hp]

theorem Table.StandsFor.policies_eq {found : Statements} {declared : TableStatement} {t : Table}
    (h : t.StandsFor found declared) : t.policies = found.policiesOn t.name :=
  h.policies

theorem Table.StandsFor.carries_iff {found : Statements} {declared : TableStatement} {t : Table}
    (h : t.StandsFor found declared) {p : PolicyStatement} (hp : p ∈ found.policies) :
    t.Carries p ↔ t.name = p.table := by
  refine ⟨And.left, fun hname => ⟨hname, ?_⟩⟩
  rw [h.policies_eq, Statements.policiesOn]
  exact List.mem_map_of_mem (List.mem_filter.mpr ⟨hp, by simp [hname]⟩)

namespace Schema

/-- The tables of a schema stand for the declarations of its text, one for one; a policy of the text is
left out just when no table has the name it is on; and the totals are sums over the tables, that of the
policies counting each policy of the text once for every table of its name. -/
theorem parse_attaches (t : Text) :
    ∃ s, parse t = .ok s ∧
      List.Forall₂ (fun declared table => table.StandsFor (Statements.locate t).1 declared)
        (Statements.locate t).1.tables s.tables ∧
      (∀ p ∈ (Statements.locate t).1.policies,
        (¬∃ table ∈ s.tables, table.Carries p) ↔ ∀ table ∈ s.tables, table.name ≠ p.table) ∧
      s.totals = ⟨s.tables.length, (s.tables.map (·.columns.length)).sum,
        (s.tables.map (·.foreignKeys.length)).sum, (s.tables.map (·.policies.length)).sum,
        (s.tables.filter (·.rlsEnabled)).length⟩ ∧
      s.totals.policies =
        ((Statements.locate t).1.policies.map fun p => s.tables.countP (·.name = p.table)).sum := by
  obtain ⟨s, hs, hall⟩ := parse_total t
  have hstands : ∀ table ∈ s.tables, ∃ declared, table.StandsFor (Statements.locate t).1 declared := by
    intro table htable
    obtain ⟨declared, -, hdeclared⟩ := exists_of_mem_forall₂ hall htable
    exact ⟨declared, Table.standsFor_of_ofStatement hdeclared⟩
  refine ⟨s, hs, hall.imp fun _ _ h => Table.standsFor_of_ofStatement h, fun p hp => ?_, ?_, ?_⟩
  · simp only [not_exists, not_and]
    refine forall₂_congr fun table htable => not_congr ?_
    obtain ⟨declared, hdeclared⟩ := hstands table htable
    exact hdeclared.carries_iff hp
  · simp only [totals, Totals.ofTables, Totals.sum_eq, List.countP_eq_length_filter]
  -- both sides count the pairs of a table and a policy on its name
  · have hlengths : s.tables.map (·.policies.length) =
        s.tables.map fun table => (Statements.locate t).1.policies.countP (·.table = table.name) := by
      refine List.map_congr_left fun table htable => ?_
      obtain ⟨declared, hdeclared⟩ := hstands table htable
      rw [hdeclared.policies_eq, Statements.length_policiesOn]
      exact List.countP_congr fun p _ => by simp
    calc s.totals.policies = (s.tables.map (·.policies.length)).sum := Totals.sum_eq _ _
      _ = _ := congrArg List.sum hlengths
      _ = _ := sum_countP_comm (fun (table : Table) (p : PolicyStatement) => p.table = table.name) _ _
      _ = _ := by simp [eq_comm]

def sharedNames : Text :=
  .concat ["CREATE TABLE a.t (x int);\n", "CREATE TABLE b.t (y int);\n", "CREATE TABLE u (z int);\n",
    "ALTER TABLE u ENABLE ROW LEVEL SECURITY;\n", "CREATE POLICY p ON t USING (x > 0);\n",
    "CREATE POLICY q ON gone USING (true);\n"]

theorem parse_sharedNames : ∃ s, parse sharedNames = .ok s ∧
    (Statements.locate sharedNames).1.policies = [⟨"p", "t", "USING (x > 0)"⟩, ⟨"q", "gone", "USING (true)"⟩] ∧
    s.tables.map (·.name) = ["t".toList, "t".toList, "u".toList] ∧
    s.tables.map (·.policies.length) = [1, 1, 0] ∧
    s.tables.map (·.deniesAll) = [false, false, true] ∧
    (¬∃ table ∈ s.tables, table.Carries ⟨"q", "gone", "USING (true)"⟩) ∧
    s.totals.policies = 2 := by
  have hunmarked : Unmarked sharedNames := by decide +kernel
  have hfound : (Statements.locate sharedNames).1 =
      ⟨["u"], [⟨"p", "t", "USING (x > 0)"⟩, ⟨"q", "gone", "USING (true)"⟩],
        [⟨"a", "t", "x int"⟩, ⟨"b", "t", "y int"⟩, ⟨"public", "u", "z int"⟩]⟩ := by
    simp only [Statements.locate, hunmarked.withoutComments_eq]
    decide +kernel
  obtain ⟨s, hs, hstands, habsent, -, hcount⟩ := parse_attaches sharedNames
  rw [hfound] at hstands habsent hcount
  simp only [List.forall₂_cons_left_iff, List.forall₂_nil_left_iff] at hstands
  obtain ⟨a, _, ha, ⟨b, _, hb, ⟨c, _, hc, rfl, rfl⟩, rfl⟩, htables⟩ := hstands
  have hnames : a.name = "t".toList ∧ b.name = "t".toList ∧ c.name = "u".toList :=
    ⟨ha.name, hb.name, hc.name⟩
  have hlengths : a.policies.length = 1 ∧ b.policies.length = 1 ∧ c.policies.length = 0 := by
    rw [ha.policies, hb.policies, hc.policies, hnames.1, hnames.2.1, hnames.2.2]
    decide
  have hdenied : a.deniesAll = false ∧ b.deniesAll = false ∧ c.deniesAll = true := by
    refine ⟨Bool.eq_false_iff.mpr fun h => ?_, Bool.eq_false_iff.mpr fun h => ?_, hc.deniesAll.mpr ?_⟩
    · exact (ha.deniesAll.mp h).2 _ List.mem_cons_self hnames.1.symm
    · exact (hb.deniesAll.mp h).2 _ List.mem_cons_self hnames.2.1.symm
    · rw [hnames.2.2]
      decide
  refine ⟨s, hs, congrArg Statements.policies hfound, ?_, ?_, ?_, (habsent _ (by simp)).mpr ?_, ?_⟩
  · simp [htables, hnames]
  · simp [htables, hlengths]
  · simp [htables, hdenied]
  · simp [htables, hnames]
  · rw [hcount, htables]
    simp [hnames]

end Schema

end DdlAtlas
