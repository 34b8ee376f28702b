import DdlAtlas.Proofs.Document.Declarations
import DdlAtlas.Proofs.Document.Policies
import DdlAtlas.Proofs.Schema.Parsed

/-!
# Recovery of a document

Reading a document gives its tables back, in order, each with what its body declares, with the policies
that the document puts on its name, and under row-level security when the document says so or puts a
policy on it. How the statements are interleaved makes no difference.
-/

namespace DdlAtlas

open Sql

theorem Text.mem_distinct {t : Text} {ts : List Text} : t ∈ Text.distinct ts ↔ t ∈ ts := by
  have hfold : ∀ seen, t ∈ ts.foldl (fun seen t => if seen.contains t then seen else seen ++ [t])
      seen ↔ t ∈ seen ∨ t ∈ ts := by
    induction ts with
    | nil => simp
    | cons x ts ih =>
      intro seen
      rw [List.foldl_cons, ih]
      by_cases hx : x ∈ seen
      · simp only [List.contains_iff_mem, hx, if_true, List.mem_cons]
        constructor
        · exact fun h => h.imp_right .inr
        · rintro (h | rfl | h)
          · exact .inl h
          · exact .inl hx
          · exact .inr h
      · simp [hx, or_assoc]
  rw [Text.distinct, hfold]
  simp

namespace Sql

def Statement.declared? : Statement → Option (Mention × Text)
  | .table mention body => some (mention, body)
  | .enable _ | .policy _ _ _ => none

def Statement.policyOn? (table : Text) : Statement → Option Policy
  | .policy name mention body =>
    if mention.table.text = table then some (.ofStatement ⟨name, table, body⟩) else none
  | .table _ _ | .enable _ => none

structure Recovers (doc : List Statement) (declared : Mention × Text) (t : Table) : Prop where
  name : t.name = declared.1.table.text
  schema : t.schema = (declared.1.schema.map WrittenName.text).getD "public"
  body : TableBody.read declared.2 t.name = .ok ⟨t.columns, t.primaryKeys, t.foreignKeys⟩
  policies : t.policies = doc.filterMap (Statement.policyOn? t.name)
  rls : t.rlsEnabled = true ↔ t.name ∈ doc.filterMap Statement.switched? ∨ t.policies ≠ []

theorem swallowed_eq_nil_or_cons (doc : List Statement) :
    swallowed doc = [] ∨ ∃ rest, swallowed doc = ';' :: rest := by
  rw [swallowed]
  cases doc.takeWhile Statement.isSwallowed with
  | nil => exact .inl rfl
  | cons s more => exact .inr ⟨_, rfl⟩

theorem policyClauses_append_swallowed {name body : Text} {mention : Mention} {doc : List Statement}
    (h : ∀ s ∈ .policy name mention body :: doc, s.Canonical) :
    policyClauses (body ++ swallowed doc) = policyClauses body := by
  obtain ⟨-, -, hclosed, hquiet, -, -, hsemi⟩ := h _ List.mem_cons_self
  have hpart : body ++ swallowed doc <:+: written (.policy name mention body :: doc) := by
    rw [written_cons, ← swallowed_append]
    refine ⟨Text.concat ["CREATE POLICY \"", name, "\" ON ", mention.written, " "],
      ';' :: '\n' :: written (doc.dropWhile Statement.isSwallowed), ?_⟩
    simp [Statement.core, Text.concat]
  have hunmarked := (unmarked_written h).of_part hpart
  have hfirst : firstStatement (body ++ swallowed doc) = firstStatement body := by
    rcases swallowed_eq_nil_or_cons doc with hs | ⟨rest, hs⟩
    · rw [hs, List.append_nil]
    · rw [hs, hclosed.firstStatement_append hsemi]
  rw [policyClauses, policyClauses, hunmarked.withoutComments_eq, hquiet.1.withoutComments_eq, hfirst]

theorem policiesOn_foundPolicies {doc : List Statement} (h : ∀ s ∈ doc, s.Canonical) (table : Text) :
    ((foundPolicies doc).filter (·.table == table)).map .ofStatement =
      doc.filterMap (Statement.policyOn? table) := by
  induction doc with
  | nil => rfl
  | cons s doc ih =>
    have hdoc := ih fun r hr => h r (List.mem_cons_of_mem s hr)
    cases s with
    | table mention body | enable mention => exact hdoc
    | policy name mention body =>
      have hclauses := policyClauses_append_swallowed h
      by_cases ht : mention.table.text = table
      · have hpolicy : Policy.ofStatement ⟨name, mention.table.text, body ++ swallowed doc⟩ =
            Policy.ofStatement ⟨name, table, body⟩ := by
          simp only [Policy.ofStatement, hclauses]
        rw [foundPolicies, List.filter_cons_of_pos (by simpa using ht), List.map_cons, hpolicy, hdoc,
          List.filterMap_cons_some (by rw [Statement.policyOn?, if_pos ht])]
      · simp [foundPolicies, Statement.policyOn?, ht, ← hdoc]

theorem filterMap_statement?_head? (doc : List Statement) :
    (doc.filterMap Statement.head?).filterMap TableHead.statement? =
      (doc.filterMap Statement.declared?).map fun d => .ofHead d.1.written d.2 := by
  rw [List.filterMap_filterMap, List.map_filterMap]
  refine List.filterMap_congr fun s _ => ?_
  cases s <;> rfl

theorem locate_written {doc : List Statement} (h : ∀ s ∈ doc, s.Canonical) :
    (Statements.locate (written doc)).1 =
      ⟨Text.distinct ((doc.filterMap Statement.switched?).filter (· ≠ [])), foundPolicies doc,
        (doc.filterMap Statement.declared?).map fun d => .ofHead d.1.written d.2⟩ := by
  have hbare := (unmarked_written h).withoutComments_eq
  have hswitched : switchedTables (written doc) =
      Text.distinct ((doc.filterMap Statement.switched?).filter (· ≠ [])) := by
    rw [switchedTables, Pattern.occurrences, harvest_switches h]
  have hpolicies : policyStatements (written doc) = foundPolicies doc :=
    (harvest_policies h 0 []).1
  have hheads : tableHeads (written doc) = doc.filterMap Statement.head? := harvest_heads h 0 []
  simp only [Statements.locate, hbare, hswitched, hpolicies, hheads, filterMap_statement?_head?]

theorem ofHead_written {m : Mention} (h : m.Named) (body : Text) :
    TableStatement.ofHead m.written body =
      ⟨(m.schema.map WrittenName.text).getD "public", m.table.text, body⟩ := by
  simp only [TableStatement.ofHead, Mention.ofText_written h, h.2.unquoted_eq]

end Sql

/-- Reading a document recovers its tables, their keys and their policies. -/
theorem Schema.parse_written {doc : List Statement} (h : ∀ s ∈ doc, s.Canonical) :
    ∃ s, Schema.parse (written doc) = .ok s ∧
      List.Forall₂ (Recovers doc) (doc.filterMap Statement.declared?) s.tables := by
  obtain ⟨s, hs, hall⟩ := Schema.parse_total (written doc)
  refine ⟨s, hs, ?_⟩
  have hnamed : ∀ d ∈ doc.filterMap Statement.declared?, d.1.Named := by
    intro d hd
    obtain ⟨r, hr, hrd⟩ := List.mem_filterMap.mp hd
    cases r with
    | table mention body =>
      obtain rfl := Option.some.inj hrd
      exact (h _ hr).1.1
    | enable mention | policy name mention body => simp [Statement.declared?] at hrd
  rw [locate_written h, List.forall₂_map_left_iff] at hall
  refine ((List.forall₂_and_left _ _).mpr ⟨hnamed, hall⟩).imp fun d t hd => ?_
  obtain ⟨hd, ht⟩ := hd
  rw [ofHead_written hd] at ht
  obtain ⟨b, hb, rfl⟩ := Table.ofStatement_eq_ok ht
  have hpolicies : Statements.policiesOn ⟨Text.distinct ((doc.filterMap Statement.switched?).filter
      (· ≠ [])), foundPolicies doc, (doc.filterMap Statement.declared?).map fun d =>
        .ofHead d.1.written d.2⟩ d.1.table.text =
      doc.filterMap (Statement.policyOn? d.1.table.text) := policiesOn_foundPolicies h _
  refine ⟨rfl, rfl, hb, hpolicies, ?_⟩
  simp only [Bool.or_eq_true, List.contains_iff_mem, Text.mem_distinct, List.mem_filter,
    Bool.not_eq_true', List.isEmpty_eq_false_iff, decide_eq_true_eq]
  exact or_congr_left (and_iff_left hd.2.1)

def shopDocument : List Statement :=
  [.enable ⟨none, ⟨"orders", false⟩⟩,
    .policy "it's mine" ⟨some ⟨"shop", false⟩, ⟨"orders", true⟩⟩
      "FOR SELECT USING (owner = 'me (or) you')",
    .enable ⟨some ⟨"shop", true⟩, ⟨"items", false⟩⟩,
    .table ⟨some ⟨"shop", false⟩, ⟨"orders", false⟩⟩ "id int PRIMARY KEY, note text DEFAULT ')'",
    .table ⟨none, ⟨"items", true⟩⟩ "id int"]

theorem canonical_shopDocument : ∀ s ∈ shopDocument, s.Canonical := by
  decide +kernel

theorem Schema.parse_shopDocument :
    written shopDocument = Text.concat ["ALTER TABLE orders ENABLE ROW LEVEL SECURITY;\n",
      "CREATE POLICY \"it's mine\" ON shop.\"orders\" ",
      "FOR SELECT USING (owner = 'me (or) you');\n",
      "ALTER TABLE \"shop\".items ENABLE ROW LEVEL SECURITY;\n",
      "CREATE TABLE shop.orders (id int PRIMARY KEY, note text DEFAULT ')');\n",
      "CREATE TABLE \"items\" (id int);\n"] ∧
    (∀ s ∈ shopDocument, s.Canonical) ∧
    ∃ s, Schema.parse (written shopDocument) = .ok s ∧
      List.Forall₂ (Recovers shopDocument) (shopDocument.filterMap Statement.declared?) s.tables :=
  ⟨by decide +kernel, canonical_shopDocument, Schema.parse_written canonical_shopDocument⟩

end DdlAtlas
