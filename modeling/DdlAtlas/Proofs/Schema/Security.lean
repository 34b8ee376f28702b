import DdlAtlas.Command.Run
import DdlAtlas.Proofs.Schema.Attachment
import DdlAtlas.Schema.Finding

/-!
# Row-level security as it is reported

Every table of a schema is in one of three states: its row-level security is off, on without a policy, or on
with policies. The state follows from the name alone, so that tables of one name are in one state. Whoever
reports on the tables reads the state anew: two findings, the context of a chat and the printed summary. They
all agree.
-/

namespace DdlAtlas

open Sql

inductive Security
  | off
  | closed
  | granted
deriving DecidableEq, Repr

def Sql.Statements.security (found : Statements) (name : Text) : Security :=
  if found.policiesOn name ≠ [] then .granted
  else if found.switched.contains name then .closed
  else .off

namespace Security

def holds : Security → Table → Bool
  | off, t => !t.rlsEnabled
  | closed, t => t.rlsEnabled && t.policies.isEmpty
  | granted, t => !t.policies.isEmpty

def contextLines (policies : List Policy) : Security → List Text
  | off => []
  | closed => ["  -- RLS ENABLED", "  -- NO POLICIES: all access is denied"]
  | granted => "  -- RLS ENABLED" :: "  -- Policies:" :: policies.map (·.contextLine)

def summaryLines (policies : List Policy) : Security → List Text
  | off => []
  | closed => [Command.line ["  !! RLS enabled with no policies: all access is denied"]]
  | granted => policies.map fun p =>
    Command.line ["  [", p.clauses.command, "] ", p.name, ": ", p.plainEnglish]

end Security

namespace Table

/-- A table in a state and in no other, and what is said about it. -/
structure InState (t : Table) (state : Security) : Prop where
  holds_iff : ∀ other : Security, other.holds t = true ↔ other = state
  context : t.contextLines = Text.concat ["TABLE ", t.name, " (schema: ", t.schema, "):"] ::
    (t.columns.map (·.contextLine) ++ t.foreignKeys.map (·.contextLine) ++ state.contextLines t.policies)
  summary : Command.tableSummary t = Text.concat
    (Command.line ["\n", t.schema, ".", t.name, " (", .ofNat t.columns.length, " columns, ",
        if state = .off then "no RLS" else "RLS", ")"] ::
      (t.foreignKeys.map fun k =>
        Command.line ["  ", k.column, " -> ", k.referencedTable, "(", k.referencedColumn, ")"]) ++
      state.summaryLines t.policies)

theorem inState_off {t : Table} (hrls : t.rlsEnabled = false) (hp : t.policies = []) : t.InState .off where
  holds_iff other := by cases other <;> simp [Security.holds, hrls, hp]
  context := by simp [contextLines, securityLines, Security.contextLines, hrls]
  summary := by simp [Command.tableSummary, Table.deniesAll, Security.summaryLines, hrls, hp]

theorem inState_closed {t : Table} (hrls : t.rlsEnabled = true) (hp : t.policies = []) : t.InState .closed where
  holds_iff other := by cases other <;> simp [Security.holds, hrls, hp]
  context := by simp [contextLines, securityLines, Security.contextLines, hrls, hp]
  summary := by simp [Command.tableSummary, Table.deniesAll, Security.summaryLines, hrls, hp]

theorem inState_granted {t : Table} (hrls : t.rlsEnabled = true) (hp : t.policies ≠ []) :
    t.InState .granted where
  holds_iff other := by cases other <;> simp [Security.holds, hrls, hp]
  context := by simp [contextLines, securityLines, Security.contextLines, hrls, hp]
  summary := by simp [Command.tableSummary, Table.deniesAll, Security.summaryLines, hrls, hp]

theorem StandsFor.inState {found : Statements} {declared : TableStatement} {t : Table}
    (h : t.StandsFor found declared) : t.InState (found.security t.name) := by
  rw [Statements.security, ← h.policies_eq]
  by_cases hp : t.policies = []
  · rw [if_neg (not_not.mpr hp)]
    by_cases hswitch : t.name ∈ found.switched
    · rw [if_pos (List.contains_iff_mem.mpr hswitch)]
      exact inState_closed (h.rlsEnabled.mpr (.inl hswitch)) hp
    · rw [if_neg (mt List.contains_iff_mem.mp hswitch)]
      refine inState_off (Bool.eq_false_iff.mpr fun hrls => ?_) hp
      exact (h.rlsEnabled.mp hrls).elim hswitch fun hne => hne hp
  · rw [if_pos hp]
    exact inState_granted (h.rlsEnabled.mpr (.inr hp)) hp

end Table

namespace Schema

def reported (s : Schema) (kind : Text) : List (List Text) :=
  (s.findings.filter (·.kind == kind)).map (·.tables)

theorem reported_findingOn (severity : Severity) (kind own : Text) (names : List Text)
    (message : Text → Text) (prompt : Text → List Text) :
    (((findingOn severity own names message prompt).toList.filter (·.kind == kind)).map (·.tables)) =
      if own = kind then [names].filter (!·.isEmpty) else [] := by
  by_cases hnames : names = []
  · simp [findingOn, hnames]
  · by_cases hkind : own = kind <;> simp [findingOn, hnames, hkind]

theorem reported_dangling (s : Schema) {kind : Text} (h : "unresolved_reference".toList ≠ kind) :
    ((s.dangling.toList.filter (·.kind == kind)).map (·.tables)) = [] := by
  unfold dangling
  split
  · rfl
  · rw [Option.toList_some, List.filter_cons_of_neg (by simpa only [beq_iff_eq] using h)]
    rfl

theorem findings_eq (s : Schema) : s.findings =
    s.missingPrimaryKeys.toList ++ s.withoutRls.toList ++ s.closedToAll.toList ++ s.isolated.toList ++
      s.dangling.toList := by
  have hflat : ∀ checks : List (Option Finding), checks.filterMap id = checks.flatMap Option.toList := by
    intro checks
    exact List.filterMap_eq_flatMap_toList id checks
  rw [findings, hflat]
  simp

theorem reported_eq (s : Schema) {kind : Text} (h : "unresolved_reference".toList ≠ kind) :
    s.reported kind =
      (if "missing_primary_key".toList = kind then
        [s.namesWhere fun t => !t.columns.any (·.isPrimaryKey)].filter (!·.isEmpty) else []) ++
      (if "rls_disabled".toList = kind then [s.namesWhere Security.off.holds].filter (!·.isEmpty) else []) ++
      (if "rls_without_policies".toList = kind then
        [s.namesWhere Security.closed.holds].filter (!·.isEmpty) else []) ++
      (if "isolated_table".toList = kind then
        [s.namesWhere fun t => t.foreignKeys.isEmpty && !s.referencedTables.contains t.name &&
          t.name != exemptTable].filter (!·.isEmpty) else []) := by
  rw [reported, findings_eq]
  simp only [List.filter_append, List.map_append, reported_dangling s h, List.append_nil]
  rw [missingPrimaryKeys, withoutRls, closedToAll, isolated, reported_findingOn, reported_findingOn,
    reported_findingOn, reported_findingOn]
  rfl

theorem reported_off (s : Schema) :
    s.reported "rls_disabled" = [s.namesWhere Security.off.holds].filter (!·.isEmpty) := by
  rw [reported_eq s (by decide), if_neg (by decide), if_pos rfl, if_neg (by decide), if_neg (by decide)]
  simp only [List.nil_append, List.append_nil]

theorem reported_closed (s : Schema) :
    s.reported "rls_without_policies" = [s.namesWhere Security.closed.holds].filter (!·.isEmpty) := by
  rw [reported_eq s (by decide), if_neg (by decide), if_neg (by decide), if_pos rfl, if_neg (by decide)]
  simp only [List.nil_append, List.append_nil]

end Schema

end DdlAtlas
