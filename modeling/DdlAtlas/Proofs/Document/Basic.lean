import DdlAtlas.Proofs.Name.Written
import DdlAtlas.Proofs.Nesting.Closed
import DdlAtlas.Proofs.Pattern.Harvest

/-!
# Documents

A document is a list of statements, each written on lines of its own: table declarations, policies, and
the statements that switch row-level security on. The names and bodies of the statements hold no
comment and do not spell the words that begin a statement.
-/

namespace DdlAtlas.Sql

/-- No comment begins in the text, and it spells neither CREATE nor ALTER. -/
def Quiet (t : Text) : Prop :=
  Unmarked t ∧ Text.Lacks "CREATE" t ∧ Text.Lacks "ALTER" t

instance (t : Text) : Decidable (Quiet t) :=
  inferInstanceAs (Decidable (_ ∧ _))

def Mention.Proper (m : Mention) : Prop :=
  m.Named ∧ (∀ s ∈ m.schema, Quiet s.text) ∧ Quiet m.table.text ∧
    Text.folded m.written ≠ Text.folded "ONLY"

instance (m : Mention) : Decidable m.Proper :=
  inferInstanceAs (Decidable (_ ∧ _))

inductive Statement
  | table (mention : Mention) (body : Text)
  | enable (mention : Mention)
  | policy (name : Text) (mention : Mention) (body : Text)
deriving DecidableEq

namespace Statement

def core : Statement → Text
  | .table mention body => .concat ["CREATE TABLE ", mention.written, " (", body, ")"]
  | .enable mention => .concat ["ALTER TABLE ", mention.written, " ENABLE ROW LEVEL SECURITY"]
  | .policy name mention body =>
    .concat ["CREATE POLICY \"", name, "\" ON ", mention.written, " ", body]

/-- The names are proper and the bodies quiet and closed; the name of a policy has no double quote, and
its body is trimmed, not empty and without semicolons. -/
def Canonical : Statement → Prop
  | .table mention body => mention.Proper ∧ Closed body ∧ Quiet body
  | .enable mention => mention.Proper
  | .policy name mention body =>
    (name ≠ [] ∧ '"' ∉ name ∧ Quiet name) ∧ mention.Proper ∧
      Closed body ∧ Quiet body ∧ body ≠ [] ∧ Text.trim body = body ∧ ';' ∉ body

instance : (s : Statement) → Decidable s.Canonical
  | .table _ _ => inferInstanceAs (Decidable (_ ∧ _))
  | .enable mention => inferInstanceAs (Decidable mention.Proper)
  | .policy _ _ _ => inferInstanceAs (Decidable (_ ∧ _))

end Statement

def written (doc : List Statement) : Text :=
  doc.flatMap fun s => s.core ++ [';', '\n']

theorem written_cons (s : Statement) (doc : List Statement) :
    written (s :: doc) = s.core ++ ';' :: '\n' :: written doc := by
  simp [written]

def separators : Text :=
  " \".();\n"

theorem not_marker_of_mem_separators {sep : Char} (h : sep ∈ separators) :
    sep ≠ '-' ∧ sep ≠ '/' ∧ sep ≠ '*' := by
  have hmarks : separators.all (fun x => x != '-' && x != '/' && x != '*') = true := by decide
  simpa [and_assoc] using List.all_eq_true.mp hmarks sep h

theorem Quiet.append_cons {s t : Text} {sep : Char} (hs : Quiet s) (ht : Quiet t)
    (h : sep ∈ separators) : Quiet (s ++ sep :: t) := by
  have hletters : separators.all (fun x => !(Text.folded "CREATE").contains x.toLower &&
      !(Text.folded "ALTER").contains x.toLower) = true := by decide
  have hsep := List.all_eq_true.mp hletters sep h
  simp only [Bool.and_eq_true, Bool.not_eq_true', List.contains_eq_mem,
    decide_eq_false_iff_not] at hsep
  exact ⟨hs.1.append_cons ht.1 (not_marker_of_mem_separators h), (Text.lacks_append_cons hsep.1).mpr ⟨hs.2.1, ht.2.1⟩,
    (Text.lacks_append_cons hsep.2).mpr ⟨hs.2.2, ht.2.2⟩⟩

theorem Quiet.cons {t : Text} {sep : Char} (ht : Quiet t) (h : sep ∈ separators) :
    Quiet (sep :: t) := by
  have hnil : Quiet [] := by decide
  exact hnil.append_cons ht h

theorem WrittenName.quiet_written {n : WrittenName} (h : Quiet n.text) : Quiet n.written := by
  have hnil : Quiet [] := by decide
  unfold written
  split
  · exact (h.append_cons hnil (by decide)).cons (by decide)
  · exact h

theorem Mention.Proper.quiet_written {m : Mention} (h : m.Proper) : Quiet m.written := by
  obtain ⟨-, hschema, htable, -⟩ := h
  unfold written
  split
  · exact WrittenName.quiet_written htable
  · rename_i s hs
    exact (WrittenName.quiet_written (hschema s hs)).append_cons
      (WrittenName.quiet_written htable) (by decide)

namespace Statement

def initial : Statement → Char
  | .table _ _ | .policy _ _ _ => 'C'
  | .enable _ => 'A'

theorem Canonical.core_eq_cons {s : Statement} (h : s.Canonical) :
    ∃ t, s.core = s.initial :: t ∧ Quiet t := by
  have hnil : Quiet [] := by decide
  cases s with
  | table mention body =>
    obtain ⟨hmention, -, hbody⟩ := h
    refine ⟨"REATE" ++ ' ' :: ("TABLE" ++ ' ' :: (mention.written ++ ' ' :: '(' :: (body ++ [')']))),
      by simp [core, initial, Text.concat], ?_⟩
    refine Quiet.append_cons (by decide +kernel)
      (Quiet.append_cons (by decide +kernel) ?_ (by decide)) (by decide)
    refine hmention.quiet_written.append_cons (Quiet.cons ?_ (by decide)) (by decide)
    exact hbody.append_cons hnil (by decide)
  | enable mention =>
    refine ⟨"LTER" ++ ' ' :: ("TABLE" ++ ' ' :: (mention.written ++ ' ' :: "ENABLE ROW LEVEL SECURITY")),
      by simp [core, initial, Text.concat], ?_⟩
    refine Quiet.append_cons (by decide +kernel)
      (Quiet.append_cons (by decide +kernel) ?_ (by decide)) (by decide)
    exact (Mention.Proper.quiet_written h).append_cons (by decide +kernel) (by decide)
  | policy name mention body =>
    obtain ⟨⟨-, -, hname⟩, hmention, -, hbody, -⟩ := h
    refine ⟨"REATE" ++ ' ' :: ("POLICY" ++ ' ' :: '"' :: (name ++ '"' :: ' ' :: ("ON" ++
      ' ' :: (mention.written ++ ' ' :: body)))), by simp [core, initial, Text.concat], ?_⟩
    refine Quiet.append_cons (by decide +kernel)
      (Quiet.append_cons (by decide +kernel) ?_ (by decide)) (by decide)
    refine Quiet.cons (hname.append_cons (Quiet.cons ?_ (by decide)) (by decide)) (by decide)
    refine Quiet.append_cons (by decide +kernel) ?_ (by decide)
    exact hmention.quiet_written.append_cons hbody (by decide)

theorem Canonical.unmarked_core {s : Statement} (h : s.Canonical) : Unmarked s.core := by
  obtain ⟨t, ht, hquiet⟩ := h.core_eq_cons
  have hfirst : s.initial ≠ '-' ∧ s.initial ≠ '/' ∧ s.initial ≠ '*' := by cases s <;> simp [initial]
  rw [ht]
  exact hquiet.1.cons hfirst

end Statement

theorem harvest_statement_missed {α : Type} {front : Front} {find : Cursor → Option (α × Nat)}
    {word : Text}
    (hfind : ∀ c : Cursor, ¬Text.folded word <+: Text.folded c.rest → find c = none)
    (hbreak : '\n' ∉ Text.folded word) (hquiet : ∀ t, Quiet t → Text.Lacks word t)
    {s : Statement} (hs : s.Canonical) {doc : List Statement} {position : Nat} {before : Text}
    (hmiss : find ⟨before, s.core ++ ';' :: '\n' :: written doc, position, []⟩ = none) :
    ∃ position' before', Cursor.harvest front find 0 position before (written (s :: doc)) =
      Cursor.harvest front find 0 position' before' (written doc) := by
  obtain ⟨t, ht, htquiet⟩ := hs.core_eq_cons
  have hlacks : Text.Lacks word (t ++ [';']) :=
    hquiet _ (htquiet.append_cons (by decide : Quiet []) (by decide))
  have hsplit : written (s :: doc) = s.initial :: ((t ++ [';']) ++ '\n' :: written doc) := by
    simp [written_cons, ht]
  rw [← written_cons, hsplit] at hmiss
  rw [hsplit, Cursor.harvest_cons_missed hmiss]
  exact Cursor.harvest_line hfind hbreak _ hlacks _ _ _

theorem harvest_line_found {α : Type} {front : Front} {find : Cursor → Option (α × Nat)} {word : Text}
    (hfind : ∀ c : Cursor, ¬Text.folded word <+: Text.folded c.rest → find c = none)
    (hbreak : '\n' ∉ Text.folded word) (hquiet : ∀ t, Quiet t → Text.Lacks word t)
    {line rest : Text} {x : Char} (hline : line.head? = some x) (hfront : front.admits x = true)
    {found : α} {position : Nat} {before : Text}
    (h : find ⟨before, line ++ ';' :: '\n' :: rest, position, []⟩ = some (found, line.length)) :
    ∃ position' before', Cursor.harvest front find 0 position before (line ++ ';' :: '\n' :: rest) =
      found :: Cursor.harvest front find 0 position' before' rest := by
  have hne : line ≠ [] := fun hnil => by simp [hnil] at hline
  have hadmits : ∀ y ∈ line.head?, front.admits y = true := by
    intro y hy
    obtain rfl : x = y := Option.some.inj (hline.symm.trans hy)
    exact hfront
  obtain ⟨position', before', hbehind⟩ := Cursor.harvest_line hfind hbreak [';'] (hquiet _ (by decide))
    (position + line.length) (line.reverse ++ before) rest
  exact ⟨position', before', (Cursor.harvest_found hne hadmits h).trans (congrArg _ hbehind)⟩

/-- A harvest over a document finds what its statements are found as, one by one. -/
theorem harvest_written {α β : Type} {front : Front} {find : Cursor → Option (α × Nat)} {word : Text}
    (hfind : ∀ c : Cursor, ¬Text.folded word <+: Text.folded c.rest → find c = none)
    (hbreak : '\n' ∉ Text.folded word) (hquiet : ∀ t, Quiet t → Text.Lacks word t)
    {meaning : α → β} {found? : Statement → Option β}
    (hmissed : ∀ {s : Statement} {position before rest}, s.Canonical → found? s = none →
      find ⟨before, s.core ++ ';' :: '\n' :: rest, position, []⟩ = none)
    (hfound : ∀ {s : Statement} {b position before rest}, s.Canonical → found? s = some b →
      front.admits s.initial = true ∧ ∃ a,
        find ⟨before, s.core ++ ';' :: '\n' :: rest, position, []⟩ = some (a, s.core.length) ∧ meaning a = b)
    {doc : List Statement} (h : ∀ s ∈ doc, s.Canonical) (position : Nat) (before : Text) :
    (Cursor.harvest front find 0 position before (written doc)).map meaning = doc.filterMap found? := by
  induction doc generalizing position before with
  | nil =>
    have hbegins : ¬Text.folded word <+: Text.folded [] := fun hb => hquiet [] (by decide) hb.isInfix
    simp [written, Cursor.harvest, hfind ⟨before, [], position, []⟩ hbegins]
  | cons s doc ih =>
    have hs := h s List.mem_cons_self
    have hdoc := ih fun r hr => h r (List.mem_cons_of_mem s hr)
    cases hs? : found? s with
    | none =>
      obtain ⟨position', before', hskip⟩ :=
        harvest_statement_missed hfind hbreak hquiet hs (hmissed hs hs?)
      rw [hskip, hdoc position' before', List.filterMap_cons_none hs?]
    | some b =>
      obtain ⟨t, ht, -⟩ := hs.core_eq_cons
      obtain ⟨hfront, a, ha, rfl⟩ := hfound hs hs?
      obtain ⟨position', before', hgone⟩ := harvest_line_found hfind hbreak hquiet
        (by rw [ht, List.head?_cons]) hfront ha
      rw [written_cons, hgone, List.map_cons, hdoc position' before', List.filterMap_cons_some hs?]

theorem unmarked_written {doc : List Statement} (h : ∀ s ∈ doc, s.Canonical) :
    Unmarked (written doc) := by
  induction doc with
  | nil => exact unmarked_nil
  | cons s doc ih =>
    have hs := (h s List.mem_cons_self).unmarked_core
    have hdoc := ih fun r hr => h r (List.mem_cons_of_mem s hr)
    rw [written_cons]
    exact hs.append_cons (hdoc.cons (by decide)) (by decide)

end DdlAtlas.Sql
