import DdlAtlas.Proofs.Comment.Markers
import DdlAtlas.Proofs.Name.Written
import DdlAtlas.Proofs.Pattern.Captures
import DdlAtlas.Proofs.Policy.Header

/-!
# Listings of policies

A listing has a policy on every line. Each is found under its own name and on its own table just when
something stands between every table and its semicolon, a blank at least, and comment removal leaves the
names alone. A semicolon right behind the table is taken for a part of the table's name, and the line
break behind it for the blank that the header asks for, so that the lines below become the body.
-/

namespace DdlAtlas.Sql

open Pattern

def PolicyStatement.subject (s : PolicyStatement) : Text × Text :=
  (s.name, s.table)

structure PolicyLine where
  name : Text
  table : Text
  clauses : Text
deriving DecidableEq

namespace PolicyLine

def subject (s : PolicyLine) : Text × Text :=
  (s.name, s.table)

def written (s : PolicyLine) : Text :=
  .concat ["CREATE POLICY \"", s.name, "\" ON ", s.table, s.clauses, ";\n"]

/-- The clauses are set apart from the table by a blank; comments and semicolons are not among them. -/
structure Proper (s : PolicyLine) : Prop where
  name_ne_nil : s.name ≠ []
  quote : '"' ∉ s.name
  table : IsIdentifier s.table
  only : Text.folded s.table ≠ Text.folded "ONLY"
  apart : ∀ x ∈ s.clauses.head?, Text.isBlank x = true
  unmarked : Unmarked s.clauses
  undivided : ';' ∉ s.clauses

instance (s : PolicyLine) : Decidable s.Proper :=
  decidable_of_iff (s.name ≠ [] ∧ '"' ∉ s.name ∧ IsIdentifier s.table ∧
      Text.folded s.table ≠ Text.folded "ONLY" ∧ s.clauses.head?.all Text.isBlank = true ∧
      Unmarked s.clauses ∧ ';' ∉ s.clauses)
    ⟨fun ⟨h₁, h₂, h₃, h₄, h₅, h₆, h₇⟩ => ⟨h₁, h₂, h₃, h₄, (Option.all_eq_true _ _).mp h₅, h₆, h₇⟩,
      fun ⟨h₁, h₂, h₃, h₄, h₅, h₆, h₇⟩ => ⟨h₁, h₂, h₃, h₄, (Option.all_eq_true _ _).mpr h₅, h₆, h₇⟩⟩

end PolicyLine

def listing (doc : List PolicyLine) : Text :=
  doc.flatMap PolicyLine.written

theorem listing_cons (s : PolicyLine) (doc : List PolicyLine) :
    listing (s :: doc) = s.written ++ listing doc :=
  rfl

namespace PolicyLine

def behind (s : PolicyLine) : Text :=
  .concat [" ON ", s.table, s.clauses, ";"]

theorem written_append (s : PolicyLine) (rest : Text) :
    s.written ++ rest =
      "CREATE POLICY " ++ '"' :: (s.name ++ '"' :: (s.behind ++ '\n' :: rest)) := by
  simp [written, behind, Text.concat]

theorem Proper.unmarked_behind {s : PolicyLine} (h : s.Proper) : Unmarked s.behind := by
  have htable : Unmarked s.table := by
    apply unmarked_of_not_mem
    · exact h.table.not_mem (by decide)
    · exact h.table.not_mem (by decide)
  have hboth : Unmarked (s.table ++ s.clauses) := by
    cases hs : s.clauses with
    | nil => rwa [List.append_nil]
    | cons x more =>
      have hx : Text.isBlank x = true := h.apart x (by rw [hs]; rfl)
      have hmore := h.unmarked
      rw [hs] at hmore
      apply htable.append_cons ⟨absent_of_cons hmore.1, absent_of_cons hmore.2⟩
      refine ⟨?_, ?_, ?_⟩ <;> rintro rfl <;> exact absurd hx (by decide)
  have hbehind : s.behind = " ON" ++ ' ' :: ((s.table ++ s.clauses) ++ ';' :: []) := by
    simp [behind, Text.concat]
  rw [hbehind]
  apply Unmarked.append_cons (by decide)
  · exact hboth.append_cons unmarked_nil (by decide)
  · decide

end PolicyLine

theorem markers_listing {doc : List PolicyLine} (h : ∀ s ∈ doc, s.Proper) :
    markers (listing doc) = (doc.map fun s => markers s.name).sum := by
  induction doc with
  | nil => rfl
  | cons s doc ih =>
    have hbehind := (h s List.mem_cons_self).unmarked_behind
    have hrest := ih fun r hr => h r (List.mem_cons_of_mem s hr)
    have hfront : markers "CREATE POLICY " = 0 := by decide
    rw [listing_cons, PolicyLine.written_append, markers_append_cons (by decide),
      markers_append_cons (by decide), markers_append_cons (by decide), hfront,
      markers_of_unmarked hbehind, hrest, List.map_cons, List.sum_cons]
    omega

theorem uncommented_listing_eq_self_iff {doc : List PolicyLine} (h : ∀ s ∈ doc, s.Proper) :
    uncommented none (listing doc) = listing doc ↔
      ∀ s ∈ doc, uncommented (some '"') s.name = s.name := by
  induction doc with
  | nil => simp [listing]
  | cons s doc ih =>
    have hbehind : Unmarked ('"' :: s.behind) :=
      (h s List.mem_cons_self).unmarked_behind.cons (by decide)
    have hrest := ih fun r hr => h r (List.mem_cons_of_mem s hr)
    have hfront : uncommented none "CREATE POLICY " = "CREATE POLICY " := by rfl
    have hopen : ∀ t, uncommented none ('"' :: t) = '"' :: uncommented (some '"') t :=
      fun t => uncommented_cons (by simp)
    have hline : ∀ q, uncommented q ('"' :: (s.behind ++ '\n' :: listing doc)) =
        '"' :: (s.behind ++ '\n' :: listing doc) ↔ uncommented none (listing doc) = listing doc := by
      intro q
      rw [← List.cons_append, uncommented_append_cons_eq_self_iff (by decide),
        uncommented_of_absent hbehind.1, uncommented_newline, List.cons.injEq]
      simp
    rw [listing_cons, PolicyLine.written_append, uncommented_append_cons_eq_self_iff (by decide),
      hfront, show "CREATE POLICY ".toList.foldl lineQuote none = none from rfl, hopen,
      List.cons.injEq, uncommented_append_cons_eq_self_iff (by decide), hline, hrest]
    simp

theorem policyEnd_isSome_listing (doc : List PolicyLine) (c : Cursor)
    (hc : c.rest = ';' :: '\n' :: listing doc) : (policyEnd.run some c).isSome = true := by
  obtain ⟨before, rest, position, groups⟩ := c
  obtain rfl : rest = ';' :: '\n' :: listing doc := hc
  cases doc with
  | nil => rfl
  | cons s doc => rfl

theorem head?_listing (doc : List PolicyLine) :
    ∀ x ∈ (listing doc).head?, Text.isBlank x = false := by
  cases doc with
  | nil => simp [listing]
  | cons s doc =>
    intro x hx
    obtain rfl : 'C' = x := by simpa [listing_cons, PolicyLine.written, Text.concat] using hx
    decide

theorem lacks_create_of_blank {v : Text} (h : ∀ x ∈ v, Text.isBlank x = true) :
    Text.Lacks "CREATE" (v ++ [';']) := by
  apply Text.lacks_of_not_mem (x := 'c') (by decide)
  intro hc
  obtain ⟨x, hx, hlow⟩ := List.mem_map.mp hc
  rcases List.mem_append.mp hx with hx | hx
  · rw [Text.toLower_of_isBlank (h x hx)] at hlow
    exact absurd (hlow ▸ h x hx) (by decide)
  · obtain rfl := List.mem_singleton.mp hx
    exact absurd hlow (by decide)

theorem PolicyLine.Proper.exists_blanks {s : PolicyLine} (h : s.Proper) (hne : s.clauses ≠ []) :
    ∃ blanks body, s.clauses = blanks ++ body ∧ blanks ≠ [] ∧
      (∀ x ∈ blanks, Text.isBlank x = true) ∧ ∀ x ∈ body.head?, Text.isBlank x = false := by
  obtain ⟨y, more, hy⟩ := List.exists_cons_of_ne_nil hne
  have hblank : Text.isBlank y = true := h.apart y (by rw [hy]; rfl)
  refine ⟨_, _, List.takeWhile_append_dropWhile.symm, ?_, List.all_eq_true.mp List.all_takeWhile,
    fun x hx => ?_⟩
  · rw [hy, List.takeWhile_cons_of_pos hblank]
    exact List.cons_ne_nil _ _
  · have hnot := List.head?_dropWhile_not Text.isBlank s.clauses
    rw [Option.mem_def.mp hx] at hnot
    simpa using hnot

theorem admits_policyFront (name table blanks w : Text) :
    ∀ x ∈ (policyFront name table blanks ++ w).head?, policyHeader.front.admits x = true := by
  intro x hx
  obtain rfl : 'C' = x := by simpa [policyFront, Text.concat] using hx
  rfl

abbrev harvestPolicies (position : Nat) (before t : Text) : List Match :=
  Cursor.harvest policyHeader.front (fun c => (policyHeader.matchAt? c).map fun m => (m, m.width)) 0
    position before t

theorem harvest_apart {s : PolicyLine} (h : s.Proper) (hne : s.clauses ≠ []) (doc : List PolicyLine)
    (position : Nat) (before : Text) :
    ∃ m position' before', (PolicyStatement.ofMatch m).subject = s.subject ∧
      harvestPolicies position before (listing (s :: doc)) =
        m :: harvestPolicies position' before' (listing doc) := by
  obtain ⟨blanks, body, hsplit, hlead, hblanks, hbody⟩ := h.exists_blanks hne
  have hhead : ∀ x ∈ (body ++ ';' :: '\n' :: listing doc).head?, Text.isBlank x = false := by
    cases body with
    | nil =>
      intro x hx
      obtain rfl : ';' = x := by simpa using hx
      decide
    | cons y more => exact hbody
  obtain ⟨w, v, m, rfl, ⟨c, hc, hend⟩, hmatch, hwidth, hm⟩ :=
    policyHeader_of_front h.name_ne_nil h.quote h.table.1 h.table.not_blank h.only hlead hblanks hhead
      (policyEnd_isSome_listing doc) before position
  have hblank : ∀ x ∈ v, Text.isBlank x = true :=
    isBlank_of_policyEnd hc (fun hv => h.undivided (by simp [hsplit, hv])) hend
  have hwritten : listing (s :: doc) = (policyFront s.name s.table blanks ++ w) ++
      ((v ++ [';']) ++ '\n' :: listing doc) := by
    simp [listing_cons, PolicyLine.written, policyFront, hsplit, Text.concat]
  have hfind : ((policyHeader.matchAt? ⟨before, (policyFront s.name s.table blanks ++ w) ++
      ((v ++ [';']) ++ '\n' :: listing doc), position, []⟩).map fun m => (m, m.width)) =
      some (m, (policyFront s.name s.table blanks ++ w).length) := by
    have htext : (policyFront s.name s.table blanks ++ w) ++ ((v ++ [';']) ++ '\n' :: listing doc) =
        policyFront s.name s.table blanks ++ ((w ++ v) ++ ';' :: '\n' :: listing doc) := by simp
    rw [htext, hmatch, Option.map_some, hwidth]
  obtain ⟨position', before', hline⟩ := Cursor.harvest_line policyHeader_find (by decide) (v ++ [';'])
    (lacks_create_of_blank hblank) (position + (policyFront s.name s.table blanks ++ w).length)
    ((policyFront s.name s.table blanks ++ w).reverse ++ before) (listing doc)
  refine ⟨m, position', before', ?_, ?_⟩
  · rw [hm, ofText_of_unbroken h.table.not_blank (h.table.not_mem (by decide))
      (h.table.not_mem (by decide)) (h.table.not_mem (by decide))]
    rfl
  · rw [hwritten, harvestPolicies, Cursor.harvest_found (by simp [policyFront, Text.concat])
      (admits_policyFront _ _ _ _) hfind, hline]

theorem harvest_merged {s : PolicyLine} (h : s.Proper) (hs : s.clauses = []) (doc : List PolicyLine)
    (position : Nat) (before : Text) :
    ((harvestPolicies position before (listing (s :: doc))).head?.map fun m =>
      (PolicyStatement.ofMatch m).table) = some (s.table ++ [';']) := by
  have hnot : ∀ {c : Char}, Text.isAsciiWord c = false → c ≠ ';' → c ∉ s.table ++ [';'] := by
    intro c hc hne hmem
    rcases List.mem_append.mp hmem with hmem | hmem
    · exact h.table.not_mem hc hmem
    · exact hne (List.mem_singleton.mp hmem)
  have hsolid : Text.Unbroken (s.table ++ [';']) := by
    intro x hx
    rcases List.mem_append.mp hx with hx | hx
    · exact h.table.not_blank x hx
    · obtain rfl := List.mem_singleton.mp hx
      decide
  have honly : Text.folded (s.table ++ [';']) ≠ Text.folded "ONLY" := by
    intro he
    have hmem : ';' ∈ Text.folded (s.table ++ [';']) := by simp [Text.folded]
    rw [he] at hmem
    exact absurd hmem (by decide)
  have hhead : ∀ x ∈ (listing doc ++ []).head?, Text.isBlank x = false := by
    rw [List.append_nil]
    exact head?_listing doc
  have hend : ∀ c : Cursor, c.rest = [] → (policyEnd.run some c).isSome = true := by
    rintro ⟨before, rest, position, groups⟩ rfl
    rfl
  obtain ⟨w, v, m, hsplit, -, hmatch, hwidth, hm⟩ :=
    policyHeader_of_front h.name_ne_nil h.quote (by simp) hsolid honly (List.cons_ne_nil '\n' [])
      (by simp [Text.isBlank]) hhead hend before position
  have hwritten : listing (s :: doc) =
      (policyFront s.name (s.table ++ [';']) ['\n'] ++ w) ++ v := by
    simp [listing_cons, PolicyLine.written, policyFront, hs, Text.concat, hsplit]
  have hfind : ((policyHeader.matchAt? ⟨before, (policyFront s.name (s.table ++ [';']) ['\n'] ++ w) ++ v,
      position, []⟩).map fun m => (m, m.width)) =
      some (m, (policyFront s.name (s.table ++ [';']) ['\n'] ++ w).length) := by
    rw [List.append_nil, hsplit, ← List.append_assoc] at hmatch
    rw [hmatch, Option.map_some, hwidth]
  rw [hwritten, harvestPolicies, Cursor.harvest_found (by simp [policyFront, Text.concat])
    (admits_policyFront _ _ _ _) hfind, List.head?_cons, Option.map_some, hm,
    ofText_of_unbroken hsolid (hnot (by decide) (by decide)) (hnot (by decide) (by decide))
      (hnot (by decide) (by decide))]

theorem harvest_listing_iff {doc : List PolicyLine} (h : ∀ s ∈ doc, s.Proper) (position : Nat)
    (before : Text) :
    (harvestPolicies position before (listing doc)).map (fun m => (PolicyStatement.ofMatch m).subject) =
      doc.map PolicyLine.subject ↔ ∀ s ∈ doc, s.clauses ≠ [] := by
  induction doc generalizing position before with
  | nil =>
    have hnone : harvestPolicies position before (listing []) = [] := rfl
    simp [hnone]
  | cons s doc ih =>
    have hs := h s List.mem_cons_self
    by_cases hne : s.clauses = []
    · have hhead := harvest_merged hs hne doc position before
      constructor
      · intro heq
        have hfirst := congrArg (fun l => l.head?.map Prod.snd) heq
        simp only [List.head?_map, Option.map_map, List.map_cons, List.head?_cons, Option.map_some]
          at hfirst
        have hsame : some (s.table ++ [';']) = some s.table := hhead.symm.trans hfirst
        simp at hsame
      · intro hall
        exact absurd hne (hall s List.mem_cons_self)
    · obtain ⟨m, position', before', hm, hrest⟩ := harvest_apart hs hne doc position before
      rw [hrest, List.map_cons, List.map_cons, hm, List.cons.injEq,
        ih (fun r hr => h r (List.mem_cons_of_mem s hr))]
      simp [hne]

theorem sum_markers_names_le (t : Text) :
    ((policyStatements t).map fun s => markers s.name).sum ≤ markers t := by
  have hpart : ∀ before rest position m,
      policyHeader.matchAt? ⟨before, rest, position, []⟩ = some m →
      ∃ s, rest = s ++ m.stop.rest ∧ m.width = s.length ∧ (PolicyStatement.ofMatch m).name <:+: s := by
    intro before rest position m hm
    obtain ⟨s, hs, hwidth, hgroup⟩ := stretch_of_matchAt? hm
    refine ⟨s, hs, hwidth, ?_⟩
    have hempty : ([] : Text) <:+: s := List.nil_infix
    rw [PolicyStatement.ofMatch, Match.group]
    cases h₁ : m.group? 1 with
    | some name => exact hgroup 1 name h₁
    | none =>
      cases h₂ : m.group? 2 with
      | some name => exact hgroup 2 name h₂
      | none => exact hempty
  have hsum := sum_occurrences_le markers_append_le hpart t
  rwa [policyStatements, List.map_map]

/-- Every policy of a listing is found, with its own name and table, just when each has something behind
its table and no comment is removed from the names. -/
theorem policies_listing_iff {doc : List PolicyLine} (h : ∀ s ∈ doc, s.Proper) :
    (Statements.locate (listing doc)).1.policies.map PolicyStatement.subject =
        doc.map PolicyLine.subject ↔
      (∀ s ∈ doc, s.clauses ≠ []) ∧ Blockless (listing doc) ∧
        ∀ s ∈ doc, uncommented (some '"') s.name = s.name := by
  have hbare : withoutComments (listing doc) = listing doc ↔ Blockless (listing doc) ∧
      ∀ s ∈ doc, uncommented (some '"') s.name = s.name := by
    rw [withoutComments_eq_self_iff, uncommented_listing_eq_self_iff h]
  have hlocated : (Statements.locate (listing doc)).1.policies =
      policyStatements (withoutComments (listing doc)) := rfl
  have hfound : (policyStatements (listing doc)).map PolicyStatement.subject =
      doc.map PolicyLine.subject ↔ ∀ s ∈ doc, s.clauses ≠ [] := by
    rw [← harvest_listing_iff h 0 [], policyStatements, List.map_map]
    rfl
  rw [hlocated, ← hbare]
  constructor
  · intro heq
    have hnames := congrArg (List.map fun p : Text × Text => markers p.1) heq
    rw [List.map_map, List.map_map] at hnames
    have hsum := sum_markers_names_le (withoutComments (listing doc))
    have hkept : markers (listing doc) ≤ markers (withoutComments (listing doc)) := by
      rw [markers_listing h]
      exact (congrArg List.sum hnames).symm.le.trans hsum
    have hsame := withoutComments_eq_of_markers_le hkept
    rw [hsame] at heq
    exact ⟨hfound.mp heq, hsame⟩
  · rintro ⟨hclauses, hsame⟩
    rw [hsame]
    exact hfound.mpr hclauses

def notesListing : List PolicyLine :=
  [⟨"read -- own", "notes", " "⟩, ⟨"it's mine", "notes", "\tFOR SELECT USING (owner = 'me')"⟩]

theorem policies_notesListing :
    (∀ s ∈ notesListing, s.Proper) ∧
      (Statements.locate (listing notesListing)).1.policies.map PolicyStatement.subject =
        notesListing.map PolicyLine.subject := by
  have hproper : ∀ s ∈ notesListing, s.Proper := by decide +kernel
  refine ⟨hproper, (policies_listing_iff hproper).mpr ⟨by decide, ?_, by decide⟩⟩
  exact blockless_of_absent (by decide +kernel)

theorem policies_listing_merged :
    (∀ s ∈ [PolicyLine.mk "p" "t" [], ⟨"q", "u", []⟩], s.Proper) ∧
      (Statements.locate (listing [⟨"p", "t", []⟩, ⟨"q", "u", []⟩])).1.policies =
        [⟨"p", "t;", "CREATE POLICY \"q\" ON u"⟩] := by
  have hbare : withoutComments (listing [⟨"p", "t", []⟩, ⟨"q", "u", []⟩]) =
      listing [⟨"p", "t", []⟩, ⟨"q", "u", []⟩] :=
    Unmarked.withoutComments_eq (by decide +kernel)
  refine ⟨by decide +kernel, ?_⟩
  rw [Statements.locate, hbare]
  rfl

end DdlAtlas.Sql
