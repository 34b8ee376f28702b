import DdlAtlas.Proofs.Column.Written
import DdlAtlas.Proofs.Pattern.Search

/-!
# Cutting a type off

The clauses that can follow a type are sought one kind after the other. Before the kind of the clause that
does follow comes up, every cut lies behind its keyword; its own cut leaves the type, and the kinds that
come after find nothing there.
-/

namespace DdlAtlas.Sql

open Pattern

structure Opening where
  first : Text
  more : List Text
deriving DecidableEq

namespace Opening

def pattern (o : Opening) : Pattern :=
  clauseStart (o.first :: o.more)

def trailing : List Opening :=
  [⟨"NOT", ["NULL"]⟩, ⟨"DEFAULT", []⟩, ⟨"CHECK", []⟩, ⟨"UNIQUE", []⟩, ⟨"PRIMARY", []⟩,
    ⟨"REFERENCES", []⟩, ⟨"GENERATED", []⟩, ⟨"COLLATE", []⟩, ⟨"CONSTRAINT", []⟩, ⟨"NULL", []⟩]

theorem trailingClauses_eq : trailingClauses = trailing.map pattern :=
  rfl

theorem isKeyword_of_mem {o : Opening} (h : o ∈ trailing) : Text.IsKeyword o.first := by
  have hall : trailing.all (fun o => decide (Text.IsKeyword o.first)) = true := by decide
  simpa using List.all_eq_true.mp hall o h

theorem announces {o : Opening} (ho : Text.IsKeyword o.first) : o.pattern.Announces o.first := by
  obtain ⟨k, ks⟩ := o
  intro c d hd
  obtain ⟨e, hspace, hd⟩ := reads_sequence_cons.mp hd
  obtain ⟨f, hword, hd⟩ := reads_sequence_cons.mp hd
  obtain ⟨blanks, hblanks, hne, hall, -⟩ := reads_space hspace
  obtain ⟨w, hw, hletters⟩ := reads_word hword
  refine ⟨blanks, e.rest, hblanks.rest, hall, fun hnil => absurd hnil hne, ?_⟩
  rw [hw.rest]
  refine Text.spells_of_sameLetters hletters ?_
  cases ks with
  | nil =>
    obtain ⟨-, hedge⟩ := hd
    obtain ⟨hwne, hwords⟩ := ho.isWord_of_sameLetters hletters
    have hbefore : f.before.head?.any Text.isWord = true := by
      obtain ⟨init, z, rfl⟩ := (List.eq_nil_or_concat w).resolve_left hwne
      rw [hw.before]
      simpa using hwords z (by simp)
    rw [Cursor.atWordEdge, hbefore] at hedge
    simpa using hedge
  | cons next more =>
    obtain ⟨g, hgap, -⟩ := reads_sequence_cons.mp hd
    obtain ⟨bs, hbs, hbsne, hbsall, -⟩ := reads_space hgap
    obtain ⟨b, bs, rfl⟩ := List.exists_cons_of_ne_nil hbsne
    rw [hbs.rest]
    simpa using Text.isWord_of_isBlank (hbsall b List.mem_cons_self)

def cut (os : List Opening) (t : Text) : Text :=
  (os.map pattern).foldl (fun t p => p.textBefore t) t

theorem cut_cons (o : Opening) (os : List Opening) (t : Text) :
    cut (o :: os) t = cut os (o.pattern.textBefore t) :=
  rfl

theorem cut_append (os os' : List Opening) (t : Text) : cut (os ++ os') t = cut os' (cut os t) := by
  simp [cut]

theorem cut_of_not_mentioned {os : List Opening} {t : Text} (ht : Text.Neat t)
    (h : ∀ o ∈ os, Text.IsKeyword o.first ∧ Text.mentions o.first none t = false) : cut os t = t := by
  induction os with
  | nil => rfl
  | cons o os ih =>
    obtain ⟨hkeyword, hmention⟩ := h o List.mem_cons_self
    have hnone := (announces hkeyword).search?_none hkeyword.1 ht.back hmention
    rw [cut_cons, textBefore_none hnone]
    exact ih fun l hl => h l (List.mem_cons_of_mem o hl)

theorem cut_behind {os : List Opening} {s rest : Text} (hs : Text.Neat s)
    (h : ∀ o ∈ os, Text.IsKeyword o.first ∧ Text.mentions o.first none s = false)
    (hrest : ∀ x ∈ rest.head?, x = ' ') :
    ∃ r, cut os (s ++ rest) = s ++ r ∧ ∀ x ∈ r.head?, x = ' ' := by
  induction os generalizing rest with
  | nil => exact ⟨rest, rfl, hrest⟩
  | cons o os ih =>
    obtain ⟨hkeyword, hmention⟩ := h o List.mem_cons_self
    have hbars : Bars rest o.first := bars_of_isKeyword hkeyword fun x hx => by
      rw [hrest x hx]
      decide
    have hmisses : o.pattern.Misses [] s rest :=
      (announces hkeyword).misses hkeyword.1 hbars hs.back hmention
    obtain ⟨r, hr, hfront⟩ := textBefore_missed hmisses
    rw [cut_cons, hr]
    refine ih (fun l hl => h l (List.mem_cons_of_mem o hl)) fun x hx => hrest x ?_
    obtain ⟨more, rfl⟩ := hfront
    obtain ⟨tail, rfl⟩ := List.head?_eq_some_iff.mp (Option.mem_def.mp hx)
    rfl

theorem isWord_of_mem_keyword {k : Text} (hk : Text.IsKeyword k) : ∀ x ∈ k, Text.isWord x = true := by
  intro x hx
  exact Text.isWord_of_sameLetter (List.all_eq_true.mp hk.2 x hx) (by simp [Text.sameLetter])

theorem unbroken_keyword {k : Text} (hk : Text.IsKeyword k) : Text.Unbroken k := by
  intro x hx
  cases hb : Text.isBlank x with
  | false => rfl
  | true =>
    have := Text.isWord_of_isBlank hb
    rw [isWord_of_mem_keyword hk x hx] at this
    exact absurd this (by simp)

theorem run_spaced {ks : List Text} (hks : ∀ k ∈ ks, Text.IsKeyword k) (ps : List Pattern)
    (next : Cursor → Option Cursor) (before rest : Text) (position : Nat) (groups : List Capture) :
    (sequence ((ks.flatMap fun k => [space, word k]) ++ ps)).run next
        ⟨before, Text.spaced ks ++ rest, position, groups⟩ =
      (sequence ps).run next ⟨(Text.spaced ks).reverse ++ before, rest,
        position + (Text.spaced ks).length, groups⟩ := by
  induction ks generalizing before position with
  | nil => rfl
  | cons k ks ih =>
    have hk := hks k List.mem_cons_self
    rw [List.flatMap_cons, List.append_assoc, List.cons_append, List.cons_append, List.nil_append,
      run_sequence_cons, Text.spaced_cons, List.cons_append, List.append_assoc,
      run_space (head?_append_not_blank hk.1 (unbroken_keyword hk)), run_sequence_cons, run_word,
      ih fun l hl => hks l (List.mem_cons_of_mem k hl)]
    simp only [List.reverse_cons, List.reverse_append, List.append_assoc, List.singleton_append,
      List.length_cons, List.length_append]
    congr 2
    omega

theorem isWord_of_getLast?_spaced {ks : List Text} (hne : ks ≠ []) (hks : ∀ k ∈ ks, Text.IsKeyword k) :
    (Text.spaced ks).reverse.head?.any Text.isWord = true := by
  obtain ⟨init, k, rfl⟩ := (List.eq_nil_or_concat ks).resolve_left hne
  have hk := hks k (by simp)
  obtain ⟨front, z, rfl⟩ := (List.eq_nil_or_concat k).resolve_left hk.1
  simpa using isWord_of_mem_keyword hk z (by simp)

theorem textBefore_own {o : Opening} (ho : ∀ k ∈ o.first :: o.more, Text.IsKeyword k) {t rest : Text}
    (ht : Text.Neat t) (hmention : Text.mentions o.first none t = false)
    (hrest : rest.head?.any Text.isWord = false) :
    o.pattern.textBefore (t ++ (Text.spaced (o.first :: o.more) ++ rest)) = t := by
  have hfirst := ho o.first List.mem_cons_self
  have hbars : Bars (Text.spaced (o.first :: o.more) ++ rest) o.first :=
    bars_of_isKeyword hfirst fun x hx => by
      obtain rfl : ' ' = x := by simpa using hx
      decide
  have hmisses : o.pattern.Misses [] t (Text.spaced (o.first :: o.more) ++ rest) :=
    (announces hfirst).misses hfirst.1 hbars ht.back hmention
  have hrun : ∃ e, o.pattern.run some
      ⟨t.reverse, Text.spaced (o.first :: o.more) ++ rest, t.length, []⟩ = some e := by
    refine ⟨_, (run_spaced ho [wordEdge] some _ _ _ _).trans (if_pos ?_)⟩
    have hlast := isWord_of_getLast?_spaced (by simp) ho
    obtain ⟨z, front, hz⟩ := List.exists_cons_of_ne_nil
      (show (Text.spaced (o.first :: o.more)).reverse ≠ [] by simp)
    rw [hz] at hlast
    rw [Cursor.atWordEdge, hrest, hz]
    simpa using hlast
  obtain ⟨e, he⟩ := hrun
  exact textBefore_found hmisses (m := ⟨_, e⟩) (by rw [matchAt?, he, Option.map_some])

end Opening

theorem Clause.opening (c : Clause) : ∃ os o os' more, Opening.trailing = os ++ o :: os' ∧
    ' ' :: c.keyword = Text.spaced (o.first :: o.more) ++ more ∧ more.head?.any Text.isWord = false ∧
    (∀ k ∈ o.more, Text.IsKeyword k) ∧ ∀ p ∈ os, Text.mentions p.first none c.keyword = false := by
  cases c with
  | notNull => exact ⟨[], ⟨"NOT", ["NULL"]⟩, _, [], rfl, rfl, rfl, by decide, by simp⟩
  | unique => exact ⟨Opening.trailing.take 3, ⟨"UNIQUE", []⟩, Opening.trailing.drop 4, [], rfl, rfl, rfl,
      by simp, by decide⟩
  | primaryKey => exact ⟨Opening.trailing.take 4, ⟨"PRIMARY", []⟩, Opening.trailing.drop 5, " KEY", rfl, rfl, rfl,
      by simp, by decide⟩
  | default _ =>
    have hearlier : ∀ p ∈ Opening.trailing.take 1, Text.mentions p.first none "DEFAULT" = false := by
      decide
    exact ⟨_, ⟨"DEFAULT", []⟩, Opening.trailing.drop 2, [], rfl, rfl, rfl, by simp, hearlier⟩
  | check _ =>
    have hearlier : ∀ p ∈ Opening.trailing.take 2, Text.mentions p.first none "CHECK" = false := by
      decide
    exact ⟨_, ⟨"CHECK", []⟩, Opening.trailing.drop 3, [], rfl, rfl, rfl, by simp, hearlier⟩

theorem cut_trailing (c : Clause) {t rest : Text} (ht : Text.Neat t)
    (h : ∀ o ∈ Opening.trailing, Text.mentions o.first none t = false)
    (hrest : ∀ x ∈ rest.head?, x = ' ') :
    Opening.cut Opening.trailing (t ++ ' ' :: (c.keyword ++ rest)) = t := by
  obtain ⟨os, o, os', more, hsplit, hkeyword, hmore, howned, hearlier⟩ := c.opening
  have hkeywords : ∀ o ∈ Opening.trailing, Text.IsKeyword o.first := fun _ ho =>
    Opening.isKeyword_of_mem ho
  rw [hsplit] at h hkeywords ⊢
  have hfront : Text.Neat (t ++ ' ' :: c.keyword) := ht.append_space c.piece_keyword.neat
  have hopenings : ∀ p ∈ os, Text.IsKeyword p.first ∧
      Text.mentions p.first none (t ++ ' ' :: c.keyword) = false := by
    intro p hp
    have hword := hkeywords p (by simp [hp])
    refine ⟨hword, ?_⟩
    rw [hword.mentions_append (by decide), h p (by simp [hp]), hearlier p hp]
    rfl
  obtain ⟨r, hr, hrfront⟩ := Opening.cut_behind hfront hopenings hrest
  have hshape : t ++ ' ' :: (c.keyword ++ rest) = (t ++ ' ' :: c.keyword) ++ rest := by simp
  rw [Opening.cut_append, hshape, hr, Opening.cut_cons]
  have hown : o.pattern.textBefore ((t ++ ' ' :: c.keyword) ++ r) = t := by
    have hword : ∀ k ∈ o.first :: o.more, Text.IsKeyword k := by
      intro k hk
      rcases List.mem_cons.mp hk with rfl | hk
      · exact hkeywords o (by simp)
      · exact howned k hk
    have hnext : (more ++ r).head?.any Text.isWord = false := by
      cases more with
      | nil =>
        cases r with
        | nil => rfl
        | cons x r =>
          obtain rfl := hrfront x rfl
          exact (by decide : Text.isWord ' ' = false)
      | cons x more => exact hmore
    rw [hkeyword, List.append_assoc, List.append_assoc]
    exact Opening.textBefore_own hword ht (h o (by simp)) hnext
  rw [hown]
  exact Opening.cut_of_not_mentioned ht fun p hp => ⟨hkeywords p (by simp [hp]), h p (by simp [hp])⟩

end DdlAtlas.Sql
