import DdlAtlas.Proofs.Nesting.Closed
import DdlAtlas.Proofs.Pattern.Opener

/-!
# The head of a policy

Command, roles and kind of a policy are read in front of its first predicate. Nothing from the opening of
the first predicate on has a say in them: comment removal and the cut at a semicolon keep a front that ends
with an opening parenthesis, and behind a blank no other opener runs into that of the predicate.
-/

namespace DdlAtlas.Sql

open Pattern

theorem isKeyword_using : ∀ k ∈ (["USING"] : List Text), Text.IsKeyword k := by decide

theorem isKeyword_withCheck : ∀ k ∈ (["WITH", "CHECK"] : List Text), Text.IsKeyword k := by decide

theorem usingStart_finds : usingStart.Finds (Opener ["USING"]) :=
  opener_finds (by simp) isKeyword_using

theorem withCheckStart_finds : withCheckStart.Finds (Opener ["WITH", "CHECK"]) :=
  opener_finds (by simp) isKeyword_withCheck

def PredicateOpener (s : Text) : Prop :=
  Opener ["USING"] s ∨ Opener ["WITH", "CHECK"] s

theorem predicateOpener_finds : (alt usingStart withCheckStart).Finds PredicateOpener :=
  usingStart_finds.alt withCheckStart_finds

theorem endsAtParen_predicateOpener : EndsAtParen PredicateOpener :=
  (endsAtParen_opener isKeyword_using).or (endsAtParen_opener isKeyword_withCheck)

theorem PredicateOpener.edge {s : Text} (hs : PredicateOpener s) (t : Text) :
    (t ++ s).reverse.head?.any Text.isWord = false := by
  obtain ⟨front, rfl, -⟩ := endsAtParen_predicateOpener s hs
  refine edge_of_getLast? fun x hx => ?_
  obtain rfl : '(' = x := by simpa using hx
  decide

theorem not_sameLetters_check_using {w : Text} (hcheck : Text.SameLetters "CHECK" w) :
    ¬Text.SameLetters "USING" w := by
  intro husing
  cases w with
  | nil => cases hcheck
  | cons x w =>
    have hc : Text.sameLetter 'C' x = true := (List.forall₂_cons.mp hcheck).1
    have hu : Text.sameLetter 'U' x = true := (List.forall₂_cons.mp husing).1
    simp only [Text.sameLetter, Bool.or_eq_true, beq_iff_eq] at hc hu
    have hc' : x.toLower = 'c' := by simpa using hc
    have hu' : x.toLower = 'u' := by simpa using hu
    exact absurd (hc'.symm.trans hu') (by decide)

theorem not_predicateOpener_append {a s : Text} {b : Char} (hs : PredicateOpener s)
    (hb : Text.isBlank b = true) : ¬PredicateOpener (a ++ b :: s) := by
  rintro (h | h)
  · rcases hs with h' | h'
    · exact absurd (h.keywords_of_append h' hb isKeyword_using isKeyword_using).1 (by decide)
    · exact absurd (h.keywords_of_append h' hb isKeyword_using isKeyword_withCheck).1 (by decide)
  · rcases hs with h' | h'
    · have hall := (h.keywords_of_append h' hb isKeyword_withCheck isKeyword_using).2
      obtain ⟨w, hcheck, husing⟩ := (List.forall₂_cons.mp hall).1
      exact not_sameLetters_check_using hcheck husing
    · exact absurd (h.keywords_of_append h' hb isKeyword_withCheck isKeyword_withCheck).1 (by decide)

theorem standsAt_append_predicateOpener {before v s rest : Text} (hne : v ≠ [])
    (hlast : ∀ b ∈ v.getLast?, Text.isBlank b = true) (hs : PredicateOpener s) :
    StandsAt PredicateOpener before (v ++ (s ++ rest)) ↔ StandsAt PredicateOpener before v := by
  obtain ⟨front, hfront, hopen, -⟩ := endsAtParen_predicateOpener s hs
  have hmem : '(' ∈ v ++ s := by simp [hfront]
  rw [← List.append_assoc, standsAt_append_of_mem endsAtParen_predicateOpener hmem]
  refine and_congr_right fun _ => exists_congr fun o => and_congr_right fun ho => ?_
  refine ⟨fun hbegins => ?_, fun hbegins => hbegins.trans (List.prefix_append v s)⟩
  rcases List.prefix_or_prefix_of_prefix hbegins (List.prefix_append v s) with hshort | ⟨w, rfl⟩
  · exact hshort
  have hw := (List.prefix_append_right_inj v).mp hbegins
  obtain ⟨front', hfront', -⟩ := endsAtParen_predicateOpener _ ho
  rcases List.eq_nil_or_concat w with rfl | ⟨init, c, rfl⟩
  · simp
  obtain rfl : c = '(' := by
    have := congrArg List.getLast? hfront'
    simpa using this
  rw [hfront] at hw
  rcases List.prefix_concat_iff.mp hw with heq | hin
  · obtain ⟨a, b, rfl⟩ := (List.eq_nil_or_concat v).resolve_left hne
    rw [heq, ← hfront] at ho
    refine absurd ?_ (not_predicateOpener_append (a := a) hs (hlast b (by simp)))
    simpa using ho
  · exact absurd (hin.subset (by simp)) hopen

theorem clauseHead_congr {head s s' : Text} (hlast : ∀ b ∈ head.getLast?, Text.isBlank b = true)
    (hs : PredicateOpener s) (hs' : PredicateOpener s') (rest rest' : Text) :
    clauseHead (head ++ (s ++ rest)) = clauseHead (head ++ (s' ++ rest')) := by
  have hbefore : head.reverse.head?.any Text.isWord = false :=
    edge_of_getLast? fun b hb => Text.isWord_of_isBlank (hlast b hb)
  refine predicateOpener_finds.textBefore_congr (fun u v huv hv => ?_)
    ⟨hbefore, s, hs, List.prefix_append s rest⟩ ⟨hbefore, s', hs', List.prefix_append s' rest'⟩
  have hblank : ∀ b ∈ v.getLast?, Text.isBlank b = true := by
    rwa [huv, List.getLast?_append_of_ne_nil u hv] at hlast
  rw [standsAt_append_predicateOpener hv hblank hs, standsAt_append_predicateOpener hv hblank hs']

theorem PredicateOpener.mem {s : Text} (hs : PredicateOpener s) {x : Char} (hx : x ∈ s) :
    Text.isWord x = true ∨ Text.isBlank x = true ∨ x = '(' := by
  have hchars : ∀ {ks : List Text}, (∀ k ∈ ks, Text.IsKeyword k) → Opener ks s →
      Text.isWord x = true ∨ Text.isBlank x = true ∨ x = '(' := by
    intro ks hks h
    obtain ⟨front, rfl, hfront, -⟩ := h.cut hks
    rcases List.mem_append.mp hx with hx | hx
    · exact (hfront x hx).imp_right .inl
    · exact .inr (.inr (List.mem_singleton.mp hx))
  exact hs.elim (hchars isKeyword_using) (hchars isKeyword_withCheck)

theorem PredicateOpener.not_mem {s : Text} (hs : PredicateOpener s) {x : Char} (hword : Text.isWord x = false)
    (hblank : Text.isBlank x = false) (hx : x ≠ '(') : x ∉ s := by
  intro hm
  rcases hs.mem hm with h | h | h
  · rw [hword] at h
    exact absurd h (by simp)
  · rw [hblank] at h
    exact absurd h (by simp)
  · exact hx h

theorem plain_of_words {f : Text} (h : ∀ x ∈ f, Text.isWord x = true ∨ Text.isBlank x = true) :
    Closed f ∧ Unmarked f ∧ '(' ∉ f ∧ ';' ∉ f := by
  have houtside : ∀ c, Text.isWord c = false → Text.isBlank c = false → c ∉ f := by
    intro c hword hblank hc
    rcases h c hc with hx | hx
    · exact absurd (hword.symm.trans hx) (by simp)
    · exact absurd (hblank.symm.trans hx) (by simp)
  have hparen := houtside '(' (by decide) (by decide)
  have hunmarked : Unmarked f :=
    unmarked_of_not_mem (houtside '-' (by decide) (by decide)) (houtside '/' (by decide) (by decide))
  refine ⟨closed_of_plain fun x hx => ?_, hunmarked, hparen, houtside ';' (by decide) (by decide)⟩
  have hne : ∀ c, c ∉ f → x ≠ c := by
    rintro c hc rfl
    exact hc hx
  have hsingle := hne '\'' (houtside '\'' (by decide) (by decide))
  have hdouble := hne '"' (houtside '"' (by decide) (by decide))
  have hclose := hne ')' (houtside ')' (by decide) (by decide))
  simp [Nesting.isPlain, isQuote, hsingle, hdouble, hne '(' hparen, hclose]

theorem PredicateOpener.keywords {s : Text} (hs : PredicateOpener s) :
    ∃ front, s = front ++ ['('] ∧ ∀ x ∈ front, Text.isWord x = true ∨ Text.isBlank x = true := by
  obtain ⟨front, rfl, hopen, -⟩ := endsAtParen_predicateOpener s hs
  refine ⟨front, rfl, fun x hx => ?_⟩
  rcases hs.mem (List.mem_append_left ['('] hx) with hword | hblank | rfl
  · exact .inl hword
  · exact .inr hblank
  · exact absurd hx hopen

theorem PredicateOpener.clause {s p w : Text} (hs : PredicateOpener s) (hp : Closed p ∧ Unmarked p)
    (hw : Uncut w ∧ Unmarked w) : Uncut (s ++ (p ++ ')' :: w)) ∧ Unmarked (s ++ (p ++ ')' :: w)) := by
  obtain ⟨front, rfl, hwords⟩ := hs.keywords
  obtain ⟨hclosed, hunmarked, -, hsemi⟩ := plain_of_words hwords
  constructor
  · have hclause := (hclosed.uncut hsemi).append (hp.1.uncut_enclosed.append hw.1)
    have hshape : front ++ ('(' :: (p ++ [')']) ++ w) = front ++ ['('] ++ (p ++ ')' :: w) := by simp
    rwa [hshape] at hclause
  · have hbehind : Unmarked (p ++ ')' :: w) := hp.2.append_cons hw.2 (by decide)
    rw [List.append_assoc]
    exact hunmarked.append_cons hbehind (by decide)

theorem firstStatement_append_predicateOpener {head s : Text} (hunmarked : Unmarked head)
    (hsemi : ';' ∉ head) (hs : PredicateOpener s) (rest : Text) :
    ∃ r, firstStatement (withoutComments (head ++ (s ++ rest))) = head ++ (s ++ r) := by
  obtain ⟨front, hfront, -⟩ := endsAtParen_predicateOpener s hs
  have hlast : (head ++ s).getLast? = some '(' := by simp [hfront]
  have hopener : Unmarked (head ++ s) := by
    have hmark : ∀ x ∈ ['-', '/', '*'], x ∉ s := by
      simp only [List.forall_mem_cons, List.not_mem_nil, false_implies, implies_true, and_true]
      exact ⟨hs.not_mem (by decide) (by decide) (by decide), hs.not_mem (by decide) (by decide) (by decide),
        hs.not_mem (by decide) (by decide) (by decide)⟩
    obtain ⟨x, more, rfl⟩ := List.exists_cons_of_ne_nil (by simp [hfront] : s ≠ [])
    have hmore : Unmarked more := unmarked_of_not_mem
      (fun hm => hmark '-' (by simp) (List.mem_cons_of_mem x hm))
      (fun hm => hmark '/' (by simp) (List.mem_cons_of_mem x hm))
    refine hunmarked.append_cons hmore ⟨?_, ?_, ?_⟩
    all_goals
      rintro rfl
      exact hmark _ (by simp) List.mem_cons_self
  have hcut : ';' ∉ head ++ s := by
    simpa [hsemi] using hs.not_mem (by decide) (by decide) (by decide)
  obtain ⟨bare, hbare⟩ := hopener.withoutComments_append (fun c hc => by
    obtain rfl : '(' = c := Option.some.inj (hlast.symm.trans hc)
    decide) rest
  have hend : ∀ c ∈ (head ++ s).getLast?, Text.isBlank c = false := by
    intro c hc
    obtain rfl : '(' = c := Option.some.inj (hlast.symm.trans hc)
    decide
  rw [← List.append_assoc, hbare, firstStatement, statementExtent_append hcut, Text.trimEnd_append hend,
    List.append_assoc]
  exact ⟨_, rfl⟩

/-- What stands from the first predicate on has no influence on command, roles and kind of a policy. -/
theorem policyClauses_head {head r r' : Text} (hlast : ∀ b ∈ head.getLast?, Text.isBlank b = true)
    (hunmarked : Unmarked head) (hsemi : ';' ∉ head) (hr : ∃ s, PredicateOpener s ∧ s <+: r)
    (hr' : ∃ s, PredicateOpener s ∧ s <+: r') :
    (policyClauses (head ++ r)).command = (policyClauses (head ++ r')).command ∧
      (policyClauses (head ++ r)).roles = (policyClauses (head ++ r')).roles ∧
      (policyClauses (head ++ r)).permissive = (policyClauses (head ++ r')).permissive := by
  obtain ⟨s, hs, rest, rfl⟩ := hr
  obtain ⟨s', hs', rest', rfl⟩ := hr'
  obtain ⟨q, hq⟩ := firstStatement_append_predicateOpener hunmarked hsemi hs rest
  obtain ⟨q', hq'⟩ := firstStatement_append_predicateOpener hunmarked hsemi hs' rest'
  have hhead : clauseHead (firstStatement (withoutComments (head ++ (s ++ rest)))) =
      clauseHead (firstStatement (withoutComments (head ++ (s' ++ rest')))) := by
    rw [hq, hq']
    exact clauseHead_congr hlast hs hs' q q'
  exact ⟨congrArg commandOf hhead, congrArg rolesOf hhead,
    congrArg (fun h => !restrictiveClause.occursIn h) hhead⟩

def updateHead : Text :=
  "AS restrictive FOR UPDATE TO app\n"

theorem policyClauses_updateHead :
    (∀ b ∈ updateHead.getLast?, Text.isBlank b = true) ∧ Unmarked updateHead ∧ ';' ∉ updateHead ∧
    PredicateOpener "With check (" ∧ PredicateOpener "uSiNG (" ∧
    policyClauses (updateHead ++ "uSiNG (true)") =
      ⟨"UPDATE", ["app"], some "true", none, false⟩ ∧
    (policyClauses (updateHead ++ "With check ('/* FOR ALL TO root; --")).command = "UPDATE" ∧
    (policyClauses (updateHead ++ "With check ('/* FOR ALL TO root; --")).roles = [("app" : Text)] ∧
    (policyClauses (updateHead ++ "With check ('/* FOR ALL TO root; --")).permissive = false := by
  have hlast : ∀ b ∈ updateHead.getLast?, Text.isBlank b = true := (Option.all_eq_true _ _).mp (by decide)
  have hunmarked : Unmarked updateHead := by decide +kernel
  have hsemi : ';' ∉ updateHead := by decide
  have hspelled : Text.SameLetters "WITH" "With" ∧ Text.SameLetters "CHECK" "check" ∧
      Text.SameLetters "USING" "uSiNG" := by decide
  have hspace : ∀ x ∈ [' '], Text.isBlank x = true := List.forall_mem_singleton.mpr (by decide)
  have hcheck : PredicateOpener "With check (" :=
    .inr (Opener.more hspelled.1 (by simp) hspace (Opener.last hspelled.2.1 hspace))
  have husing : PredicateOpener "uSiNG (" := .inl (Opener.last hspelled.2.2 hspace)
  have hvalue : policyClauses (updateHead ++ "uSiNG (true)") =
      ⟨"UPDATE", ["app"], some "true", none, false⟩ := by
    have hwhole : Unmarked (updateHead ++ "uSiNG (true)") := by decide +kernel
    rw [policyClauses, hwhole.withoutComments_eq]
    decide +kernel
  have hfirst : ∃ s, PredicateOpener s ∧ s <+: ("With check ('/* FOR ALL TO root; --" : Text) :=
    ⟨_, hcheck, "'/* FOR ALL TO root; --", rfl⟩
  have hsecond : ∃ s, PredicateOpener s ∧ s <+: ("uSiNG (true)" : Text) := ⟨_, husing, "true)", rfl⟩
  have hsame := policyClauses_head hlast hunmarked hsemi hfirst hsecond
  rw [hvalue] at hsame
  exact ⟨hlast, hunmarked, hsemi, hcheck, husing, hvalue, hsame⟩

end DdlAtlas.Sql
