import DdlAtlas.Proofs.Column.Cut
import DdlAtlas.Proofs.Pattern.Run

/-!
# The type of a declared column

A type with a precision or with array bounds is read exactly. A type of words alone is read together with
the keywords behind it, and in one case or the other the cuts leave the type that was written.
-/

namespace DdlAtlas

namespace Pattern

variable {next : Cursor → Option Cursor}

theorem isSome_run_optional (h : ∀ c, (next c).isSome = true) (p : Pattern) (c : Cursor) :
    ((optional p).run next c).isSome = true := by
  cases hp : p.run next c <;> simp [optional, run, hp, h c]

theorem isSome_run_many (h : ∀ c, (next c).isSome = true) (p : Pattern) (c : Cursor) :
    ((many p).run next c).isSome = true := by
  cases hb : c.rest with
  | nil => simp [run, hb, rounds, h c]
  | cons x bound =>
    cases hp : p.run (rounds p.run next bound) c <;> simp [run, hb, rounds, hp, h c]

end Pattern

namespace Sql

open Pattern

def isTypeChar (c : Char) : Bool :=
  Text.isWord c || Text.isBlank c || c == '.'

def typeRest : Pattern :=
  sequence [optional (sequence [exactly "(", solid (· != ')'), exactly ")"]), many arrayBound,
    optional (sequence [space, word "ARRAY", optional arrayBound])]

theorem typeExpression_eq :
    typeExpression = group 1 (sequence [solid1 isTypeChar, typeRest]) :=
  rfl

theorem isSome_run_typeRest {next : Cursor → Option Cursor} (h : ∀ c, (next c).isSome = true)
    (c : Cursor) : (typeRest.run next c).isSome = true := by
  rw [typeRest, run_sequence_cons]
  refine isSome_run_optional (fun d => ?_) _ c
  rw [run_sequence_cons]
  refine isSome_run_many (fun e => ?_) _ d
  exact isSome_run_optional h _ e

theorem typeExpression_of_run {s rest : Text} (hne : s ≠ []) (hs : ∀ c ∈ s, isTypeChar c = true)
    (hrest : ∀ x ∈ rest.head?, isTypeChar x = false) {d : Cursor}
    (hrun : typeRest.run (fun d => some (d.close 1 (.start (s ++ rest)))) ⟨s.reverse, rest, s.length, []⟩ =
      some (d.close 1 (.start (s ++ rest)))) :
    ∃ m, typeExpression.match? (s ++ rest) = some m ∧ m.group 1 = (s ++ rest).take d.position := by
  have hmatch : typeExpression.run some (.start (s ++ rest)) =
      some (d.close 1 (.start (s ++ rest))) := by
    rw [typeExpression_eq, run, run_sequence_cons]
    refine (run_solid1 hne hs hrest).trans ?_
    simpa [Cursor.start, Pattern.sequence] using hrun
  refine ⟨⟨_, d.close 1 (.start (s ++ rest))⟩, by rw [match?, matchAt?, hmatch, Option.map_some], ?_⟩
  simp [Match.group, Match.group?, Cursor.close, Cursor.start]

theorem typeExpression_covers {s rest : Text} (hne : s ≠ []) (hs : ∀ c ∈ s, isTypeChar c = true) :
    ∃ m r, typeExpression.match? (s ++ rest) = some m ∧ r <+: rest ∧ m.group 1 = s ++ r := by
  have hsplit := List.takeWhile_append_dropWhile (p := isTypeChar) (l := rest)
  have hwords : ∀ x ∈ s ++ rest.takeWhile isTypeChar, isTypeChar x = true := by
    intro x hx
    rcases List.mem_append.mp hx with hx | hx
    · exact hs x hx
    · exact List.all_eq_true.mp List.all_takeWhile x hx
  have hstop : ∀ x ∈ (rest.dropWhile isTypeChar).head?, isTypeChar x = false := by
    intro x hx
    have := List.head?_dropWhile_not isTypeChar rest
    rw [Option.mem_def.mp hx] at this
    simpa using this
  generalize rest.takeWhile isTypeChar = u at *
  generalize rest.dropWhile isTypeChar = v at *
  subst hsplit
  rw [← List.append_assoc]
  have htotal : (typeRest.run (fun d => some (d.close 1 (.start ((s ++ u) ++ v))))
      ⟨(s ++ u).reverse, v, (s ++ u).length, []⟩).isSome = true :=
    isSome_run_typeRest (fun _ => rfl) _
  obtain ⟨e, he⟩ := Option.isSome_iff_exists.mp htotal
  obtain ⟨d, hd, hde⟩ := reads_of_run he
  obtain ⟨t, ht⟩ := hd.passed
  obtain ⟨m, hm, hgroup⟩ := typeExpression_of_run (by simp [hne]) hwords hstop (hde ▸ he)
  have hback : v = t ++ d.rest := ht.rest
  have hposition : d.position = (s ++ u ++ t).length := by
    rw [ht.position]
    exact List.length_append.symm
  refine ⟨m, u ++ t, hm, ⟨d.rest, by rw [List.append_assoc, ← hback]⟩, ?_⟩
  rw [hgroup, hposition, hback, ← List.append_assoc, List.take_left, List.append_assoc]

variable {next : Cursor → Option Cursor} {before rest : Text} {position : Nat} {groups : List Capture}

theorem run_rounds_bounds (n : Nat) (hrest : ∀ x ∈ rest.head?, x ≠ '[') {bound : Text}
    (hbound : n ≤ bound.length) {d : Cursor}
    (hnext : next ⟨(TypeName.boundsText n).reverse ++ before, rest, position + (TypeName.boundsText n).length, groups⟩ =
      some d) :
    rounds arrayBound.run next bound ⟨before, TypeName.boundsText n ++ rest, position, groups⟩ = some d := by
  induction n generalizing bound before position with
  | zero =>
    have hnone : ∀ next', arrayBound.run next' ⟨before, rest, position, groups⟩ = none := fun next' => by
      refine run_eq_none_of_reads fun e he => ?_
      obtain ⟨f, ⟨x, more, hx, heq, -⟩, -⟩ := reads_sequence_cons.mp he
      obtain rfl : rest = x :: more := hx
      exact hrest x rfl (beq_iff_eq.mp heq)
    cases bound with
    | nil => exact hnext
    | cons b bound => simpa [rounds, TypeName.boundsText, hnone] using hnext
  | succ n ih =>
    obtain ⟨b, bound, rfl⟩ := List.exists_cons_of_length_pos (Nat.lt_of_lt_of_le (Nat.succ_pos n) hbound)
    have hshort : n ≤ bound.length := by simpa using hbound
    have hstep : rounds arrayBound.run next bound ⟨']' :: '[' :: before,
        TypeName.boundsText n ++ rest, position + 1 + 1, groups⟩ = some d := ih hshort (by
      rw [← hnext]
      simp only [TypeName.boundsText, List.reverse_cons, List.append_assoc, List.singleton_append,
        List.length_cons]
      congr 2
      omega)
    have hone : arrayBound.run (rounds arrayBound.run next bound)
        ⟨before, TypeName.boundsText (n + 1) ++ rest, position, groups⟩ = some d := by
      have hclose : ∀ x ∈ ((']' :: TypeName.boundsText n) ++ rest).head?, Text.isDigit x = false := by
        intro x hx
        obtain rfl : ']' = x := by simpa using hx
        decide
      rw [← hstep, arrayBound, run_sequence_cons]
      refine (run_exactly "[").trans ?_
      rw [run_sequence_cons]
      exact (run_solid (s := []) (by simp) hclose).trans (run_exactly "]")
    rw [rounds, hone]
    rfl

def Followed (rest : Text) : Prop :=
  rest = [] ∨ ∃ (c : Clause) (more : Text), rest = ' ' :: (c.keyword ++ more) ∧
    ∀ x ∈ more.head?, x = ' '

theorem Followed.head? {rest : Text} (h : Followed rest) : ∀ x ∈ rest.head?, x = ' ' := by
  rcases h with rfl | ⟨c, more, rfl, -⟩ <;> simp [eq_comm]

theorem Followed.not_array {rest : Text} (h : Followed rest) {ps : List Pattern} {c d : Cursor}
    (hc : c.rest = rest) : ¬(sequence (space :: word "ARRAY" :: ps)).Reads c d := by
  intro hd
  obtain ⟨e, hspace, hd⟩ := reads_sequence_cons.mp hd
  obtain ⟨f, hword, -⟩ := reads_sequence_cons.mp hd
  rcases h with rfl | ⟨clause, more, rfl, -⟩
  · obtain ⟨b, hb, hne, -⟩ := reads_space hspace
    exact hne (List.append_eq_nil_iff.mp (hb.rest.symm.trans hc)).1
  · have hfront : ∀ x ∈ (clause.keyword ++ more).head?, Text.isBlank x = false := by
      have hneat := clause.piece_keyword.neat
      rw [List.head?_append_of_ne_nil _ hneat.ne_nil]
      exact hneat.front
    refine not_reads_word (reads_single_space hspace hc hfront) ?_ hword
    cases clause <;> rfl

theorem run_bounds (n : Nat) (hrest : ∀ x ∈ rest.head?, x ≠ '[') {d : Cursor}
    (hnext : next ⟨(TypeName.boundsText n).reverse ++ before, rest, position + (TypeName.boundsText n).length, groups⟩ =
      some d) :
    (many arrayBound).run next ⟨before, TypeName.boundsText n ++ rest, position, groups⟩ = some d := by
  refine run_rounds_bounds n hrest ?_ hnext
  have : n ≤ (TypeName.boundsText n).length := by
    clear hnext
    induction n with
    | zero => simp
    | succ n ih =>
      simp only [TypeName.boundsText, List.length_cons]
      omega
  rw [List.length_append]
  omega

theorem run_precision {t : TypeName} (ht : t.Proper) (hrest : ∀ x ∈ rest.head?, x ≠ '(') {d : Cursor}
    (hnext : next ⟨t.precisionText.reverse ++ before, rest, position + t.precisionText.length, groups⟩ =
      some d) :
    (optional (sequence [exactly "(", solid (· != ')'), exactly ")"])).run next
      ⟨before, t.precisionText ++ rest, position, groups⟩ = some d := by
  cases hp : t.precision with
  | none =>
    have htext : t.precisionText = [] := by simp [TypeName.precisionText, hp]
    rw [htext] at hnext ⊢
    refine (run_optional_of_none (run_eq_none_of_reads fun e he => ?_)).trans hnext
    obtain ⟨f, ⟨x, more, hx, heq, -⟩, -⟩ := reads_sequence_cons.mp he
    obtain rfl : rest = x :: more := hx
    exact hrest x rfl (beq_iff_eq.mp heq)
  | some p =>
    have hdigits : ∀ x ∈ TypeName.digits p, (x != ')') = true := by
      intro x hx
      have : x ≠ ')' := fun he => ht.not_mem_digits hp (he ▸ hx)
      simpa using this
    have htext : t.precisionText = '(' :: (TypeName.digits p ++ [')']) := by
      simp [TypeName.precisionText, hp]
    rw [htext] at hnext ⊢
    refine run_alt_of_some ?_
    rw [run_sequence_cons, List.cons_append, List.append_assoc]
    refine (run_exactly "(").trans ?_
    rw [run_sequence_cons]
    refine (run_solid hdigits fun x hx => ?_).trans ((run_exactly ")").trans ?_)
    · obtain rfl : ')' = x := by simpa using hx
      decide
    rw [← hnext]
    simp [Nat.add_assoc, Nat.add_comm, Nat.add_left_comm]

theorem TypeName.head?_bounds (n : Nat) (hrest : Followed rest) :
    ∀ x ∈ (TypeName.boundsText n ++ rest).head?, x ≠ '(' := by
  intro x hx
  cases n with
  | zero =>
    rw [hrest.head? x (by simpa [TypeName.boundsText] using hx)]
    decide
  | succ n =>
    obtain rfl : '[' = x := by simpa [TypeName.boundsText] using hx
    decide

theorem run_typeRest {t : TypeName} (ht : t.Proper) (hrest : Followed rest) {d : Cursor}
    (hnext : next ⟨t.suffix.reverse ++ before, rest, position + t.suffix.length, groups⟩ = some d) :
    typeRest.run next ⟨before, t.suffix ++ rest, position, groups⟩ = some d := by
  have hlast : ∀ c : Cursor, c.rest = rest →
      (optional (sequence [space, word "ARRAY", optional arrayBound])).run next c = next c := fun c hc =>
    run_optional_of_none (run_eq_none_of_reads fun e he => hrest.not_array hc he)
  have hbracket : ∀ x ∈ rest.head?, x ≠ '[' := by
    intro x hx
    rw [hrest.head? x hx]
    decide
  rw [typeRest, run_sequence_cons, TypeName.suffix, List.append_assoc]
  refine run_precision ht (TypeName.head?_bounds t.bounds hrest) ?_
  rw [run_sequence_cons]
  refine run_bounds t.bounds hbracket ((hlast _ rfl).trans ?_)
  rw [← hnext]
  simp [TypeName.suffix, Nat.add_assoc]

theorem isTypeChar_of_isAsciiWord {c : Char} (h : Text.isAsciiWord c = true) : isTypeChar c = true := by
  simp [isTypeChar, Text.isWord_of_isAsciiWord h]

theorem TypeName.IsWord.isTypeChar {w : Text} (h : TypeName.IsWord w) :
    ∀ c ∈ w, isTypeChar c = true := by
  intro c hc
  have := List.all_eq_true.mp h.2 c hc
  simp only [Bool.or_eq_true, beq_iff_eq] at this
  rcases this with hword | rfl
  · exact isTypeChar_of_isAsciiWord hword
  · decide

theorem TypeName.Proper.isTypeChar_front {t : TypeName} (h : t.Proper) :
    ∀ c ∈ t.front, isTypeChar c = true := by
  intro c hc
  simp only [TypeName.front, Text.spaced, List.mem_append, List.mem_flatMap, List.mem_cons] at hc
  rcases hc with hc | ⟨w, hw, rfl | hc⟩
  · exact h.word.isTypeChar c hc
  · decide
  · exact (h.more w hw).isTypeChar c hc

theorem Clause.isTypeChar_keyword (c : Clause) : ∀ x ∈ ' ' :: c.keyword, isTypeChar x = true := by
  refine List.all_eq_true.mp ?_
  cases c <;> rfl

theorem TypeName.not_isTypeChar_suffix (t : TypeName) :
    ∀ x ∈ t.suffix.head?, isTypeChar x = false := by
  intro x hx
  rw [TypeName.suffix, TypeName.precisionText] at hx
  cases hp : t.precision with
  | none =>
    cases hn : t.bounds with
    | zero => simp [hp, hn, TypeName.boundsText] at hx
    | succ n =>
      obtain rfl : '[' = x := by simpa [hp, hn, TypeName.boundsText] using hx
      decide
  | some p =>
    obtain rfl : '(' = x := by simpa [hp] using hx
    decide

theorem typeExpression_written {t : TypeName} (ht : t.Proper) {rest : Text} (hrest : Followed rest) :
    ∃ m, typeExpression.match? (t.written ++ rest) = some m ∧ (m.group 1 = t.written ∨
      ∃ (c : Clause) (r : Text), m.group 1 = t.written ++ ' ' :: (c.keyword ++ r) ∧
        ∀ x ∈ r.head?, x = ' ') := by
  have hne : t.front ≠ [] := ht.piece_front.neat.ne_nil
  -- a suffix stops the words of the type; without one they run on into a keyword behind the type
  cases hsuffix : t.suffix with
  | nil =>
    rw [TypeName.written, hsuffix, List.append_nil]
    rcases hrest with rfl | ⟨c, more, rfl, hmore⟩
    · obtain ⟨m, r, hm, hr, hgroup⟩ := typeExpression_covers hne ht.isTypeChar_front
      rw [List.prefix_nil.mp hr, List.append_nil] at hgroup
      exact ⟨m, hm, .inl hgroup⟩
    · have hall : ∀ x ∈ t.front ++ ' ' :: c.keyword, isTypeChar x = true := by
        intro x hx
        rcases List.mem_append.mp hx with hx | hx
        · exact ht.isTypeChar_front x hx
        · exact c.isTypeChar_keyword x hx
      obtain ⟨m, r, hm, ⟨more', hr⟩, hgroup⟩ := typeExpression_covers (by simp) hall
      refine ⟨m, by simpa using hm, .inr ⟨c, r, by simpa using hgroup, fun x hx => hmore x ?_⟩⟩
      obtain ⟨tail, rfl⟩ := List.head?_eq_some_iff.mp (Option.mem_def.mp hx)
      rw [← hr]
      rfl
  | cons y more =>
    have hstop : ∀ x ∈ (t.suffix ++ rest).head?, isTypeChar x = false := by
      intro x hx
      rw [hsuffix] at hx
      obtain rfl : y = x := by simpa using hx
      exact t.not_isTypeChar_suffix y (by rw [hsuffix]; rfl)
    have hrun : typeRest.run (fun d => some (d.close 1 (.start (t.front ++ (t.suffix ++ rest)))))
        ⟨t.front.reverse, t.suffix ++ rest, t.front.length, []⟩ = some _ :=
      run_typeRest ht hrest rfl
    obtain ⟨m, hm, hgroup⟩ := typeExpression_of_run hne ht.isTypeChar_front hstop hrun
    refine ⟨m, by rw [TypeName.written, List.append_assoc, hm], .inl ?_⟩
    rw [hgroup, ← List.append_assoc, ← List.length_append, List.take_left, TypeName.written]

theorem columnType_written {t : TypeName} (ht : t.Proper) {rest : Text} (hrest : Followed rest)
    (hstops : typeStops.all (fun k => !Text.mentions k none t.written) = true) :
    columnType (t.written ++ rest) = .ok t.written := by
  have hneat := ht.piece_written.neat
  have hsilent : ∀ o ∈ Opening.trailing, Text.mentions o.first none t.written = false := by
    intro o ho
    have hsub : Opening.trailing.all (fun o => typeStops.contains o.first) = true := by decide
    have hmem : o.first ∈ typeStops := by simpa using List.all_eq_true.mp hsub o ho
    simpa using List.all_eq_true.mp hstops _ hmem
  obtain ⟨m, hm, hgroup⟩ := typeExpression_written ht hrest
  have hcut : Opening.cut Opening.trailing (m.group 1) = t.written := by
    rcases hgroup with hgroup | ⟨c, r, hgroup, hr⟩
    · rw [hgroup]
      exact Opening.cut_of_not_mentioned hneat fun o ho => ⟨Opening.isKeyword_of_mem ho, hsilent o ho⟩
    · rw [hgroup]
      exact cut_trailing c hneat hsilent hr
  have htrim : Text.trim (trailingClauses.foldl (fun t p => p.textBefore t) (m.group 1)) =
      t.written := by
    have hfold : trailingClauses.foldl (fun t p => p.textBefore t) (m.group 1) = t.written := by
      rw [Opening.trailingClauses_eq, List.foldl_map]
      exact hcut
    rw [hfold, Text.trim, Text.trimStart_eq_self hneat.front, Text.trimEnd_eq_self hneat.back]
  simp only [columnType, hm, htrim]
  split
  · rename_i hnil
    exact absurd hnil hneat.ne_nil
  · rfl

end Sql

end DdlAtlas
