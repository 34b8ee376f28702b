import DdlAtlas.Json.Reader

/-!
# Data values on one line

A text is written between quotes with nothing escaped but quotes, backslashes and control characters, and
the parts of a value stand on one line with blanks between them. Such a text is read back up to its closing
quote, and without a closing quote it is refused. A quote inside it stands behind a backslash, so that an
object cannot begin there.
-/

namespace DdlAtlas.Json

def NeedsEscape (c : Char) : Prop :=
  c = '"' ∨ c = '\\' ∨ c.val < 32

instance (c : Char) : Decidable (NeedsEscape c) :=
  inferInstanceAs (Decidable (_ ∨ _ ∨ _))

/-- A character as it stands between quotes; only one that has to be is escaped, shortly or by its
number. -/
inductive EscapesChar : Char → Text → Prop
  | raw {c : Char} (h : ¬NeedsEscape c) : EscapesChar c [c]
  | short {c e : Char} (h : NeedsEscape c) (he : shortEscape? e = some c) : EscapesChar c ['\\', e]
  | unit {c a b d e : Char} (h : NeedsEscape c) (hunit : hexUnit? [a, b, d, e] = some (c.toNat, [])) :
    EscapesChar c ['\\', 'u', a, b, d, e]

inductive Escapes : Text → Text → Prop
  | nil : Escapes [] []
  | cons {c : Char} {e t s : Text} (hc : EscapesChar c e) (ht : Escapes t s) : Escapes (c :: t) (e ++ s)

def IsLineGap (g : Text) : Prop :=
  ∀ c ∈ g, c = ' ' ∨ c = '\t'

inductive Laid : List Text → Text → Prop
  | nil {g : Text} (hg : IsLineGap g) : Laid [] g
  | cons {g part s : Text} {parts : List Text} (hg : IsLineGap g) (hs : Laid parts s) :
    Laid (part :: parts) (g ++ (part ++ s))

theorem skipGap_append {g rest : Text} (hg : IsLineGap g) (hrest : rest.head?.any isGap = false) :
    skipGap (g ++ rest) = rest := by
  have hgap : ∀ c ∈ g, isGap c = true := by
    intro c hc
    rcases hg c hc with rfl | rfl <;> decide
  rw [skipGap, List.dropWhile_append_of_pos hgap]
  cases rest with
  | nil => rfl
  | cons c rest => exact List.dropWhile_cons_of_neg (by simpa using hrest)

theorem Laid.skipGap_end {s rest : Text} (h : Laid [] s) (hrest : rest.head?.any isGap = false) :
    skipGap (s ++ rest) = rest := by
  cases h with
  | nil hg => exact skipGap_append hg hrest

theorem Laid.skipGap_part {part s : Text} {parts : List Text} (h : Laid (part :: parts) s)
    (hpart : part.head?.any isGap = false) (hne : part ≠ []) :
    ∃ s', Laid parts s' ∧ ∀ rest, skipGap (s ++ rest) = part ++ (s' ++ rest) := by
  cases h with
  | cons hg hs =>
    refine ⟨_, hs, fun rest => ?_⟩
    obtain ⟨c, tail, rfl⟩ := List.exists_cons_of_ne_nil hne
    rw [List.append_assoc, List.append_assoc]
    exact skipGap_append hg hpart

theorem Laid.around {front back : List Text} {part s : Text} (h : Laid (front ++ part :: back) s) :
    ∃ p q, Laid front p ∧ Laid back q ∧ s = p ++ (part ++ q) := by
  induction front generalizing s with
  | nil =>
    cases h with
    | cons hg hs => exact ⟨_, _, .nil hg, hs, rfl⟩
  | cons f front ih =>
    cases h with
    | cons hg hs =>
      obtain ⟨p, q, hp, hq, rfl⟩ := ih hs
      exact ⟨_, q, .cons hg hp, hq, by simp⟩

theorem laid_concat (parts : List Text) : Laid parts (Text.concat parts) := by
  have hgap : IsLineGap [] := by simp [IsLineGap]
  induction parts with
  | nil => exact .nil hgap
  | cons part parts ih => exact .cons hgap ih

theorem Laid.forall {P : Char → Prop} {parts : List Text} {s : Text} (h : Laid parts s)
    (hblank : P ' ') (htab : P '\t') (hparts : ∀ part ∈ parts, ∀ c ∈ part, P c) : ∀ c ∈ s, P c := by
  have hgap : ∀ g, IsLineGap g → ∀ c ∈ g, P c := by
    intro g hg c hc
    rcases hg c hc with rfl | rfl
    · exact hblank
    · exact htab
  induction h with
  | nil hg => exact hgap _ hg
  | cons hg _ ih =>
    obtain ⟨hpart, hparts⟩ := List.forall_mem_cons.mp hparts
    exact List.forall_mem_append.mpr ⟨hgap _ hg, List.forall_mem_append.mpr ⟨hpart, ih hparts⟩⟩

theorem hexUnit?_append {a b d e : Char} {n : Nat} (rest : Text)
    (h : hexUnit? [a, b, d, e] = some (n, [])) : hexUnit? (a :: b :: d :: e :: rest) = some (n, rest) := by
  simp only [hexUnit?] at h ⊢
  split at h
  · simpa using h
  · simp at h

theorem toNat_lt_of_needsEscape {c : Char} (h : NeedsEscape c) : c.toNat < 128 := by
  rcases h with rfl | rfl | h
  · decide
  · decide
  · exact Nat.lt_trans (UInt32.lt_iff_toNat_lt.mp h) (by decide)

theorem escapedUnit?_of_unit {a b d e c x : Char} (rest : Text) (h : NeedsEscape c)
    (hunit : hexUnit? [a, b, d, e] = some (c.toNat, [])) :
    escapedUnit? (a :: b :: d :: e :: x :: rest) = some (.char c, x :: rest) := by
  have hsmall := toNat_lt_of_needsEscape h
  have hlow : ¬(0xd800 ≤ c.toNat ∧ c.toNat < 0xdc00) := by omega
  have hhigh : ¬(0xdc00 ≤ c.toNat ∧ c.toNat < 0xe000) := by omega
  rw [escapedUnit?, hexUnit?_append (x :: rest) hunit]
  simp only [if_neg hlow, if_neg hhigh, Char.ofNat_toNat]

theorem ne_u_of_shortEscape? {e c : Char} (h : shortEscape? e = some c) : e ≠ 'u' := by
  rintro rfl
  simp [shortEscape?] at h

theorem stringRest_nil (opening bound : Text) :
    stringRest [] opening bound [] = .error (.malformed (opening.length + 1)) := by
  cases bound <;> rfl

@[simp] theorem Quoted.consSent_nil (c : Char) (behind : Text) (q : Quoted) :
    q.consSent [] c behind = q.cons c := by
  simp [consSent]

theorem stringRest_raw {c d : Char} {opening bound rest : Text} (h : ¬NeedsEscape c) :
    stringRest [] opening (d :: bound) (c :: rest) =
      (stringRest [] opening bound rest).map fun (q, r) => (q.cons c, r) := by
  simp only [NeedsEscape, not_or] at h
  rw [stringRest.eq_def]
  simp only [if_neg h.1, if_neg h.2.2, if_neg h.2.1, Quoted.consSent_nil]

theorem stringRest_short {c d e : Char} {opening bound rest : Text} (h : shortEscape? e = some c) :
    stringRest [] opening (d :: bound) ('\\' :: e :: rest) =
      (stringRest [] opening bound rest).map fun (q, r) => (q.cons c, r) := by
  have hu := ne_u_of_shortEscape? h
  rw [stringRest.eq_def]
  simp only [if_neg (by decide : '\\' ≠ '"'), if_neg (by decide : ¬('\\'.val < 32)), if_true, h]

theorem stringRest_unit {d : Char} {opening bound digits : Text} :
    stringRest [] opening (d :: bound) ('\\' :: 'u' :: digits) =
      match escapedUnit? digits with
      | some (x, rest) => (stringRest [] opening bound rest).map fun (q, r) => (q.consEscaped x, r)
      | none => faultAt ('u' :: digits) := by
  rw [stringRest.eq_def]
  rfl

theorem stringRest_char {c d x : Char} {e opening bound rest : Text} (h : EscapesChar c e) :
    stringRest [] opening (d :: bound) (e ++ x :: rest) =
      (stringRest [] opening bound (x :: rest)).map fun (q, r) => (q.cons c, r) := by
  cases h with
  | raw hraw => exact stringRest_raw hraw
  | short hneeds he => exact stringRest_short he
  | unit hneeds hunit =>
    simp only [List.cons_append, List.nil_append]
    rw [stringRest_unit, escapedUnit?_of_unit rest hneeds hunit]
    rfl

theorem stringRest_last {c : Char} {e : Text} (opening bound : Text) (h : EscapesChar c e) :
    ∃ fault, stringRest [] opening bound e = .error fault := by
  cases bound with
  | nil => exact ⟨_, rfl⟩
  | cons d bound =>
    cases h with
    | raw hraw =>
      rw [stringRest_raw hraw, stringRest_nil]
      exact ⟨_, rfl⟩
    | short hneeds he =>
      rw [stringRest_short he, stringRest_nil]
      exact ⟨_, rfl⟩
    | unit hneeds hunit =>
      rw [stringRest_unit, escapedUnit?, hunit]
      exact ⟨_, rfl⟩

theorem length_pos_of_escapesChar {c : Char} {e : Text} (h : EscapesChar c e) : 0 < e.length := by
  cases h <;> simp

theorem stringRest_escapes {t s opening bound : Text} (rest : Text) (h : Escapes t s)
    (hbound : s.length < bound.length) :
    stringRest [] opening bound (s ++ '"' :: rest) = .ok (⟨t, none⟩, rest) := by
  induction h generalizing bound with
  | nil =>
    obtain ⟨d, bound, rfl⟩ := List.exists_cons_of_length_pos (by omega : 0 < bound.length)
    rfl
  | @cons c e t s hc ht ih =>
    obtain ⟨d, bound, rfl⟩ := List.exists_cons_of_length_pos (by omega : 0 < bound.length)
    have hpos := length_pos_of_escapesChar hc
    have hshort : s.length < bound.length := by
      simp only [List.length_append, List.length_cons] at hbound
      omega
    obtain ⟨x, more, hmore⟩ : ∃ x more, s ++ '"' :: rest = x :: more :=
      List.exists_cons_of_ne_nil (by simp)
    rw [List.append_assoc, hmore, stringRest_char hc, ← hmore, ih hshort]
    rfl

theorem stringRest_open {t s : Text} (opening bound : Text) (h : Escapes t s) :
    ∃ fault, stringRest [] opening bound s = .error fault := by
  induction h generalizing bound with
  | nil => exact ⟨_, stringRest_nil opening bound⟩
  | @cons c e t s hc ht ih =>
    cases s with
    | nil =>
      rw [List.append_nil]
      exact stringRest_last opening bound hc
    | cons x s =>
      cases bound with
      | nil => exact ⟨_, by rw [stringRest]⟩
      | cons d bound =>
        obtain ⟨fault, hfault⟩ := ih bound
        rw [stringRest_char hc, hfault]
        exact ⟨_, rfl⟩

theorem stringRest_plain {s : Text} (opening bound : Text) (h : ∀ c ∈ s, c ≠ '"' ∧ c ≠ '\\') :
    ∃ fault, stringRest [] opening bound s = .error fault := by
  induction s generalizing bound with
  | nil => exact ⟨_, stringRest_nil opening bound⟩
  | cons c s ih =>
    obtain ⟨⟨hquote, hslash⟩, hs⟩ := List.forall_mem_cons.mp h
    cases bound with
    | nil => exact ⟨_, by rw [stringRest]⟩
    | cons d bound =>
      by_cases hcontrol : c.val < 32
      · rw [stringRest.eq_def]
        simp only [if_neg hquote, if_pos hcontrol]
        exact ⟨_, rfl⟩
      · obtain ⟨fault, hfault⟩ := ih bound hs
        rw [stringRest_raw (by simp [NeedsEscape, hquote, hslash, hcontrol]), hfault]
        exact ⟨_, rfl⟩

theorem head?_escapes {t s : Text} (h : Escapes t s) : s.head? ≠ some '"' := by
  cases h with
  | nil => simp
  | cons hc ht =>
    cases hc with
    | raw hraw => simpa using fun heq => hraw (.inl heq)
    | short => simp
    | unit => simp

theorem quote_not_mem_hexUnit {a b d e : Char} {n : Nat} (h : hexUnit? [a, b, d, e] = some (n, [])) :
    '"' ∉ ['u', a, b, d, e] := by
  have hdigit : hexDigit? '"' = none := by decide
  intro hmem
  simp only [List.mem_cons, List.not_mem_nil, or_false] at hmem
  rcases hmem with hu | rfl | rfl | rfl | rfl
  · exact absurd hu (by decide)
  all_goals simp [hexUnit?, hdigit] at h

theorem escapes_append_quote {t s u a r : Text} {x : Char} (h : Escapes t s)
    (heq : s ++ u = a ++ x :: '"' :: r) : x = '\\' ∨ ∃ a', u = a' ++ '"' :: r := by
  induction h generalizing a with
  | nil => exact .inr ⟨a ++ [x], by simpa using heq⟩
  | @cons c e t s hc ht ih =>
    have hsplit : e ++ (s ++ u) = (a ++ [x]) ++ '"' :: r := by simpa using heq
    have hedge : s ++ u = '"' :: r → ∃ a', u = a' ++ '"' :: r := by
      intro hs
      have hhead := head?_escapes ht
      cases s with
      | nil => exact ⟨[], hs⟩
      | cons y s => exact absurd (by rw [(List.cons.inj hs).1]; rfl) hhead
    rcases List.append_eq_append_iff.mp hsplit with ⟨w, hw, hrest⟩ | ⟨w, hw, hrest⟩
    · rcases List.eq_nil_or_concat w with rfl | ⟨w, y, rfl⟩
      · exact .inr (hedge hrest)
      · rw [List.concat_eq_append] at hw hrest
        obtain ⟨-, hy⟩ := List.append_inj' (hw.trans (List.append_assoc e w [y]).symm) rfl
        obtain rfl := (List.cons.inj hy).1
        exact ih (by simpa using hrest)
    · cases w with
      | nil => exact .inr (hedge hrest.symm)
      | cons y w =>
        obtain ⟨rfl, -⟩ := List.cons.inj hrest
        cases hc with
        | raw hraw =>
          have hlen := congrArg List.length hw
          simp only [List.length_append, List.length_cons, List.length_nil] at hlen
          omega
        | short =>
          have hlen := congrArg List.length hw
          have ha : a = [] := List.eq_nil_of_length_eq_zero (by simp at hlen; omega)
          subst ha
          exact .inl (List.cons.inj hw).1.symm
        | unit hneeds hunit =>
          have hmem : '"' ∈ a ++ [x] ++ '"' :: w := by simp
          rw [← hw] at hmem
          rcases List.mem_cons.mp hmem with hslash | hmem
          · exact absurd hslash (by decide)
          · exact absurd hmem (quote_not_mem_hexUnit hunit)

end DdlAtlas.Json
