import DdlAtlas.Proofs.Text.Blank
import DdlAtlas.Sql.Basic
import DdlAtlas.Text.Word

/-!
# Written names

A table is mentioned by its name, bare or between double quotes, and with or without the name of its
schema and a point in front. Reading a mention gives both names back.
-/

namespace DdlAtlas

namespace Text

theorem toNat_of_isAsciiWord {c : Char} (h : isAsciiWord c = true) :
    48 ≤ c.toNat ∧ c.toNat ≤ 122 := by
  have hranges : isAsciiWord c = (((decide (c.val ≥ 'A'.val ∧ c.val ≤ 'Z'.val) ||
      (decide (c.val ≥ 'a'.val) && decide (c.val ≤ 'z'.val))) ||
      (decide (c.val ≥ '0'.val) && decide (c.val ≤ '9'.val))) || c == '_') := rfl
  simp only [hranges, Bool.or_eq_true, Bool.and_eq_true, beq_iff_eq, decide_eq_true_eq, ge_iff_le,
    UInt32.le_iff_toNat_le, Char.reduceVal, UInt32.reduceToNat, Char.toNat_val] at h
  rcases h with ((h | h) | h) | rfl
  · omega
  · omega
  · omega
  · decide

theorem isWord_of_isAsciiWord {c : Char} (h : isAsciiWord c = true) : isWord c = true := by
  have hval : c.val < 128 := by
    rw [UInt32.lt_iff_toNat_lt, Char.toNat_val]
    exact Nat.lt_of_le_of_lt (toNat_of_isAsciiWord h).2 (by decide)
  simp [isWord, hval, h]

theorem isBlank_of_isAsciiWord {c : Char} (h : isAsciiWord c = true) : isBlank c = false := by
  cases hb : isBlank c with
  | false => rfl
  | true =>
    have hword := toNat_of_isAsciiWord h
    have hblank := toNat_of_isBlank hb
    omega

end Text

namespace Sql

def IsIdentifier (t : Text) : Prop :=
  t ≠ [] ∧ ∀ c ∈ t, Text.isAsciiWord c = true

instance (t : Text) : Decidable (IsIdentifier t) :=
  have := List.decidableBAll (fun c => Text.isAsciiWord c = true) t
  inferInstanceAs (Decidable (_ ∧ _))

namespace IsIdentifier

theorem not_mem {t : Text} {c : Char} (h : IsIdentifier t) (hc : Text.isAsciiWord c = false) :
    c ∉ t := by
  intro hm
  rw [h.2 c hm] at hc
  exact absurd hc (by simp)

theorem not_blank {t : Text} (h : IsIdentifier t) : Text.Unbroken t :=
  fun c hc => Text.isBlank_of_isAsciiWord (h.2 c hc)

end IsIdentifier

structure WrittenName where
  text : Text
  quoted : Bool
deriving DecidableEq

def WrittenName.written (n : WrittenName) : Text :=
  if n.quoted then '"' :: (n.text ++ ['"']) else n.text

structure Mention where
  schema : Option WrittenName
  table : WrittenName
deriving DecidableEq

namespace Mention

def written (m : Mention) : Text :=
  match m.schema with
  | none => m.table.written
  | some s => s.written ++ '.' :: m.table.written

def Named (m : Mention) : Prop :=
  (∀ s ∈ m.schema, IsIdentifier s.text) ∧ IsIdentifier m.table.text

instance (m : Mention) : Decidable m.Named :=
  inferInstanceAs (Decidable (_ ∧ _))

end Mention

theorem WrittenName.without_quotes (n : WrittenName) (h : IsIdentifier n.text) :
    Text.without '\x60' (Text.without '"' n.written) = n.text := by
  have hdouble : Text.without '"' n.text = n.text := Text.without_eq_self (h.not_mem (by decide))
  have hback : Text.without '\x60' n.text = n.text := Text.without_eq_self (h.not_mem (by decide))
  have hinner : Text.without '"' n.written = n.text := by
    rw [Text.without] at hdouble
    unfold written
    split <;> simp [Text.without, List.filter_append, hdouble]
  rw [hinner, hback]

theorem IsIdentifier.unquoted_eq {t : Text} (h : IsIdentifier t) : unquoted t = t := by
  have hbare : Text.without '\x60' (Text.without '"' t) = t :=
    WrittenName.without_quotes ⟨t, false⟩ h
  rw [unquoted, hbare]
  exact Text.trim_eq_self h.not_blank

theorem WrittenName.of_mem_written {n : WrittenName} (h : IsIdentifier n.text) {c : Char}
    (hc : c ∈ n.written) : c = '"' ∨ Text.isAsciiWord c = true := by
  unfold written at hc
  split at hc
  · simp only [List.mem_cons, List.mem_append, List.not_mem_nil, or_false] at hc
    rcases hc with rfl | hc | rfl
    · exact .inl rfl
    · exact .inr (h.2 c hc)
    · exact .inl rfl
  · exact .inr (h.2 c hc)

theorem Mention.of_mem_written {m : Mention} (h : m.Named) {c : Char} (hc : c ∈ m.written) :
    c = '"' ∨ c = '.' ∨ Text.isAsciiWord c = true := by
  unfold written at hc
  split at hc
  · exact (WrittenName.of_mem_written h.2 hc).imp_right .inr
  · rename_i s hs
    simp only [List.mem_append, List.mem_cons] at hc
    rcases hc with hc | rfl | hc
    · exact (WrittenName.of_mem_written (h.1 s hs) hc).imp_right .inr
    · exact .inr (.inl rfl)
    · exact (WrittenName.of_mem_written h.2 hc).imp_right .inr

theorem Mention.not_mem_written {m : Mention} (h : m.Named) {c : Char} (hquote : c ≠ '"')
    (hpoint : c ≠ '.') (hword : Text.isAsciiWord c = false) : c ∉ m.written := by
  intro hc
  rcases Mention.of_mem_written h hc with he | he | he
  · exact hquote he
  · exact hpoint he
  · simp [hword] at he

theorem Mention.not_blank {m : Mention} (h : m.Named) : Text.Unbroken m.written := by
  intro c hc
  rcases Mention.of_mem_written h hc with rfl | rfl | hw
  · decide
  · decide
  · exact Text.isBlank_of_isAsciiWord hw

theorem WrittenName.written_ne_nil {n : WrittenName} (h : IsIdentifier n.text) : n.written ≠ [] := by
  unfold written
  split
  · simp
  · exact h.1

theorem Mention.written_ne_nil {m : Mention} (h : m.Named) : m.written ≠ [] := by
  unfold written
  split
  · exact WrittenName.written_ne_nil h.2
  · simp

theorem splitAtLast?_of_not_mem {c : Char} {t : Text} (h : c ∉ t) : splitAtLast? c t = none := by
  induction t with
  | nil => rfl
  | cons x t ih =>
    have hx : x ≠ c := fun he => h (he ▸ List.mem_cons_self)
    simp [splitAtLast?, ih fun hm => h (List.mem_cons_of_mem x hm), hx]

theorem splitAtLast?_append {c : Char} {s t : Text} (h : c ∉ t) :
    splitAtLast? c (s ++ c :: t) = some (s, t) := by
  induction s with
  | nil => simp [splitAtLast?, splitAtLast?_of_not_mem h]
  | cons x s ih => simp [splitAtLast?, ih]

theorem without_quotes_append_point (s t : Text) :
    Text.without '\x60' (Text.without '"' (s ++ '.' :: t)) =
      Text.without '\x60' (Text.without '"' s) ++
        '.' :: Text.without '\x60' (Text.without '"' t) := by
  simp [Text.without]

theorem ofText_of_unbroken {t : Text} (hsolid : Text.Unbroken t) (hquote : '"' ∉ t)
    (hback : '\x60' ∉ t) (hpoint : '.' ∉ t) : QualifiedName.ofText t = ⟨none, t⟩ := by
  have hbare : unquoted t = t := by
    rw [unquoted, Text.without_eq_self hquote, Text.without_eq_self hback]
    exact Text.trim_eq_self hsolid
  rw [QualifiedName.ofText, hbare, splitAtLast?_of_not_mem hpoint]

theorem Mention.ofText_written {m : Mention} (h : m.Named) :
    QualifiedName.ofText m.written = ⟨m.schema.map (·.text), m.table.text⟩ := by
  have hpoint : '.' ∉ m.table.text := h.2.not_mem (by decide)
  have htable := m.table.without_quotes h.2
  cases hs : m.schema with
  | none =>
    have hbare : unquoted m.written = m.table.text := by
      rw [unquoted, written, hs]
      simp only [htable]
      exact Text.trim_eq_self h.2.not_blank
    rw [QualifiedName.ofText, hbare, splitAtLast?_of_not_mem hpoint]
    rfl
  | some s =>
    have hschema := h.1 s hs
    have hplain : Text.Unbroken (s.text ++ '.' :: m.table.text) := by
      intro c hc
      rcases List.mem_append.mp hc with hc | hc
      · exact hschema.not_blank c hc
      · rcases List.mem_cons.mp hc with rfl | hc
        · decide
        · exact h.2.not_blank c hc
    have hbare : unquoted m.written = s.text ++ '.' :: m.table.text := by
      rw [unquoted, written, hs, without_quotes_append_point, htable, s.without_quotes hschema]
      exact Text.trim_eq_self hplain
    rw [QualifiedName.ofText, hbare, splitAtLast?_append hpoint]
    obtain ⟨x, more, hx⟩ := List.exists_cons_of_ne_nil hschema.1
    simp [hx]

end Sql

end DdlAtlas
