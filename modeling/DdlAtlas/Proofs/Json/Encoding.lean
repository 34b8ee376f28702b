import DdlAtlas.Json.Encoding
import DdlAtlas.Proofs.Text.Utf8

/-!
# Texts that are sent

The bytes of a text are taken for the usual form unless they begin with zeros or a mark, and then they stand
for the text. Half of a surrogate pair is let through where a text would be refused, and no text holds one.
-/

namespace DdlAtlas.Json

open Text (Completes)

theorem partialOf?_of_some {b : Nat} {p : Text.Partial} (h : Text.partialOf? b = some p) :
    ∃ most, p.most ≤ most ∧ partialOf? b = some { p with most := most } := by
  by_cases hb : b = 0xed
  · subst hb
    obtain rfl := Option.some.inj h
    exact ⟨0xbf, by decide, rfl⟩
  · exact ⟨p.most, Nat.le_refl _, by rw [partialOf?, if_neg hb, h]⟩

theorem usualPoints?_completes {p : Text.Partial} {bytes : List UInt8} {n : Nat} (h : Completes p bytes n)
    {most : Nat} (hmost : p.most ≤ most) (rest : List UInt8) :
    usualPoints? (some { p with most := most }) (bytes ++ rest) = (usualPoints? none rest).map (n :: ·) := by
  induction h generalizing most with
  | @last p b hleft hrange =>
    have hrange' : p.least ≤ b.toNat ∧ b.toNat ≤ most := ⟨hrange.1, Nat.le_trans hrange.2 hmost⟩
    simp [usualPoints?, hrange', hleft]
  | @next p b bytes n hleft hrange _ ih =>
    have hrange' : p.least ≤ b.toNat ∧ b.toNat ≤ most := ⟨hrange.1, Nat.le_trans hrange.2 hmost⟩
    simpa [usualPoints?, hrange', hleft] using ih (Nat.le_refl _)

theorem usualPoints?_charBytes (c : Char) (rest : List UInt8) :
    usualPoints? none (Text.charBytes c ++ rest) = (usualPoints? none rest).map (c.toNat :: ·) := by
  rcases Text.charBytes_completes c with ⟨b, hc, hb, hsmall⟩ | ⟨b, p, bytes, hc, hb, hp, hbytes⟩
  · simp [hc, usualPoints?, hb, hsmall]
  · obtain ⟨most, hmost, hp'⟩ := partialOf?_of_some hp
    rw [hc, List.cons_append, ← usualPoints?_completes hbytes hmost]
    simp [usualPoints?, hb, hp']

theorem usualPoints?_toBytes (t : Text) : usualPoints? none (Text.toBytes t) = some (t.map Char.toNat) := by
  induction t with
  | nil => rfl
  | cons c t ih =>
    have hbytes : Text.toBytes (c :: t) = Text.charBytes c ++ Text.toBytes t := List.flatMap_cons
    rw [hbytes, usualPoints?_charBytes, ih]
    rfl

theorem isHalf_toNat (c : Char) : isHalf c.toNat = false := by
  have hbounds := Text.toNat_bounds c
  simp only [isHalf, Bool.and_eq_false_iff, decide_eq_false_iff_not]
  omega

theorem ofPoints_toNat (t : Text) : Sent.ofPoints (t.map Char.toNat) = ⟨t, []⟩ := by
  induction t with
  | nil => rfl
  | cons c t ih => simp [Sent.ofPoints, ih, charOf, isHalf_toNat, Char.ofNat_toNat]

theorem ofZeros_usual {a b : UInt8} {bytes : List UInt8} (ha : a ≠ 0) (hb : b ≠ 0) :
    ByteForm.ofZeros (a :: b :: bytes) = .usual := by
  match bytes with
  | [] => simp [ByteForm.ofZeros, ha, hb]
  | [_] => rfl
  | _ :: _ :: _ => simp [ByteForm.ofZeros, ha, hb]

theorem sent?_of_fields (rest : Text) :
    sent? (Text.toBytes ('\x7b' :: '"' :: rest)) = some ⟨'\x7b' :: '"' :: rest, []⟩ := by
  have hbytes : Text.toBytes ('\x7b' :: '"' :: rest) = 0x7b :: 0x22 :: Text.toBytes rest := rfl
  have hform : ByteForm.of (Text.toBytes ('\x7b' :: '"' :: rest)) =
      (.usual, Text.toBytes ('\x7b' :: '"' :: rest)) := by
    rw [hbytes, ByteForm.of]
    simp [byteMarks, List.isPrefixOf, ofZeros_usual]
  simp only [sent?, hform, ByteForm.points?, usualPoints?_toBytes, Option.map_some, ofPoints_toNat]

end DdlAtlas.Json
