import DdlAtlas.Text.Utf8

/-!
# Texts and their bytes

The bytes of a text are read back as the text. The first byte of a character tells how many follow and in
which range the next one lies, and each of them adds six bits.
-/

namespace DdlAtlas.Text

theorem toNat_ofNat_byte {n : Nat} (h : n < 256) : (UInt8.ofNat n).toNat = n := by
  rw [UInt8.toNat_ofNat', Nat.mod_eq_of_lt h]

inductive Completes : Partial → List UInt8 → Nat → Prop
  | last {p : Partial} {b : UInt8} (hleft : p.left = 1) (hrange : p.least ≤ b.toNat ∧ b.toNat ≤ p.most) :
    Completes p [b] (p.bits * 64 + (b.toNat - 0x80))
  | next {p : Partial} {b : UInt8} {bytes : List UInt8} {n : Nat} (hleft : p.left ≠ 1)
    (hrange : p.least ≤ b.toNat ∧ b.toNat ≤ p.most)
    (hbytes : Completes ⟨p.bits * 64 + (b.toNat - 0x80), p.left - 1, 0x80, 0xbf⟩ bytes n) :
    Completes p (b :: bytes) n

theorem toNat_bounds (c : Char) : c.toNat < 0xd800 ∨ 0xe000 ≤ c.toNat ∧ c.toNat < 0x110000 := by
  rcases c.valid with h | ⟨h, h'⟩
  · exact .inl h
  · exact .inr ⟨h, h'⟩

theorem partialOf?_two {n : Nat} (hlow : 0x80 ≤ n) (hhigh : n < 0x800) :
    partialOf? (0xc0 + n / 64) = some ⟨n / 64, 1, 0x80, 0xbf⟩ := by
  rw [partialOf?, if_pos (by omega), Nat.add_sub_cancel_left]

theorem partialOf?_three {n : Nat} (hlow : 0x800 ≤ n) (hhigh : n < 0x10000)
    (hchar : n < 0xd800 ∨ 0xe000 ≤ n) : ∃ least most, partialOf? (0xe0 + n / 4096) =
      some ⟨n / 4096, 2, least, most⟩ ∧ least ≤ 0x80 + n / 64 % 64 ∧ 0x80 + n / 64 % 64 ≤ most := by
  rw [partialOf?, if_neg (by omega)]
  by_cases hfirst : 0xe0 + n / 4096 = 0xe0
  · have hbits : n / 4096 = 0 := by omega
    exact ⟨0xa0, 0xbf, by rw [if_pos hfirst, hbits], by omega, by omega⟩
  · rw [if_neg hfirst]
    by_cases hpairs : 0xe0 + n / 4096 = 0xed
    · have hbits : n / 4096 = 13 := by omega
      exact ⟨0x80, 0x9f, by rw [if_pos hpairs, hbits], by omega, by omega⟩
    · rw [if_neg hpairs, if_pos (by omega), Nat.add_sub_cancel_left]
      exact ⟨0x80, 0xbf, rfl, by omega, by omega⟩

theorem partialOf?_four {n : Nat} (hlow : 0x10000 ≤ n) (hhigh : n < 0x110000) :
    ∃ least most, partialOf? (0xf0 + n / 262144) = some ⟨n / 262144, 3, least, most⟩ ∧
      least ≤ 0x80 + n / 4096 % 64 ∧ 0x80 + n / 4096 % 64 ≤ most := by
  rw [partialOf?, if_neg (by omega), if_neg (by omega), if_neg (by omega), if_neg (by omega)]
  by_cases hfirst : 0xf0 + n / 262144 = 0xf0
  · have hbits : n / 262144 = 0 := by omega
    exact ⟨0x90, 0xbf, by rw [if_pos hfirst, hbits], by omega, by omega⟩
  · rw [if_neg hfirst]
    by_cases hlast : 0xf0 + n / 262144 = 0xf4
    · have hbits : n / 262144 = 4 := by omega
      exact ⟨0x80, 0x8f, by rw [if_pos hlast, hbits], by omega, by omega⟩
    · rw [if_neg hlast, if_pos (by omega), Nat.add_sub_cancel_left]
      exact ⟨0x80, 0xbf, rfl, by omega, by omega⟩

/-- The bytes of a character, by their number: the bits of all of them are put together to the number of the
character. -/
theorem charBytes_completes (c : Char) : (∃ b, charBytes c = [b] ∧ b.toNat = c.toNat ∧ c.toNat < 0x80) ∨
    ∃ b p bytes, charBytes c = b :: bytes ∧ ¬b.toNat < 0x80 ∧ partialOf? b.toNat = some p ∧
      Completes p bytes c.toNat := by
  have hbounds := toNat_bounds c
  unfold charBytes
  generalize c.toNat = n at hbounds
  have htail : ∀ unit, (UInt8.ofNat (0x80 + n / unit % 64)).toNat = 0x80 + n / unit % 64 :=
    fun unit => toNat_ofNat_byte (by omega)
  have hrange : ∀ unit, 0x80 ≤ (UInt8.ofNat (0x80 + n / unit % 64)).toNat ∧
      (UInt8.ofNat (0x80 + n / unit % 64)).toNat ≤ 0xbf := by
    intro unit
    rw [htail]
    omega
  have hlast : ∀ {p : Partial} {unit : Nat}, p.left = 1 → p.least = 0x80 → p.most = 0xbf →
      p.bits * 64 + n / unit % 64 = n → Completes p [UInt8.ofNat (0x80 + n / unit % 64)] n := by
    intro p unit hleft hleast hmost hvalue
    have h := Completes.last hleft (b := UInt8.ofNat (0x80 + n / unit % 64)) (by rw [hleast, hmost]; exact hrange unit)
    rwa [htail, Nat.add_sub_cancel_left, hvalue] at h
  dsimp only
  split
  · rename_i hone
    exact .inl ⟨_, rfl, toNat_ofNat_byte (by omega), hone⟩
  · right
    split
    · rename_i hlow htwo
      have hfirst := toNat_ofNat_byte (show 0xc0 + n / 64 < 256 by omega)
      have hp := partialOf?_two (Nat.not_lt.mp hlow) htwo
      exact ⟨_, _, _, rfl, by omega, hfirst ▸ hp, hlast rfl rfl rfl (by dsimp only; omega)⟩
    · split
      · rename_i _ hlow hthree
        have hfirst := toNat_ofNat_byte (show 0xe0 + n / 4096 < 256 by omega)
        obtain ⟨least, most, hp, hleast, hmost⟩ := partialOf?_three (Nat.not_lt.mp hlow) hthree (by omega)
        refine ⟨_, _, _, rfl, by omega, hfirst ▸ hp, .next (by simp) (by rw [htail]; exact ⟨hleast, hmost⟩) ?_⟩
        exact hlast rfl rfl rfl (by rw [htail]; dsimp only; omega)
      · rename_i _ _ hlow
        have hfirst := toNat_ofNat_byte (show 0xf0 + n / 262144 < 256 by omega)
        obtain ⟨least, most, hp, hleast, hmost⟩ := partialOf?_four (n := n) (by omega) (by omega)
        refine ⟨_, _, _, rfl, by omega, hfirst ▸ hp, .next (by simp) (by rw [htail]; exact ⟨hleast, hmost⟩)
          (.next (by simp) (hrange 64) ?_)⟩
        exact hlast rfl rfl rfl (by rw [htail, htail]; dsimp only; omega)

theorem ofBytesFrom_completes {p : Partial} {bytes : List UInt8} {n : Nat} (h : Completes p bytes n)
    (rest : List UInt8) : ofBytesFrom (some p) (bytes ++ rest) = Char.ofNat n :: ofBytesFrom none rest := by
  induction h with
  | last hleft hrange => simp [ofBytesFrom, nextByte, hrange, hleft]
  | next hleft hrange _ ih => simpa [ofBytesFrom, nextByte, hrange, hleft] using ih

theorem ofBytesFrom_charBytes (c : Char) (rest : List UInt8) :
    ofBytesFrom none (charBytes c ++ rest) = c :: ofBytesFrom none rest := by
  rcases charBytes_completes c with ⟨b, hc, hb, hsmall⟩ | ⟨b, p, bytes, hc, hb, hp, hbytes⟩
  · simp [hc, ofBytesFrom, firstByte, hb, hsmall, Char.ofNat_toNat]
  · rw [hc, List.cons_append, ← Char.ofNat_toNat c, ← ofBytesFrom_completes hbytes]
    simp [ofBytesFrom, firstByte, hb, hp]

theorem ofBytes_toBytes_append (t : Text) (rest : List UInt8) :
    ofBytes (toBytes t ++ rest) = t ++ ofBytes rest := by
  induction t with
  | nil => rfl
  | cons c t ih =>
    have hbytes : toBytes (c :: t) ++ rest = charBytes c ++ (toBytes t ++ rest) := by simp [toBytes]
    rw [hbytes, ofBytes, ofBytesFrom_charBytes]
    exact congrArg (c :: ·) ih

theorem ofBytes_toBytes (t : Text) : ofBytes (toBytes t) = t := by
  have h := ofBytes_toBytes_append t []
  have hnil : ofBytes [] = [] := rfl
  rwa [hnil, List.append_nil, List.append_nil] at h

end DdlAtlas.Text
