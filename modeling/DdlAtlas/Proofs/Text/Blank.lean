import DdlAtlas.Text.Blank

/-!
# Blanks and other characters

Blanks lie outside the letters, digits and marks of ASCII. Trimming leaves a text alone that neither
begins nor ends with a blank, and leaving a character out leaves one alone that does not hold it.
-/

namespace DdlAtlas.Text

def Unbroken (t : Text) : Prop :=
  ∀ x ∈ t, isBlank x = false

instance (t : Text) : Decidable (Unbroken t) :=
  List.decidableBAll _ t

theorem all_of_codes {P : Char → Bool} {codes : List Nat} (h : codes.all (fun n => P (Char.ofNat n)) = true)
    {c : Char} (hc : c.toNat ∈ codes) : P c = true := by
  have := List.all_eq_true.mp h _ hc
  rwa [Char.ofNat_toNat] at this

def blankCodes : List Nat :=
  [0x9, 0xa, 0xb, 0xc, 0xd, 0x1c, 0x1d, 0x1e, 0x1f, 0x20, 0x85, 0xa0, 0x1680, 0x2000, 0x2001, 0x2002,
    0x2003, 0x2004, 0x2005, 0x2006, 0x2007, 0x2008, 0x2009, 0x200a, 0x2028, 0x2029, 0x202f, 0x205f,
    0x3000]

theorem mem_blankCodes {c : Char} (h : isBlank c = true) : c.toNat ∈ blankCodes := by
  have mono : ∀ a b : Char, a ≤ b → a.toNat ≤ b.toNat := fun a b hab => hab
  simp only [isBlank, Bool.or_eq_true, Bool.and_eq_true, beq_iff_eq, decide_eq_true_eq] at h
  rcases h with (((((((((((rfl | h) | h) | rfl) | rfl) | rfl) | h) | rfl) | rfl) | rfl) | rfl) | rfl)
  all_goals first
    | decide
    | (have hlow := mono _ _ h.1
       have hhigh := mono _ _ h.2
       simp only [Char.reduceToNat] at hlow hhigh
       simp only [blankCodes, List.mem_cons, List.not_mem_nil, or_false]
       omega)

theorem toNat_of_isBlank {c : Char} (h : isBlank c = true) : c.toNat ≤ 32 ∨ 128 ≤ c.toNat := by
  have hcodes : ∀ n ∈ blankCodes, n ≤ 32 ∨ 128 ≤ n := by decide
  exact hcodes _ (mem_blankCodes h)

theorem toLower_of_isBlank {c : Char} (h : isBlank c = true) : c.toLower = c := by
  have hnat := toNat_of_isBlank h
  refine dif_neg ?_
  rintro ⟨hlow, hhigh⟩
  simp only [ge_iff_le, UInt32.le_iff_toNat_le, Char.toNat_val, Char.reduceToNat] at hlow hhigh
  omega

theorem trimStart_eq_self {t : Text} (h : ∀ c ∈ t.head?, isBlank c = false) : trimStart t = t := by
  cases t with
  | nil => rfl
  | cons c t => exact List.dropWhile_cons_of_neg (by simp [h c rfl])

theorem trimEnd_eq_self {t : Text} (h : ∀ c ∈ t.getLast?, isBlank c = false) : trimEnd t = t := by
  have hrev : t.reverse.dropWhile isBlank = t.reverse :=
    trimStart_eq_self (t := t.reverse) (by simpa using h)
  rw [trimEnd, hrev, List.reverse_reverse]

theorem trimEnd_of_isBlank {t : Text} (h : ∀ c ∈ t, isBlank c = true) : trimEnd t = [] := by
  have hdropped : (t.reverse ++ []).dropWhile isBlank = [] :=
    List.dropWhile_append_of_pos fun c hc => h c (List.mem_reverse.mp hc)
  rw [List.append_nil] at hdropped
  rw [trimEnd, hdropped, List.reverse_nil]

theorem trimEnd_append {s : Text} (h : ∀ c ∈ s.getLast?, isBlank c = false) (t : Text) :
    trimEnd (s ++ t) = s ++ trimEnd t := by
  have hrev : s.reverse.dropWhile isBlank = s.reverse := trimStart_eq_self (t := s.reverse) (by simpa using h)
  rw [trimEnd, trimEnd, List.reverse_append, List.dropWhile_append, hrev]
  split
  · rename_i hempty
    rw [List.isEmpty_iff.mp hempty, List.reverse_reverse, List.reverse_nil, List.append_nil]
  · rw [List.reverse_append, List.reverse_reverse]

theorem trim_surrounded {a s b : Text} (ha : ∀ c ∈ a, isBlank c = true) (hb : ∀ c ∈ b, isBlank c = true)
    (hhead : ∀ c ∈ (s ++ b).head?, isBlank c = false) (hlast : ∀ c ∈ s.getLast?, isBlank c = false) :
    trim (a ++ (s ++ b)) = s := by
  have hstart : trimStart (a ++ (s ++ b)) = s ++ b :=
    (List.dropWhile_append_of_pos ha).trans (trimStart_eq_self hhead)
  rw [trim, hstart, trimEnd_append hlast, trimEnd_of_isBlank hb, List.append_nil]

theorem trim_eq_self {t : Text} (h : Unbroken t) : trim t = t := by
  rw [trim, trimStart_eq_self fun c hc => h c (List.mem_of_mem_head? hc)]
  exact trimEnd_eq_self fun c hc => h c (List.mem_of_mem_getLast? hc)

theorem count_dropWhile_isBlank {c : Char} (hc : isBlank c = false) (t : Text) :
    (t.dropWhile isBlank).count c = t.count c := by
  induction t with
  | nil => rfl
  | cons x t ih =>
    rw [List.dropWhile_cons]
    split
    · rename_i hx
      have hne : x ≠ c := by
        rintro rfl
        rw [hc] at hx
        exact absurd hx (by simp)
      rw [ih, List.count_cons_of_ne hne]
    · rfl

theorem count_trim {c : Char} (hc : isBlank c = false) (t : Text) : (trim t).count c = t.count c := by
  rw [trim, trimEnd, List.count_reverse, count_dropWhile_isBlank hc, List.count_reverse, trimStart,
    count_dropWhile_isBlank hc]

theorem trim_ne_nil_of_mem {c : Char} (hc : isBlank c = false) {t : Text} (h : c ∈ t) : trim t ≠ [] := by
  intro hnil
  have hcount := count_trim hc t
  rw [hnil, List.count_nil] at hcount
  exact List.count_eq_zero.mp hcount.symm h

theorem not_blank_of_getLast?_trim {t : Text} : ∀ c ∈ (trim t).getLast?, isBlank c = false := by
  intro c hc
  have hhead : c ∈ ((trimStart t).reverse.dropWhile isBlank).head? := by
    simpa [trim, trimEnd] using hc
  have hnot := List.head?_dropWhile_not isBlank (trimStart t).reverse
  rw [Option.mem_def.mp hhead] at hnot
  simpa using hnot

theorem not_blank_of_head?_trim {t : Text} : ∀ c ∈ (trim t).head?, isBlank c = false := by
  intro c hc
  have hbegins : trim t <+: trimStart t := by
    rw [← List.reverse_suffix, trim, trimEnd, List.reverse_reverse]
    exact List.dropWhile_suffix _
  obtain ⟨more, hmore⟩ := hbegins
  have hhead : (trimStart t).head? = some c := by
    obtain ⟨rest, hrest⟩ := List.head?_eq_some_iff.mp (Option.mem_def.mp hc)
    rw [← hmore, hrest]
    rfl
  have hnot := List.head?_dropWhile_not isBlank t
  rw [trimStart] at hhead
  rw [hhead] at hnot
  simpa using hnot

theorem without_eq_self {c : Char} {t : Text} (h : c ∉ t) : without c t = t :=
  List.filter_eq_self.mpr fun x hx => by
    have : x ≠ c := fun he => h (he ▸ hx)
    simpa using this

end DdlAtlas.Text
