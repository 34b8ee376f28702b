import DdlAtlas.Proofs.Pattern.Run
import DdlAtlas.Proofs.Text.Mention

/-!
# Searches for a keyword

A search passes over a stretch in which the pattern matches nowhere. A pattern that announces itself by a
keyword matches nowhere in a stretch that does not mention the keyword, as long as what follows keeps the
keyword from running on.
-/

namespace DdlAtlas.Pattern

def Misses (p : Pattern) (before s rest : Text) : Prop :=
  ∀ u v, s = u ++ v → v ≠ [] → ∀ position,
    p.matchAt? ⟨u.reverse ++ before, v ++ rest, position, []⟩ = none

theorem searchWith?_cons (p : Pattern) (position : Nat) (before : Text) (x : Char) (rest : Text) :
    p.searchWith? none position before (x :: rest) =
      (p.matchAt? ⟨before, x :: rest, position, []⟩).or (p.searchWith? none (position + 1) (x :: before) rest) := by
  simp only [searchWith?, Front.admits, if_true]
  cases p.matchAt? ⟨before, x :: rest, position, []⟩ <;> rfl

theorem searchWith?_missed {p : Pattern} {before s rest : Text} (h : p.Misses before s rest)
    (position : Nat) : p.searchWith? none position before (s ++ rest) =
      p.searchWith? none (position + s.length) (s.reverse ++ before) rest := by
  induction s generalizing before position with
  | nil => rfl
  | cons x s ih =>
    have hx : p.matchAt? ⟨before, x :: (s ++ rest), position, []⟩ = none :=
      h [] (x :: s) rfl (by simp) position
    have hs : p.Misses (x :: before) s rest := fun u v huv hv position => by
      simpa using h (x :: u) v (by rw [huv, List.cons_append]) hv position
    rw [List.cons_append, searchWith?_cons, hx, Option.none_or, ih hs]
    simp only [List.reverse_cons, List.append_assoc, List.singleton_append, List.length_cons]
    congr 1
    omega

theorem search?_eq (p : Pattern) (t : Text) : p.search? t = p.searchWith? none 0 [] t :=
  searchWith?_front p 0 [] t

theorem search?_found {p : Pattern} {s rest : Text} {m : Match} (h : p.Misses [] s rest)
    (hm : p.matchAt? ⟨s.reverse, rest, s.length, []⟩ = some m) : p.search? (s ++ rest) = some m := by
  rw [search?_eq, searchWith?_missed h, List.append_nil, Nat.zero_add]
  cases rest with
  | nil => exact hm
  | cons x rest => rw [searchWith?_cons, hm, Option.some_or]

theorem search?_none {p : Pattern} {t : Text} (h : p.Misses [] t [])
    (hend : p.matchAt? ⟨t.reverse, [], t.length, []⟩ = none) : p.search? t = none := by
  have := searchWith?_missed h 0
  rw [List.append_nil, List.append_nil, Nat.zero_add] at this
  rw [search?_eq, this]
  exact hend

theorem textBefore_found {p : Pattern} {s rest : Text} {m : Match} (h : p.Misses [] s rest)
    (hm : p.matchAt? ⟨s.reverse, rest, s.length, []⟩ = some m) :
    p.textBefore (s ++ rest) = s := by
  rw [textBefore, search?_found h hm]
  have hoffset : m.offset = s.length := by
    rw [Match.offset, (reads_of_matchAt? hm).1]
  simp only [hoffset, List.take_left]

theorem textBefore_none {p : Pattern} {t : Text} (h : p.search? t = none) : p.textBefore t = t := by
  rw [textBefore, h]

theorem searchWith?_offset {p : Pattern} {front : Front} {position : Nat} {before rest : Text}
    {m : Match} (h : p.searchWith? front position before rest = some m) :
    ∃ u v, rest = u ++ v ∧ m.offset = position + u.length := by
  induction rest generalizing position before with
  | nil => exact ⟨[], [], rfl, by rw [Match.offset, (reads_of_matchAt? h).1]; rfl⟩
  | cons c rest ih =>
    rw [searchWith?] at h
    split at h
    · rename_i found hfound
      obtain rfl := Option.some.inj h
      split at hfound
      · exact ⟨[], c :: rest, rfl, by rw [Match.offset, (reads_of_matchAt? hfound).1]; rfl⟩
      · exact absurd hfound (by simp)
    · obtain ⟨u, v, rfl, hoffset⟩ := ih h
      refine ⟨c :: u, v, rfl, ?_⟩
      rw [hoffset, List.length_cons]
      omega

theorem textBefore_missed {p : Pattern} {s rest : Text} (h : p.Misses [] s rest) :
    ∃ r, p.textBefore (s ++ rest) = s ++ r ∧ r <+: rest := by
  cases hm : p.search? (s ++ rest) with
  | none => exact ⟨rest, textBefore_none hm, List.prefix_rfl⟩
  | some m =>
    have hfound := hm
    rw [search?_eq, searchWith?_missed h] at hfound
    obtain ⟨u, v, rfl, hoffset⟩ := searchWith?_offset hfound
    refine ⟨u, ?_, List.prefix_append u v⟩
    rw [textBefore, hm]
    simp only [hoffset, Nat.zero_add]
    rw [← List.append_assoc, ← List.length_append, List.take_left]

theorem Misses.append {p : Pattern} {before s t rest : Text} (hs : p.Misses before s (t ++ rest))
    (ht : p.Misses (s.reverse ++ before) t rest) : p.Misses before (s ++ t) rest := by
  intro u v huv hv position
  rcases List.append_eq_append_iff.mp huv with ⟨w, rfl, rfl⟩ | ⟨w, rfl, rfl⟩
  · have := ht w v rfl hv position
    simpa using this
  · by_cases hw : w = []
    · subst hw
      simpa using ht [] t rfl (by simpa using hv) position
    · have := hs u w rfl hw position
      simpa using this

/-- Where the pattern matches, the keyword is spelled: at once, where a word begins, or behind blanks. -/
def Announces (p : Pattern) (word : Text) : Prop :=
  ∀ c d, p.Reads c d → ∃ blanks t, c.rest = blanks ++ t ∧ (∀ x ∈ blanks, Text.isBlank x = true) ∧
    (blanks = [] → c.before.head?.any Text.isWord = false) ∧ Text.spells word t = true

def Bars (rest word : Text) : Prop :=
  ∀ sep ∈ rest.head?, Text.Parts sep word

theorem Bars.spells_append {rest word : Text} (h : Bars rest word) (a : Text) :
    Text.spells word (a ++ rest) = Text.spells word a := by
  cases rest with
  | nil => rw [List.append_nil]
  | cons sep rest => exact Text.spells_append (h sep rfl) a rest

theorem Announces.misses {p : Pattern} {word before s rest : Text} (hp : p.Announces word)
    (hne : word ≠ []) (hrest : Bars rest word) (hlast : ∀ x ∈ s.getLast?, Text.isBlank x = false)
    (hs : Text.mentions word before.head? s = false) : p.Misses before s rest := by
  intro u v huv hv position
  rw [matchAt?, run_eq_none_of_reads fun d hd => ?_, Option.map_none]
  obtain ⟨blanks, t, heq, hblanks, hbefore, hspells⟩ := hp _ d hd
  have hmention := Text.not_mentions_behind (u := u) (huv ▸ hs)
  obtain ⟨v', rfl, rfl⟩ : ∃ v', v = blanks ++ v' ∧ t = v' ++ rest := by
    rcases List.append_eq_append_iff.mp heq with ⟨w, hw, -⟩ | ⟨w, hw, ht⟩
    · obtain ⟨z, hz⟩ : ∃ z, v.getLast? = some z :=
        Option.isSome_iff_exists.mp (by simp [hv])
      have hzlast : s.getLast? = some z := by rw [huv, List.getLast?_append_of_ne_nil u hv, hz]
      have hzblank := hblanks z (hw ▸ List.mem_append_left w (List.mem_of_mem_getLast? hz))
      rw [hlast z hzlast] at hzblank
      exact absurd hzblank (by simp)
    · exact ⟨w, hw, ht⟩
  rw [hrest.spells_append] at hspells
  have hnonword : (blanks.reverse ++ (u.reverse ++ before)).head?.any Text.isWord = false := by
    rcases List.eq_nil_or_concat blanks with hnil | ⟨init, b, rfl⟩
    · rw [hnil]
      exact hbefore hnil
    · simpa using Text.isWord_of_isBlank (hblanks b (by simp))
  have := Text.not_spells_of_not_mentions (Text.not_mentions_behind hmention) hnonword hne
  rw [this] at hspells
  exact absurd hspells (by simp)

theorem bars_nil (word : Text) : Bars [] word := by
  simp [Bars]

theorem bars_of_isKeyword {word : Text} (hw : Text.IsKeyword word) {rest : Text}
    (h : ∀ sep ∈ rest.head?, Text.isWord sep = false) : Bars rest word :=
  fun sep hsep => hw.parts (h sep hsep)

theorem Announces.matchAt?_nil {p : Pattern} {word : Text} (hp : p.Announces word) (hne : word ≠ [])
    (before : Text) (position : Nat) : p.matchAt? ⟨before, [], position, []⟩ = none := by
  rw [matchAt?, run_eq_none_of_reads fun d hd => ?_, Option.map_none]
  obtain ⟨blanks, u, hrest, -, -, hspells⟩ := hp _ d hd
  obtain ⟨-, rfl⟩ := List.append_eq_nil_iff.mp hrest.symm
  obtain ⟨x, word, rfl⟩ := List.exists_cons_of_ne_nil hne
  exact absurd hspells (by simp [Text.spells])

theorem misses_of_front {p : Pattern} {x : Char} (h : p.front.admits x = false) (before rest : Text) :
    p.Misses before [x] rest := by
  intro u v huv hv position
  obtain ⟨rfl, rfl⟩ : u = [] ∧ v = [x] := by
    rcases List.append_eq_singleton_iff.mp huv.symm with h | ⟨-, h⟩
    · exact h
    · exact absurd h hv
  rw [matchAt?, run_eq_none_of_front rfl h, Option.map_none]

theorem misses_cons {p : Pattern} {x : Char} {before s rest : Text} (h : p.front.admits x = false)
    (hs : p.Misses (x :: before) s rest) : p.Misses before (x :: s) rest :=
  (misses_of_front h before _).append hs

theorem Announces.misses_before_space {p : Pattern} {word before s rest : Text} (hp : p.Announces word)
    (hword : Text.IsKeyword word) (hlast : ∀ x ∈ s.getLast?, Text.isBlank x = false)
    (hs : Text.mentions word before.head? s = false) (hrest : ∀ x ∈ rest.head?, x = ' ') :
    p.Misses before s rest := by
  refine hp.misses hword.1 (bars_of_isKeyword hword fun sep hsep => ?_) hlast hs
  rw [hrest sep hsep]
  decide

theorem Announces.misses_space {p : Pattern} {word before s rest : Text} (hp : p.Announces word)
    (hword : Text.IsKeyword word) (hfront : p.front.admits ' ' = false)
    (hlast : ∀ x ∈ s.getLast?, Text.isBlank x = false) (hs : Text.mentions word before.head? s = false) :
    p.Misses before (s ++ [' ']) rest :=
  (hp.misses_before_space hword hlast hs (by simp [eq_comm])).append (misses_of_front hfront _ rest)

theorem Announces.search?_none {p : Pattern} {word t : Text} (hp : p.Announces word) (hne : word ≠ [])
    (hlast : ∀ x ∈ t.getLast?, Text.isBlank x = false) (ht : Text.mentions word none t = false) :
    p.search? t = none :=
  Pattern.search?_none (hp.misses hne (bars_nil word) hlast ht) (hp.matchAt?_nil hne t.reverse t.length)

end DdlAtlas.Pattern
