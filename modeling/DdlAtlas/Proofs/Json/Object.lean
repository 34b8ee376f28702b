import DdlAtlas.Proofs.Json.Line

/-!
# Objects

An object is read field by field: a quoted key, a colon and a value. So only a text in which a readable quoted
text follows a brace, with nothing but blanks between, is read as an object with fields.
-/

namespace DdlAtlas.Json

theorem Depth.exists_levels [Depth] : ∃ k, Depth.levels = k + 3 :=
  ⟨Depth.levels - 3, by have := Depth.least; omega⟩

theorem value_quoted (n depth : Nat) (rest : Text) :
    value [] (n + 1) depth ('"' :: rest) = (quotedRest [] rest).map fun (q, r) => (q.toJson, r) := by
  cases depth <;> (rw [value.eq_def]; rfl)

theorem value_object {n depth : Nat} {rest r : Text} (h : skipGap rest = '"' :: r) :
    value [] (n + 1) (depth + 1) ('\x7b' :: rest) = fields [] n depth [] ('"' :: r) := by
  rw [value.eq_def]
  simp only [h]
  rfl

def behindValue (n depth : Nat) (before : List (Text × Json)) (key : Quoted) :
    Except ReadError (Json × Text) → Except ReadError (Json × Text)
  | .error e => .error e
  | .ok (v, rest) =>
    match skipGap rest with
    | ',' :: rest' => fields [] n depth (withField key v before) (skipGap rest')
    | '\x7d' :: rest' => .ok (.obj (withField key v before), rest')
    | rest' => faultAt rest'

theorem fields_field {n depth : Nat} {before : List (Text × Json)} {r r₁ r₂ : Text} {key : Quoted}
    (hkey : quotedRest [] r = .ok (key, r₁)) (hcolon : skipGap r₁ = ':' :: r₂) :
    fields [] (n + 1) depth before ('"' :: r) =
      behindValue n depth before key (value [] n depth (skipGap r₂)) := by
  rw [fields.eq_def]
  simp only [hkey, hcolon]
  rfl

theorem behindValue_comma {n depth : Nat} {before : List (Text × Json)} {key : Quoted} {v : Json}
    {rest r : Text} (h : skipGap rest = ',' :: r) :
    behindValue n depth before key (.ok (v, rest)) =
      fields [] n depth (withField key v before) (skipGap r) := by
  simp only [behindValue, h]

theorem behindValue_end {n depth : Nat} {before : List (Text × Json)} {key : Quoted} {v : Json}
    {rest r : Text} (h : skipGap rest = '\x7d' :: r) :
    behindValue n depth before key (.ok (v, rest)) = .ok (.obj (withField key v before), r) := by
  simp only [behindValue, h]

theorem unsignedNumber_ne_obj {negative : Bool} {whole t rest : Text} {fs : List (Text × Json)} :
    unsignedNumber negative whole t ≠ .ok (.obj fs, rest) := by
  intro h
  unfold unsignedNumber at h
  split at h
  · simp [faultAt] at h
  · dsimp only at h
    split at h
    · split at h
      · simp at h
      · simp at h
    · simp at h

theorem scalar_ne_obj {t rest : Text} {fs : List (Text × Json)} : scalar t ≠ .ok (.obj fs, rest) := by
  intro h
  unfold scalar at h
  split at h
  · rename_i found hfound
    obtain rfl := Except.ok.inj h
    obtain ⟨⟨name, v⟩, hmem, hv⟩ := List.exists_of_findSome?_eq_some hfound
    obtain ⟨behind, -, hpair⟩ := Option.map_eq_some_iff.mp hv
    obtain ⟨rfl, -⟩ := Prod.mk.inj hpair
    simp [namedValues] at hmem
  · split at h
    · exact unsignedNumber_ne_obj h
    · exact unsignedNumber_ne_obj h

theorem items_ne_obj {n depth : Nat} {before : List Json} {t rest : Text} {fs : List (Text × Json)} :
    items [] n depth before t ≠ .ok (.obj fs, rest) := by
  induction n generalizing before t with
  | zero => simp [items, faultAt]
  | succ n ih =>
    rw [items.eq_def]
    dsimp only
    split
    · simp
    · split
      · exact ih
      · simp
      · simp [faultAt]

theorem fields_of_ok {n depth : Nat} {before : List (Text × Json)} {t : Text} {v : Json × Text}
    (h : fields [] n depth before t = .ok v) : ∃ r key, t = '"' :: r ∧ quotedRest [] r = .ok key := by
  cases n with
  | zero => simp [fields, faultAt] at h
  | succ n =>
    rw [fields.eq_def] at h
    dsimp only at h
    split at h
    · rename_i r
      split at h
      · simp at h
      · rename_i key rest hkey
        exact ⟨r, _, rfl, hkey⟩
    · simp [faultAt] at h

theorem value_of_obj {n depth : Nat} {t rest : Text} {fs : List (Text × Json)} (hfs : fs ≠ [])
    (h : value [] n depth t = .ok (.obj fs, rest)) :
    ∃ g r key, t = '\x7b' :: (g ++ '"' :: r) ∧ (∀ c ∈ g, isGap c = true) ∧ quotedRest [] r = .ok key := by
  cases n with
  | zero => simp [value, faultAt] at h
  | succ n =>
    rw [value.eq_def] at h
    dsimp only at h
    split at h
    · rename_i text
      cases hq : quotedRest [] text with
      | error e => simp [hq, Except.map] at h
      | ok q =>
        rw [hq] at h
        have hjson := (Prod.mk.inj (Except.ok.inj h)).1
        unfold Quoted.toJson at hjson
        split at hjson <;> simp at hjson
    · simp at h
    · split at h
      · simp at h
      · exact absurd h items_ne_obj
    · simp at h
    · rename_i rest' depth'
      split at h
      · obtain ⟨hobj, -⟩ := Prod.mk.inj (Except.ok.inj h)
        exact absurd (Json.obj.inj hobj).symm hfs
      · obtain ⟨r, key, hr, hkey⟩ := fields_of_ok h
        refine ⟨rest'.takeWhile isGap, r, key, ?_, List.all_eq_true.mp (List.all_takeWhile), hkey⟩
        rw [← hr, skipGap, List.takeWhile_append_dropWhile]
    · exact absurd h scalar_ne_obj

theorem quote_of_read_obj [Depth] {t : Text} {fs : List (Text × Json)} (hfs : fs ≠ [])
    (h : read t = .ok (.obj fs)) :
    ∃ a x r key, t = a ++ x :: '"' :: r ∧ x ≠ '\\' ∧ quotedRest [] r = .ok key := by
  unfold read readSent at h
  split at h
  · simp at h
  · rename_i v rest hv
    split at h
    · obtain rfl := Except.ok.inj h
      obtain ⟨g, r, key, ht, hg, hkey⟩ := value_of_obj hfs hv
      have hfront : t = t.takeWhile isGap ++ '\x7b' :: (g ++ '"' :: r) := by
        rw [← ht, skipGap, List.takeWhile_append_dropWhile]
      rcases List.eq_nil_or_concat g with rfl | ⟨g, x, rfl⟩
      · exact ⟨_, '\x7b', r, key, hfront, by decide, hkey⟩
      · refine ⟨t.takeWhile isGap ++ '\x7b' :: g, x, r, key, by simpa using hfront, ?_, hkey⟩
        rintro rfl
        exact absurd (hg '\\' (by simp)) (by decide)
    · simp [faultAt] at h

end DdlAtlas.Json
