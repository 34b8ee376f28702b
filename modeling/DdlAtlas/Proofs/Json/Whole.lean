import DdlAtlas.Json.Tear

/-!
# Whole values

A value is whole when all the values in it are, and then the search for a tear in it comes to its end.
-/

namespace DdlAtlas.Json

theorem allItems_iff {p : Json → Bool} {items : List Json} :
    allItems p items = true ↔ ∀ v ∈ items, v.allScalars p = true := by
  induction items with
  | nil => simp [allItems]
  | cons v items ih => simp [allItems, ih]

theorem allFields_iff {p : Json → Bool} {fields : List (Text × Json)} :
    allFields p fields = true ↔ ∀ f ∈ fields, f.2.allScalars p = true := by
  induction fields with
  | nil => simp [allFields]
  | cons f fields ih => simp [allFields, ih]

theorem isWhole_arr {items : List Json} : (arr items).isWhole = true ↔ ∀ v ∈ items, v.isWhole = true :=
  allItems_iff

theorem isWhole_obj {fields : List (Text × Json)} :
    (obj fields).isWhole = true ↔ ∀ f ∈ fields, f.2.isWhole = true :=
  allFields_iff

theorem isFinite_arr {items : List Json} : (arr items).isFinite = true ↔ ∀ v ∈ items, v.isFinite = true :=
  allItems_iff

theorem isFinite_obj {fields : List (Text × Json)} :
    (obj fields).isFinite = true ↔ ∀ f ∈ fields, f.2.isFinite = true :=
  allFields_iff

theorem isWhole_underTorn (key : List Nat) (v : Json) : (underTorn key v).isWhole = false :=
  rfl

theorem upToKey_of_isWhole {v : Json} (behind : Nat) (key : Text) (h : v.isWhole = true) :
    Tear.upToKey behind key v = .ok (behind + (quote false key).length) := by
  cases v with
  | underTorn => simp [isWhole_underTorn] at h
  | _ => rfl

mutual

theorem upToTear_of_isWhole (behind : Nat) : ∀ v : Json, v.isWhole = true → ∃ n, upToTear behind v = .ok n
  | .arr items, h => by
    obtain ⟨n, hn⟩ := itemsUpToTear_of_isWhole (behind + 1) items (isWhole_arr.mp h)
    exact ⟨n + 1, by rw [upToTear, hn]; rfl⟩
  | .obj fields, h => by
    obtain ⟨n, hn⟩ := fieldsUpToTear_of_isWhole (behind + 1) fields (isWhole_obj.mp h)
    exact ⟨n + 1, by rw [upToTear, hn]; rfl⟩
  | .torn _, h | .underTorn .., h => nomatch h
  | .null, _ | .bool _, _ | .int _, _ | .float _, _ | .str _, _ => ⟨_, by rw [upToTear] <;> nofun⟩

theorem itemsUpToTear_of_isWhole (behind : Nat) : ∀ items : List Json,
    (∀ v ∈ items, v.isWhole = true) → ∃ n, itemsUpToTear behind items = .ok n
  | [], _ => ⟨behind, rfl⟩
  | [v], h => by
    rw [itemsUpToTear]
    exact upToTear_of_isWhole behind v (h v List.mem_cons_self)
  | v :: w :: rest, h => by
    obtain ⟨hv, hrest⟩ := List.forall_mem_cons.mp h
    obtain ⟨n, hn⟩ := upToTear_of_isWhole behind v hv
    rw [itemsUpToTear, hn]
    exact itemsUpToTear_of_isWhole (n + 1) (w :: rest) hrest

theorem fieldsUpToTear_of_isWhole (behind : Nat) : ∀ fields : List (Text × Json),
    (∀ f ∈ fields, f.2.isWhole = true) → ∃ n, fieldsUpToTear behind fields = .ok n
  | [], _ => ⟨behind, rfl⟩
  | [(k, v)], h => by
    have hv := h (k, v) List.mem_cons_self
    rw [fieldsUpToTear, upToKey_of_isWhole behind k hv]
    exact upToTear_of_isWhole _ v hv
  | (k, v) :: f :: rest, h => by
    obtain ⟨hv, hrest⟩ := List.forall_mem_cons.mp h
    obtain ⟨n, hn⟩ := upToTear_of_isWhole (behind + (quote false k).length + 1) v hv
    rw [fieldsUpToTear, upToKey_of_isWhole behind k hv, Except.bind, hn]
    exact fieldsUpToTear_of_isWhole (n + 1) (f :: rest) hrest

end

theorem tear?_of_isWhole {v : Json} (h : v.isWhole = true) : v.tear? = none := by
  obtain ⟨n, hn⟩ := upToTear_of_isWhole 0 v h
  rw [tear?, hn]

end DdlAtlas.Json
