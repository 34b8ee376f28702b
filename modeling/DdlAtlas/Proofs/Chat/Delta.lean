import DdlAtlas.Proofs.Chat.Stream
import DdlAtlas.Proofs.Json.Object

/-!
# The event on a delta

The event that carries a text is an object with its kind and its delta. On one line it is read back, whatever
blanks stand in it and however its text is escaped. A line that is only a part of it, cut inside its text,
carries nothing: the text has no end in the first part, and in no other part does an object begin.
-/

namespace DdlAtlas.Chat

open Json

def deltaOpening : List Text :=
  ["\x7b", "\"type\"", ":", "\"content_block_delta\"", ",", "\"delta\"", ":", "\x7b", "\"text\"", ":"]

def deltaClosing : List Text :=
  ["\x7d", "\x7d"]

/-- The event on a delta with a text, on one line. -/
def SpellsDelta (t line : Text) : Prop :=
  ∃ s, Escapes t s ∧ Laid (deltaOpening ++ ('"' :: (s ++ ['"'])) :: deltaClosing) line

def compactDelta (s : Text) : Text :=
  Text.concat (deltaOpening ++ ('"' :: (s ++ ['"'])) :: deltaClosing)

theorem spellsDelta_compact {t s : Text} (h : Escapes t s) : SpellsDelta t (compactDelta s) :=
  ⟨s, h, laid_concat _⟩

def delta (v : Json) : Json :=
  .obj [("type", .str deltaEvent), ("delta", .obj [("text", v)])]

theorem value_opening {p : Text} (hp : Laid deltaOpening p) (r : Text) (n depth : Nat) :
    value [] (n + 6) (depth + 2) (skipGap (p ++ '"' :: r)) =
      behindValue (n + 3) (depth + 1) [("type", .str deltaEvent)] ⟨"delta", none⟩
        (behindValue (n + 1) depth [] ⟨"text", none⟩
          ((quotedRest [] r).map fun (q, r) => (q.toJson, r))) := by
  obtain ⟨p₁, hp₁, hopen⟩ := hp.skipGap_part (by decide) (by decide)
  obtain ⟨p₂, hp₂, htype⟩ := hp₁.skipGap_part (by decide) (by decide)
  obtain ⟨p₃, hp₃, hcolon₁⟩ := hp₂.skipGap_part (by decide) (by decide)
  obtain ⟨p₄, hp₄, hkind⟩ := hp₃.skipGap_part (by decide) (by decide)
  obtain ⟨p₅, hp₅, hcomma⟩ := hp₄.skipGap_part (by decide) (by decide)
  obtain ⟨p₆, hp₆, hdelta⟩ := hp₅.skipGap_part (by decide) (by decide)
  obtain ⟨p₇, hp₇, hcolon₂⟩ := hp₆.skipGap_part (by decide) (by decide)
  obtain ⟨p₈, hp₈, hinner⟩ := hp₇.skipGap_part (by decide) (by decide)
  obtain ⟨p₉, hp₉, htext⟩ := hp₈.skipGap_part (by decide) (by decide)
  obtain ⟨p₁₀, hp₁₀, hcolon₃⟩ := hp₉.skipGap_part (by decide) (by decide)
  have hvalue : value [] (n + 1) depth (skipGap (p₁₀ ++ '"' :: r)) =
      (quotedRest [] r).map fun (q, r) => (q.toJson, r) := by
    rw [hp₁₀.skipGap_end rfl]
    exact value_quoted n depth r
  have hkind' : value [] (n + 4) (depth + 1) (skipGap (p₃ ++ '"' :: r)) =
      .ok (.str deltaEvent, p₄ ++ '"' :: r) := by
    rw [hkind]
    exact value_quoted _ _ _
  have htext' : value [] (n + 3) (depth + 1) (skipGap (p₇ ++ '"' :: r)) =
      behindValue (n + 1) depth [] ⟨"text", none⟩ ((quotedRest [] r).map fun (q, r) => (q.toJson, r)) := by
    rw [hinner, ← hvalue]
    exact (value_object (htext _)).trans (fields_field rfl (hcolon₃ _))
  calc value [] (n + 6) (depth + 2) (skipGap (p ++ '"' :: r))
      = fields [] (n + 5) (depth + 1) [] (skipGap (p₁ ++ '"' :: r)) := by
        rw [hopen, htype]
        exact value_object (htype _)
    _ = behindValue (n + 4) (depth + 1) [] ⟨"type", none⟩ (.ok (.str deltaEvent, p₄ ++ '"' :: r)) := by
        rw [htype, ← hkind']
        exact fields_field rfl (hcolon₁ _)
    _ = fields [] (n + 4) (depth + 1) [("type", .str deltaEvent)] (skipGap (p₅ ++ '"' :: r)) :=
        behindValue_comma (hcomma _)
    _ = _ := by
        rw [hdelta, ← htext']
        exact fields_field rfl (hcolon₂ _)

theorem length_opening {p : Text} (hp : Laid deltaOpening p) : 2 ≤ p.length := by
  have hbrace : 0 < "\x7b".toList.length := by decide
  have htype : 0 < "\"type\"".toList.length := by decide
  cases hp with
  | cons _ hs =>
    cases hs with
    | cons _ _ =>
      simp only [List.length_append]
      omega

theorem carried_delta (t : Text) :
    Event.carried (delta (.str t)) = .ok (if t = [] then none else some (.str t)) := by
  cases t <;> rfl

theorem kind_of_carried {event v : Json} (h : Event.carried event = .ok (some v)) :
    ∃ kind, event.get? "type" = some (.str kind) := by
  unfold Event.carried at h
  split at h
  · exact ⟨_, ‹_›⟩
  · simp at h

variable [Depth]

theorem exists_value_opening {p : Text} (hp : Laid deltaOpening p) (r : Text) :
    ∃ n depth, value [] (2 * (p ++ '"' :: r).length + 2) Depth.levels (skipGap (p ++ '"' :: r)) =
      behindValue (n + 3) (depth + 1) [("type", .str deltaEvent)] ⟨"delta", none⟩
        (behindValue (n + 1) depth [] ⟨"text", none⟩ ((quotedRest [] r).map fun (q, r) => (q.toJson, r))) := by
  obtain ⟨n, hn⟩ : ∃ n, 2 * (p ++ '"' :: r).length + 2 = n + 6 := by
    have := length_opening hp
    exact ⟨2 * (p ++ '"' :: r).length - 4, by simp only [List.length_append]; omega⟩
  obtain ⟨depth, hdepth⟩ := Depth.exists_levels
  exact ⟨n, depth + 1, by rw [hn, hdepth, value_opening hp]⟩

theorem read_of_open_text {p r : Text} {fault : ReadError} (hp : Laid deltaOpening p)
    (h : quotedRest [] r = .error fault) : Json.read (p ++ '"' :: r) = .error fault := by
  obtain ⟨n, depth, hvalue⟩ := exists_value_opening hp r
  rw [Json.read, readSent, hvalue, h]
  rfl

theorem read_of_quoted_text {p q r : Text} {quoted : Quoted} (hp : Laid deltaOpening p) (hq : Laid deltaClosing q)
    (h : quotedRest [] r = .ok (quoted, q)) : Json.read (p ++ '"' :: r) = .ok (delta quoted.toJson) := by
  obtain ⟨q₁, hq₁, hclose₁⟩ := hq.skipGap_part (by decide) (by decide)
  obtain ⟨q₂, hq₂, hclose₂⟩ := hq₁.skipGap_part (by decide) (by decide)
  have hend : skipGap (q₂ ++ []) = [] := hq₂.skipGap_end rfl
  obtain ⟨n, depth, hvalue⟩ := exists_value_opening hp r
  have hclose₁ : skipGap q = '\x7d' :: q₁ := by simpa using hclose₁ []
  have hclose₂ : skipGap q₁ = '\x7d' :: q₂ := by simpa using hclose₂ []
  rw [List.append_nil] at hend
  rw [Json.read, readSent, hvalue, h]
  simp only [Except.map, behindValue_end hclose₁, behindValue_end hclose₂, hend, List.isEmpty_nil, if_true]
  rfl

theorem read_spellsDelta {t line : Text} (h : SpellsDelta t line) :
    Json.read line = .ok (delta (.str t)) := by
  obtain ⟨s, hs, hlaid⟩ := h
  obtain ⟨p, q, hp, hq, rfl⟩ := hlaid.around
  have hquoted : quotedRest [] (s ++ '"' :: q) = .ok (⟨t, none⟩, q) :=
    stringRest_escapes q hs (by simp)
  have hline : p ++ ('"' :: (s ++ ['"']) ++ q) = p ++ '"' :: (s ++ '"' :: q) := by simp
  rw [hline, read_of_quoted_text hp hq hquoted]
  rfl

theorem read_done : Json.read "[DONE]".toList = .error (.malformed 5) := by
  obtain ⟨depth, hdepth⟩ := Depth.exists_levels
  rw [Json.read, readSent, hdepth]
  rfl

theorem carriedBy_of_read {line : Text} {event : Json} (h : Json.read line = .ok event) :
    carriedBy ("data: " ++ line) = Event.carried event := by
  have hdone : line ≠ "[DONE]".toList := by
    rintro rfl
    exact absurd (read_done.symm.trans h) nofun
  rw [carriedBy, Text.behind?_eq_some.mpr rfl]
  simp only [if_neg hdone, h]

theorem carriedBy_spellsDelta {t line : Text} (h : SpellsDelta t line) :
    carriedBy ("data: " ++ line) = .ok (if t = [] then none else some (.str t)) := by
  rw [carriedBy_of_read (read_spellsDelta h), carried_delta]

theorem carriedBy_of_open_text {p r : Text} {left : Nat} (hp : Laid deltaOpening p)
    (h : quotedRest [] r = .error (.malformed left)) : carriedBy ("data: " ++ (p ++ '"' :: r)) = .ok none := by
  rw [carriedBy, Text.behind?_eq_some.mpr rfl]
  simp only [read_of_open_text hp h, ite_self]

def Idle (line : Text) : Prop :=
  ∀ v, carriedBy line ≠ .ok (some v)

theorem object_of_carriedBy {line : Text} {v : Json} (h : carriedBy line = .ok (some v)) :
    ∃ data fs, line = "data: " ++ data ∧ fs ≠ [] ∧ Json.read data = .ok (.obj fs) := by
  obtain ⟨data, event, hline, hread, hcarried⟩ := event_of_carriedBy h
  obtain ⟨kind, hkind⟩ := kind_of_carried hcarried
  cases event with
  | obj fs =>
    refine ⟨data, fs, hline, ?_, hread⟩
    rintro rfl
    simp [Json.get?, Json.field?] at hkind
  | _ => simp [Json.get?] at hkind

theorem idle_of_escapes {t s : Text} (h : Escapes t s) : Idle s := by
  intro v hv
  obtain ⟨data, fs, rfl, hfs, hread⟩ := object_of_carriedBy hv
  obtain ⟨a, x, r, key, rfl, hx, -⟩ := quote_of_read_obj hfs hread
  have hline : "data: ".toList ++ (a ++ x :: '"' :: r) ++ [] = "data: ".toList ++ a ++ x :: '"' :: r := by
    simp
  rcases escapes_append_quote h hline with hslash | ⟨a', ha'⟩
  · exact hx hslash
  · simp at ha'

theorem idle_end {t s q : Text} (h : Escapes t s) (hq : ∀ c ∈ q, c ≠ '"' ∧ c ≠ '\\') :
    Idle (s ++ '"' :: q) := by
  intro v hv
  obtain ⟨data, fs, hline, hfs, hread⟩ := object_of_carriedBy hv
  obtain ⟨a, x, r, key, rfl, hx, hkey⟩ := quote_of_read_obj hfs hread
  rw [← List.append_assoc] at hline
  rcases escapes_append_quote h hline with hslash | ⟨a', ha'⟩
  · exact hx hslash
  · cases a' with
    | nil =>
      obtain ⟨-, rfl⟩ := List.cons.inj ha'
      obtain ⟨fault, hfault⟩ := stringRest_plain q q hq
      exact nomatch hfault.symm.trans hkey
    | cons c a' =>
      obtain ⟨-, rfl⟩ := List.cons.inj ha'
      exact (hq '"' (by simp)).1 rfl

theorem idle_opening {p t s : Text} (hp : Laid deltaOpening p) (h : Escapes t s) :
    Idle ("data: " ++ (p ++ '"' :: s)) := by
  intro v hv
  obtain ⟨data, fs, hline, hfs, hread⟩ := object_of_carriedBy hv
  obtain rfl := List.append_cancel_left hline
  obtain ⟨fault, hfault⟩ := stringRest_open s s h
  exact nomatch (read_of_open_text hp hfault).symm.trans hread

end DdlAtlas.Chat
