import DdlAtlas.Proofs.Chat.Deltas

/-!
# The shape of an event

A line that is no proper data is passed over, and so is an event without a delta. But the shape of a delta is
taken for granted: one that is no object ends the stream, and whatever stands in the place of its text is
handed on as it is. The stream also ends at data with a number that is too long or with values that are nested
too deeply. On all other lines stands nothing but texts.
-/

namespace DdlAtlas

def Json.IsText (v : Json) : Prop :=
  (∃ t, v = .str t) ∨ ∃ points, v = .torn points

namespace Chat

open Json

structure Event.HasDelta (event delta : Json) : Prop where
  kind : event.get? "type" = some (.str deltaEvent)
  field : event.get? "delta" = some delta
  solid : delta.isVoid = false

/-- The event has a delta that is no object, or one with a text that is neither void nor a text. -/
def Event.Misshapen (event : Json) : Prop :=
  ∃ delta, HasDelta event delta ∧ ((∀ fields, delta ≠ .obj fields) ∨
    ∃ v, delta.get? "text" = some v ∧ v.isVoid = false ∧ ¬v.IsText)

/-- The line is one of data that cannot be read for the length of a number or its depth, or of a misshapen
event. -/
def Breaks [Depth] (line : Text) : Prop :=
  ∃ data, line = "data: " ++ data ∧
    ((∃ count, Json.read data = .error (.tooManyDigits count)) ∨
      (∃ isArray, Json.read data = .error (.tooDeep isArray)) ∨
      ∃ event, Json.read data = .ok event ∧ Event.Misshapen event)

def IsFragment (v : Json) : Prop :=
  v.IsText ∧ v.isVoid = false

def YieldsFragment (outcome : Except Failure (Option Json)) : Prop :=
  ∃ v?, outcome = .ok v? ∧ ∀ v ∈ v?, IsFragment v

theorem yieldsFragment_ok_iff {v? : Option Json} : YieldsFragment (.ok v?) ↔ ∀ v ∈ v?, IsFragment v := by
  constructor
  · rintro ⟨w?, hw, h⟩
    obtain rfl := Except.ok.inj hw
    exact h
  · exact fun h => ⟨v?, rfl, h⟩

theorem not_yieldsFragment_error (e : Failure) : ¬YieldsFragment (.error e) := by
  rintro ⟨v?, hv, -⟩
  exact nomatch hv

/-! ### One event -/

theorem Event.carried_of_not_hasDelta {event : Json} (h : ∀ delta, ¬HasDelta event delta) :
    Event.carried event = .ok none := by
  unfold Event.carried
  split
  · rename_i kind hkind
    split
    · rfl
    · rename_i hdelta
      rw [Classical.not_not.mp hdelta] at hkind
      cases hget : event.get? "delta" with
      | none => rfl
      | some delta =>
        cases hvoid : delta.isVoid with
        | true => simp [hvoid]
        | false => exact absurd ⟨hkind, hget, hvoid⟩ (h delta)
  · rfl

theorem Event.HasDelta.carried_eq {event delta : Json} : HasDelta event delta →
    Event.carried event = match delta with
      | .obj fields => .ok ((Json.field? "text" fields).filter (!·.isVoid))
      | v => .error (.deltaKind (kindName v)) := by
  intro h
  rw [Event.carried, h.kind]
  cases delta <;>
    simp only [ne_eq, not_true_eq_false, if_false, h.field, Option.getD_some, h.solid, Bool.false_eq_true]

theorem Event.HasDelta.misshapen_iff {event delta : Json} (h : HasDelta event delta) :
    Misshapen event ↔ (∀ fields, delta ≠ .obj fields) ∨
      ∃ v, delta.get? "text" = some v ∧ v.isVoid = false ∧ ¬v.IsText := by
  constructor
  · rintro ⟨delta', h', hshape⟩
    obtain rfl : delta = delta' := Option.some.inj (h.field.symm.trans h'.field)
    exact hshape
  · exact fun hshape => ⟨delta, h, hshape⟩

theorem yieldsFragment_text_iff {fields : List (Text × Json)} :
    YieldsFragment (.ok ((Json.field? "text" fields).filter (!·.isVoid))) ↔
      ¬∃ v, Json.field? "text" fields = some v ∧ v.isVoid = false ∧ ¬v.IsText := by
  rw [yieldsFragment_ok_iff]
  constructor
  · rintro htext ⟨v, hget, hsolid, hother⟩
    exact hother (htext v (Option.filter_eq_some_iff.mpr ⟨hget, by simp [hsolid]⟩)).1
  · intro hnone v hv
    obtain ⟨hget, hkept⟩ := Option.filter_eq_some_iff.mp hv
    have hsolid : v.isVoid = false := by simpa using hkept
    exact ⟨Classical.not_not.mp fun hother => hnone ⟨v, hget, hsolid, hother⟩, hsolid⟩

theorem Event.yieldsFragment_iff (event : Json) :
    YieldsFragment (Event.carried event) ↔ ¬Misshapen event := by
  by_cases hdelta : ∃ delta, HasDelta event delta
  · obtain ⟨delta, h⟩ := hdelta
    rw [h.carried_eq, h.misshapen_iff]
    cases delta with
    | obj fields =>
      have hobj : ¬∀ fields', Json.obj fields ≠ .obj fields' := fun hne => hne fields rfl
      rw [or_iff_right hobj]
      exact yieldsFragment_text_iff
    | _ => simp [not_yieldsFragment_error]
  · have hnone : ∀ delta, ¬HasDelta event delta := fun delta h => hdelta ⟨delta, h⟩
    rw [carried_of_not_hasDelta hnone, yieldsFragment_ok_iff]
    exact iff_of_true nofun fun ⟨delta, h, _⟩ => hnone delta h

/-! ### One line -/

theorem breaks_data_iff [Depth] {data : Text} : Breaks ("data: " ++ data) ↔
    (∃ count, Json.read data = .error (.tooManyDigits count)) ∨
      (∃ isArray, Json.read data = .error (.tooDeep isArray)) ∨
      ∃ event, Json.read data = .ok event ∧ Event.Misshapen event := by
  constructor
  · rintro ⟨data', hdata, h⟩
    obtain rfl := List.append_cancel_left hdata
    exact h
  · exact fun h => ⟨data, rfl, h⟩

theorem yieldsFragment_carriedBy_iff [Depth] (line : Text) : YieldsFragment (carriedBy line) ↔ ¬Breaks line := by
  unfold carriedBy
  cases hdata : Text.behind? "data: " line with
  | none =>
    refine iff_of_true (yieldsFragment_ok_iff.mpr nofun) fun ⟨data, hline, _⟩ => ?_
    exact nomatch hdata.symm.trans (Text.behind?_eq_some.mpr hline)
  | some data =>
    obtain rfl := Text.behind?_eq_some.mp hdata
    rw [breaks_data_iff]
    by_cases hdone : data = "[DONE]".toList
    · subst hdone
      simp only [read_done, if_true]
      simp [yieldsFragment_ok_iff]
    · simp only [if_neg hdone]
      cases hread : Json.read data with
      | error fault => cases fault <;> simp [yieldsFragment_ok_iff, not_yieldsFragment_error]
      | ok event => simpa using Event.yieldsFragment_iff event

/-! ### The whole stream -/

theorem carriedByLines_fragments_iff [Depth] (lines : List Text) :
    ((carriedByLines lines).2 = none ∧ ∀ v ∈ (carriedByLines lines).1, IsFragment v) ↔
      ∀ line ∈ lines, ¬Breaks line := by
  induction lines with
  | nil => simp [carriedByLines]
  | cons line lines ih =>
    rw [List.forall_mem_cons, ← ih, ← yieldsFragment_carriedBy_iff, carriedByLines]
    cases hline : carriedBy line with
    | error e => simp [not_yieldsFragment_error]
    | ok v? =>
      cases v? with
      | none => simp [yieldsFragment_ok_iff]
      | some v => simp [yieldsFragment_ok_iff, and_left_comm]

/-- A line carries nothing or a text that is not empty just when it does not break, and just when no line
breaks an answer is received without a failure, in such texts. -/
theorem converse_fragments_iff [Depth] {s : ChatSettings} {system : Json} {messages : List Json} {request : Request}
    {status : Nat} (hsends : Sends s system messages request) (hscheme : request.url.scheme ≠ [])
    (hstatus : status < 400) (pieces : List Text) :
    (∀ line, YieldsFragment (carriedBy line) ↔ ¬Breaks line) ∧
    ((converse s system messages (.answer status pieces)).failure = none ∧
        (∀ v ∈ (converse s system messages (.answer status pieces)).received, IsFragment v) ↔
      ∀ line ∈ Text.lines (Text.concat pieces), ¬Breaks line) := by
  obtain ⟨notes, hconverse⟩ := hsends.converse_eq
  rw [hconverse, after_answer hscheme hstatus]
  exact ⟨yieldsFragment_carriedBy_iff, carriedByLines_fragments_iff _⟩

def cutDelta : Text :=
  "data: " ++ (Text.concat deltaOpening ++ ['"', 'h'])

def mixedStream : Text :=
  .concat ["data: [DONE]\n", "data: ", compactDelta "hi", "\n", cutDelta]

theorem converse_mixedStream :
    (Sends keyedSettings .null [] keyedRequest ∧ keyedRequest.url.scheme ≠ [] ∧ 200 < 400) ∧
      (∀ line ∈ Text.lines mixedStream, ¬Breaks line) ∧
      (converse keyedSettings .null [] (.answer 200 [mixedStream])).failure = none ∧
      ∀ v ∈ (converse keyedSettings .null [] (.answer 200 [mixedStream])).received, IsFragment v := by
  have hscheme : keyedRequest.url.scheme ≠ [] := by decide
  obtain ⟨hone, hall⟩ := converse_fragments_iff sends_keyedRequest hscheme (by decide : 200 < 400) [mixedStream]
  have hlines : Text.lines mixedStream =
      ["data: [DONE]".toList, "data: " ++ compactDelta "hi", cutDelta] := by decide
  have hsteady : ∀ line ∈ Text.lines mixedStream, ¬Breaks line := by
    rw [hlines]
    refine List.forall_mem_cons.mpr ⟨?_, List.forall_mem_cons.mpr ⟨?_, List.forall_mem_singleton.mpr ?_⟩⟩
    · exact (hone _).mp ⟨none, rfl, nofun⟩
    · refine (hone _).mp ⟨_, carriedBy_spellsDelta (spellsDelta_compact escapes_hi), ?_⟩
      rintro v ⟨⟩
      exact ⟨.inl ⟨_, rfl⟩, rfl⟩
    · exact (hone _).mp ⟨none, carriedBy_of_open_text (laid_concat _) rfl, nofun⟩
  exact ⟨⟨sends_keyedRequest, hscheme, by decide⟩, hsteady, hall.mpr hsteady⟩

def bareDelta : Text :=
  "data: \x7b\"type\": \"content_block_delta\", \"delta\": \"x\"\x7d"

def numberDelta : Text :=
  "data: \x7b\"type\": \"content_block_delta\", \"delta\": \x7b\"text\": 5\x7d\x7d"

theorem kindName_of_isText {v : Json} (h : v.IsText) : kindName v = "str".toList := by
  rcases h with ⟨t, rfl⟩ | ⟨points, rfl⟩ <;> rfl

theorem carriedBy_misshapen :
    carriedBy bareDelta = .error (.deltaKind "str") ∧
      (∃ v, carriedBy numberDelta = .ok (some v) ∧ ¬v.IsText) ∧
      (converse keyedSettings .null [] (.answer 200 [bareDelta])).failure = some (.deltaKind "str") := by
  have hbareKind : (carriedBy bareDelta).map (Option.map kindName) = .error (.deltaKind "str") := by
    decide +kernel
  have hnumberKind : (carriedBy numberDelta).map (Option.map kindName) = .ok (some "int".toList) := by
    decide +kernel
  have hbare : carriedBy bareDelta = .error (.deltaKind "str") := by
    cases hline : carriedBy bareDelta with
    | error e =>
      rw [hline] at hbareKind
      rw [Except.error.inj hbareKind]
    | ok v? => simp [hline, Except.map] at hbareKind
  obtain ⟨v, hv, hkind⟩ : ∃ v, carriedBy numberDelta = .ok (some v) ∧ kindName v = "int".toList := by
    cases hline : carriedBy numberDelta with
    | error e => simp [hline, Except.map] at hnumberKind
    | ok v? =>
      rw [hline] at hnumberKind
      obtain ⟨v, rfl, hkind⟩ := Option.map_eq_some_iff.mp (Except.ok.inj hnumberKind)
      exact ⟨v, rfl, hkind⟩
  have hother : ¬v.IsText := fun htext =>
    absurd ((kindName_of_isText htext).symm.trans hkind) (by decide)
  obtain ⟨notes, hconverse⟩ := sends_keyedRequest.converse_eq
  have hscheme : keyedRequest.url.scheme ≠ [] := by decide
  have hlines : Text.lines (Text.concat [bareDelta]) = [bareDelta] := by decide
  refine ⟨hbare, ⟨v, hv, hother⟩, ?_⟩
  rw [hconverse, after_answer hscheme (by decide), hlines, carriedByLines, hbare]

end Chat

end DdlAtlas
