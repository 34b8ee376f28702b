import DdlAtlas.Chat.Exchange
import DdlAtlas.Proofs.Text.LineBuffer
import DdlAtlas.Proofs.Text.Phrase

/-!
# What is streamed

Once a request has been sent, an exchange follows from the answer alone, and of the answer only the text
counts, not the pieces in which it arrives: what is received are the values that its lines carry, up to the
first line at which reading fails.
-/

namespace DdlAtlas.Chat

def Sends (s : ChatSettings) (system : Json) (messages : List Json) (request : Request) : Prop :=
  s.apiKey ≠ [] ∧ ∃ ms, readMessages messages = .ok ms ∧ Request.of s (payload s system ms) = .ok request

theorem isVoid_of_carried {event v : Json} (h : Event.carried event = .ok (some v)) :
    v.isVoid = false := by
  unfold Event.carried at h
  split at h
  · split at h
    · simp at h
    · dsimp only at h
      split at h
      · simp at h
      · split at h
        · obtain ⟨-, hv⟩ := Option.filter_eq_some_iff.mp (Except.ok.inj h)
          simpa using hv
        · simp at h
  · simp at h

section

variable [Json.Depth]

theorem Sends.converse_eq {s : ChatSettings} {system : Json} {messages : List Json} {request : Request}
    (h : Sends s system messages request) : ∃ notes, ∀ reaction,
      converse s system messages reaction = .after request notes reaction := by
  obtain ⟨hkey, ms, hms, hrequest⟩ := h
  refine ⟨[.calling s.provider s.model ms.length], fun reaction => ?_⟩
  rw [converse, if_neg hkey, hms]
  simp only [hrequest]

def added (line : Text) : Option Json :=
  match carriedBy line with
  | .ok v => v
  | .error _ => none

/-- What is streamed of some lines: what they carry, in order, up to the first line at which reading
fails, and that failure. -/
structure Streams (lines : List Text) (received : List Json) (failure : Option Failure) : Prop where
  cut : ∃ good rest, lines = good ++ rest ∧ (∀ line ∈ good, ∃ v, carriedBy line = .ok v) ∧
    received = good.filterMap added ∧
    match failure with
    | none => rest = []
    | some e => ∃ line more, rest = line :: more ∧ carriedBy line = .error e
  solid : ∀ v ∈ received, v.isVoid = false

theorem event_of_carriedBy {line : Text} {v : Json} (h : carriedBy line = .ok (some v)) :
    ∃ data event, line = "data: " ++ data ∧ Json.read data = .ok event ∧ Event.carried event = .ok (some v) := by
  unfold carriedBy at h
  split at h
  · simp at h
  · rename_i data hdata
    split at h
    · simp at h
    · split at h
      · simp at h
      · simp at h
      · simp at h
      · exact ⟨data, _, Text.behind?_eq_some.mp hdata, ‹_›, h⟩

theorem isVoid_of_carriedBy {line : Text} {v : Json} (h : carriedBy line = .ok (some v)) :
    v.isVoid = false := by
  obtain ⟨-, event, -, -, hcarried⟩ := event_of_carriedBy h
  exact isVoid_of_carried hcarried

theorem streams_carriedByLines (lines : List Text) :
    Streams lines (carriedByLines lines).1 (carriedByLines lines).2 := by
  induction lines with
  | nil => exact ⟨⟨[], [], rfl, by simp, rfl, rfl⟩, by simp [carriedByLines]⟩
  | cons line lines ih =>
    obtain ⟨⟨good, rest, hlines, hgood, hreceived, hend⟩, hsolid⟩ := ih
    cases hline : carriedBy line with
    | error e =>
      rw [carriedByLines, hline]
      exact ⟨⟨[], line :: lines, rfl, by simp, rfl, line, lines, rfl, hline⟩, by simp⟩
    | ok v? =>
      have hall : ∀ l ∈ line :: good, ∃ v, carriedBy l = .ok v :=
        List.forall_mem_cons.mpr ⟨⟨v?, hline⟩, hgood⟩
      cases v? with
      | none =>
        rw [carriedByLines, hline]
        exact ⟨⟨line :: good, rest, by rw [hlines, List.cons_append], hall,
          by simpa [added, hline] using hreceived, hend⟩, hsolid⟩
      | some v =>
        rw [carriedByLines, hline]
        refine ⟨⟨line :: good, rest, by rw [hlines, List.cons_append], hall, ?_, hend⟩, ?_⟩
        · simpa [added, hline] using hreceived
        · exact List.forall_mem_cons.mpr ⟨isVoid_of_carriedBy hline, hsolid⟩

def CarriesText (line : Text) : Prop :=
  ∃ t? : Option Text, carriedBy line = .ok (t?.map .str)

theorem carriedByLines_texts {lines : List Text} (h : ∀ line ∈ lines, CarriesText line) :
    ∃ texts : List Text, carriedByLines lines = (texts.map .str, none) ∧
      lines.filterMap added = texts.map .str := by
  induction lines with
  | nil => exact ⟨[], rfl, rfl⟩
  | cons line lines ih =>
    obtain ⟨⟨t?, hline⟩, hlines⟩ := List.forall_mem_cons.mp h
    obtain ⟨texts, hread, hadded⟩ := ih hlines
    cases t? with
    | none => exact ⟨texts, by simp [carriedByLines, hline, hread], by simpa [added, hline] using hadded⟩
    | some t => exact ⟨t :: texts, by simp [carriedByLines, hline, hread], by simpa [added, hline] using hadded⟩

theorem after_answer {request : Request} {notes : List Note} {status : Nat}
    (hscheme : request.url.scheme ≠ []) (hstatus : status < 400) (pieces : List Text) :
    Exchange.after request notes (.answer status pieces) =
      ⟨(carriedByLines (Text.lines (Text.concat pieces))).1,
        (carriedByLines (Text.lines (Text.concat pieces))).2, [request], notes⟩ := by
  rw [Exchange.after, if_neg (by simpa using hscheme), if_neg (Nat.not_le.mpr hstatus),
    LineBuffer.linesOfPieces_eq]

theorem converse_congr (s : ChatSettings) (system : Json) (messages : List Json) (status : Nat)
    {pieces pieces' : List Text} (h : Text.concat pieces = Text.concat pieces') :
    converse s system messages (.answer status pieces) =
      converse s system messages (.answer status pieces') := by
  have hafter : ∀ request notes, Exchange.after request notes (.answer status pieces) =
      Exchange.after request notes (.answer status pieces') := by
    intro request notes
    simp only [Exchange.after, LineBuffer.linesOfPieces_eq, h]
  simp only [converse, hafter]

/-- An exchange does not depend on the pieces in which the answer arrives. What is received of an answer
that is not refused is what the lines of its text carry, up to the first line at which reading fails. -/
theorem converse_of_pieces {s : ChatSettings} {system : Json} {messages : List Json} {status : Nat}
    {pieces pieces' : List Text} (hstatus : status < 400) (hsame : Text.concat pieces = Text.concat pieces') :
    converse s system messages (.answer status pieces) =
        converse s system messages (.answer status pieces') ∧
      ∀ request, Sends s system messages request → request.url.scheme ≠ [] →
        Streams (Text.lines (Text.concat pieces))
          (converse s system messages (.answer status pieces)).received
          (converse s system messages (.answer status pieces)).failure := by
  refine ⟨converse_congr s system messages status hsame, fun request hsends hscheme => ?_⟩
  obtain ⟨notes, hconverse⟩ := hsends.converse_eq
  rw [hconverse, after_answer hscheme hstatus]
  exact streams_carriedByLines _

end

def keyedSettings : ChatSettings :=
  .default { Environment.empty with chatApiKey := some "k" }

def keyedRequest : Request :=
  ⟨⟨"https", [], "api.anthropic.com", none, "/v1/messages", none, none⟩, "k", "2023-06-01",
    payload keyedSettings .null []⟩

theorem sends_keyedRequest : Sends keyedSettings .null [] keyedRequest :=
  ⟨by decide, [], rfl, rfl⟩

def tornLine : List Text :=
  ["da", "ta: [DONE]\r", "", "\n\r", "\n"]

theorem converse_of_tornLine :
    (200 < 400 ∧ Text.concat tornLine = Text.concat ["data: [DONE]\r\n\r\n".toList] ∧
      Sends keyedSettings .null [] keyedRequest ∧ keyedRequest.url.scheme ≠ []) ∧
    converse keyedSettings .null [] (.answer 200 tornLine) =
      converse keyedSettings .null [] (.answer 200 ["data: [DONE]\r\n\r\n"]) ∧
    Streams (Text.lines (Text.concat tornLine))
      (converse keyedSettings .null [] (.answer 200 tornLine)).received
      (converse keyedSettings .null [] (.answer 200 tornLine)).failure := by
  have hsame : Text.concat tornLine = Text.concat ["data: [DONE]\r\n\r\n".toList] := by decide
  have hscheme : keyedRequest.url.scheme ≠ [] := by decide
  obtain ⟨hagree, hstreams⟩ :=
    @converse_of_pieces _ keyedSettings .null [] 200 _ _ (by decide) hsame
  exact ⟨⟨by decide, hsame, sends_keyedRequest, hscheme⟩, hagree,
    hstreams keyedRequest sends_keyedRequest hscheme⟩

end DdlAtlas.Chat
