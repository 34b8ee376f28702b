import DdlAtlas.Proofs.Chat.Sending

/-!
# Answers that are refused

A status from 400 on ends an exchange with that status, whatever the body of the answer says, with nothing received.
An answer with any other status is read like one with the status 200, also a redirection, which nobody follows. In
either case the provider is asked once.
-/

namespace DdlAtlas.Chat

def IsMessage (v : Json) : Prop :=
  ∃ role content : Text, v.get? "role" = some (.str role) ∧ v.get? "content" = some (.str content)

/-- The exchange ends with the status, before anything is received and after one request. -/
structure Exchange.IsRefusal (x : Exchange) (status : Nat) : Prop where
  failure : x.failure = some (.refused status)
  received : x.received = []
  requests : ∃ request, x.requests = [request]

variable {s : ChatSettings} {system : Json} {messages : List Json} {request : Request} {notes : List Note}
  {status : Nat}

theorem messageField_of_get? {v w : Json} {name : Text} (h : v.get? name = some w) : messageField v name = .ok w := by
  cases v with
  | obj fields =>
    have hfield : Json.field? name fields = some w := h
    rw [messageField, hfield]
  | _ => exact nomatch h

theorem readMessages_of_isMessage (h : ∀ v ∈ messages, IsMessage v) :
    ∃ turns : List Api.Turn, readMessages messages = .ok (turns.map messageOf) := by
  induction messages with
  | nil => exact ⟨[], rfl⟩
  | cons v messages ih =>
    obtain ⟨⟨role, content, hrole, hcontent⟩, hrest⟩ := List.forall_mem_cons.mp h
    obtain ⟨turns, hturns⟩ := ih hrest
    have hone : Message.ofJson v = .ok (messageOf ⟨role, content⟩) := by
      rw [Message.ofJson, messageField_of_get? hrole, messageField_of_get? hcontent]
      rfl
    refine ⟨⟨role, content⟩ :: turns, ?_⟩
    rw [readMessages, hone, hturns]
    rfl

theorem Sendable.sends_messages (h : Sendable s) (hkey : s.apiKey ≠ []) (prompt : Text)
    (hmessages : ∀ v ∈ messages, IsMessage v) : ∃ request, Sends s (.str prompt) messages request := by
  obtain ⟨turns, hread⟩ := readMessages_of_isMessage hmessages
  obtain ⟨hfinite, hwhole⟩ := payload_texts s prompt turns
  obtain ⟨url, hrequest⟩ := request_of_sendable h hfinite hwhole
  exact ⟨_, hkey, _, hread, hrequest⟩

theorem Event.carried_ne_refused (event : Json) (status : Nat) : Event.carried event ≠ .error (.refused status) := by
  unfold Event.carried
  split
  · split
    · exact nofun
    · dsimp only
      split
      · exact nofun
      · split <;> exact nofun
  · exact nofun

theorem carriedBy_ne_refused [Json.Depth] (line : Text) (status : Nat) : carriedBy line ≠ .error (.refused status) := by
  unfold carriedBy
  split
  · exact nofun
  · split
    · exact nofun
    · split
      · exact nofun
      · exact nofun
      · exact nofun
      · exact Event.carried_ne_refused _ status

theorem carriedByLines_ne_refused [Json.Depth] (lines : List Text) (status : Nat) :
    (carriedByLines lines).2 ≠ some (.refused status) := by
  induction lines with
  | nil => exact nofun
  | cons line lines ih =>
    rw [carriedByLines]
    cases hline : carriedBy line with
    | error e =>
      intro h
      exact carriedBy_ne_refused line status (by rw [hline, Option.some.inj h])
    | ok v? => cases v? <;> exact ih

theorem isRefusal_after_iff [Json.Depth] (hscheme : request.url.scheme ≠ []) (pieces : List Text) :
    (Exchange.after request notes (.answer status pieces)).IsRefusal status ↔ 400 ≤ status := by
  by_cases hstatus : 400 ≤ status
  · refine iff_of_true ?_ hstatus
    rw [Exchange.after, if_neg (by simpa using hscheme), if_pos hstatus]
    exact ⟨rfl, rfl, request, rfl⟩
  · refine iff_of_false (fun h => ?_) hstatus
    rw [after_answer hscheme (Nat.lt_of_not_le hstatus)] at h
    exact carriedByLines_ne_refused _ status h.failure

def oneMessage : List Json :=
  [.obj [("role", .str "user"), ("content", .str "hi")]]

def eventBody : List Text :=
  ["data: \x7b\"type\": \"content_block_delta\", \"delta\": \x7b\"text\": \"hi\"\x7d\x7d\n"]

end DdlAtlas.Chat
