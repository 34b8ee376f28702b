import DdlAtlas.Api.ChatRequest
import DdlAtlas.Proofs.Chat.Stream
import DdlAtlas.Proofs.Json.Whole

/-!
# What is sent

A request can be sent when there is a key, the key and the version are ASCII and the address is one that the
client accepts. Then the turns of a conversation are sent with the system prompt whatever they say, once, and
the prompt holds the schema between texts that do not depend on it.
-/

namespace DdlAtlas.Chat

open Api (Turn)

structure Sendable (s : ChatSettings) : Prop where
  key : ∀ c ∈ s.apiKey, Text.beyondAscii c = false
  version : ∀ c ∈ s.apiVersion, Text.beyondAscii c = false
  address : ∃ url, addressOf s = .ok url ∧ url.hostFault? = none

/-- The client takes the settings, once there is a key: requests can be sent, and to an address with a scheme, so
that the answers are read. -/
structure Accepted (s : ChatSettings) : Prop extends Sendable s where
  scheme : ∀ url, addressOf s = .ok url → url.scheme ≠ []

theorem headerFailure?_eq_none_iff {s : ChatSettings} : headerFailure? s = none ↔
    (∀ c ∈ s.apiKey, Text.beyondAscii c = false) ∧ ∀ c ∈ s.apiVersion, Text.beyondAscii c = false := by
  simp [headerFailure?]

theorem request_of_sendable {s : ChatSettings} {body : Json} (h : Sendable s) (hfinite : body.isFinite = true)
    (hwhole : body.isWhole = true) :
    ∃ url, Request.of s body = .ok ⟨url, s.apiKey, s.apiVersion, body⟩ := by
  obtain ⟨url, haddress, hhost⟩ := h.address
  have hbody : bodyFailure? body = none := by
    simp [bodyFailure?, hfinite, Json.tear?_of_isWhole hwhole]
  refine ⟨url, ?_⟩
  simp [Request.of, haddress, headerFailure?_eq_none_iff.mpr ⟨h.key, h.version⟩, hbody, hhost]

theorem fields_of_request {s : ChatSettings} {body : Json} {request : Request}
    (h : Request.of s body = .ok request) :
    addressOf s = .ok request.url ∧ headerFailure? s = none ∧ request.url.hostFault? = none := by
  unfold Request.of at h
  split at h
  · simp at h
  · rename_i url haddress
    split at h
    · simp at h
    · rename_i hclear
      have hheader : headerFailure? s = none := by
        cases hheader : headerFailure? s with
        | none => rfl
        | some e => simp [hheader] at hclear
      split at h
      · simp at h
      · rename_i hhost
        obtain rfl := Except.ok.inj h
        exact ⟨haddress, hheader, hhost⟩

theorem sendable_of_request {s : ChatSettings} {body : Json} {request : Request}
    (h : Request.of s body = .ok request) : Sendable s := by
  obtain ⟨haddress, hheader, hhost⟩ := fields_of_request h
  obtain ⟨hkey, hversion⟩ := headerFailure?_eq_none_iff.mp hheader
  exact ⟨hkey, hversion, request.url, haddress, hhost⟩

theorem addressOf_of_request {s : ChatSettings} {body : Json} {request : Request}
    (h : Request.of s body = .ok request) : addressOf s = .ok request.url :=
  (fields_of_request h).1

def messageOf (t : Turn) : Message :=
  ⟨.str t.role, .str t.content⟩

theorem readMessages_turns (turns : List Turn) :
    readMessages (turns.map (·.toJson)) = .ok (turns.map messageOf) := by
  induction turns with
  | nil => rfl
  | cons t turns ih =>
    have hone : Message.ofJson t.toJson = .ok (messageOf t) := rfl
    rw [List.map_cons, readMessages, hone, ih]
    rfl

theorem payload_texts (s : ChatSettings) (prompt : Text) (turns : List Turn) :
    (payload s (.str prompt) (turns.map messageOf)).isFinite = true ∧
      (payload s (.str prompt) (turns.map messageOf)).isWhole = true := by
  have hturn : ∀ t : Turn, (messageOf t).toJson.isFinite = true ∧ (messageOf t).toJson.isWhole = true :=
    fun _ => ⟨rfl, rfl⟩
  constructor
  · simp [payload, Json.isFinite_obj, Json.isFinite_arr, hturn]
    simp [Json.isFinite, Json.allScalars]
  · simp [payload, Json.isWhole_obj, Json.isWhole_arr, hturn]
    simp [Json.isWhole, Json.allScalars]

theorem payload_system (s : ChatSettings) (prompt : Text) (messages : List Message) :
    (payload s (.str prompt) messages).get? "system" = some (.str prompt) := by
  rfl

theorem payload_messages (s : ChatSettings) (system : Json) (turns : List Turn) :
    (payload s system (turns.map messageOf)).get? "messages" = some (.arr (turns.map (·.toJson))) := by
  have hmessages : (turns.map messageOf).map (·.toJson) = turns.map (·.toJson) := List.map_map
  rw [← hmessages]
  rfl

theorem Sendable.sends_turns {s : ChatSettings} (h : Sendable s) (hkey : s.apiKey ≠ []) (prompt : Text)
    (turns : List Turn) : ∃ request, Sends s (.str prompt) (turns.map (·.toJson)) request ∧
      request.body = payload s (.str prompt) (turns.map messageOf) := by
  obtain ⟨hfinite, hwhole⟩ := payload_texts s prompt turns
  obtain ⟨url, hrequest⟩ := request_of_sendable h hfinite hwhole
  exact ⟨_, ⟨hkey, _, readMessages_turns turns, hrequest⟩, rfl⟩

theorem Accepted.scheme_of_sends {s : ChatSettings} {system : Json} {messages : List Json} {request : Request}
    (h : Accepted s) (hsends : Sends s system messages request) : request.url.scheme ≠ [] := by
  obtain ⟨-, ms, -, hrequest⟩ := hsends
  exact h.scheme request.url (addressOf_of_request hrequest)

theorem accepted_keyedSettings : Accepted keyedSettings := by
  have hheader : headerFailure? keyedSettings = none := by decide
  obtain ⟨hkey, hversion⟩ := headerFailure?_eq_none_iff.mp hheader
  refine ⟨⟨hkey, hversion, _, rfl, rfl⟩, fun url haddress => ?_⟩
  obtain rfl := Except.ok.inj haddress
  decide

theorem after_requests [Json.Depth] (request : Request) (notes : List Note) (reaction : Reaction) :
    (Exchange.after request notes reaction).requests = [request] := by
  cases reaction with
  | outage outage reason => rfl
  | answer status pieces =>
    simp only [Exchange.after]
    split
    · rfl
    · split <;> rfl

theorem Sends.requests [Json.Depth] {s : ChatSettings} {system : Json} {messages : List Json} {request : Request}
    (h : Sends s system messages request) (reaction : Reaction) :
    (converse s system messages reaction).requests = [request] := by
  obtain ⟨notes, hconverse⟩ := h.converse_eq
  rw [hconverse, after_requests]

theorem sendable_of_requests [Json.Depth] {s : ChatSettings} {system : Json} {messages : List Json} {reaction : Reaction}
    (h : (converse s system messages reaction).requests ≠ []) : Sendable s := by
  unfold converse at h
  split at h
  · exact absurd rfl h
  · split at h
    · exact absurd rfl h
    · dsimp only at h
      split at h
      · exact absurd rfl h
      · rename_i request hrequest
        exact sendable_of_request hrequest

def promptFront : Mode → Text
  | .developer => developerOpening
  | .vibe => vibeOpening

def promptBack (table : Option Text) : Mode → Text
  | .developer => .concat ["\n=== END SCHEMA ===\n\n", developerFocus table, developerClosing]
  | .vibe => .concat ["\n\n", vibeFocus table, vibeClosing]

theorem systemPrompt_eq (schema : Text) (table : Option Text) (mode : Mode) :
    systemPrompt schema table mode = promptFront mode ++ schema ++ promptBack table mode := by
  cases mode <;> simp [systemPrompt, promptFront, promptBack, Text.concat]

end DdlAtlas.Chat
