import DdlAtlas.Proofs.Api.Agreement
import DdlAtlas.Proofs.Chat.Deltas

/-!
# The outcome of a chat turn

A chat turn is decided step by step: by its body, by the schema that it names, by the key, and only then by
the provider, who is asked once. The first piece that the provider streams is awaited before the answer begins.
It is passed on all the same, once, in front of the others.
-/

namespace DdlAtlas.Api

open Json

/-! ### What is sent along -/

section Body

variable {body : Body} {v : Json} {vs : List Violation}

def Showable (v : Json) (vs : List Violation) : Prop :=
  ∀ broken ∈ vs, (valueAt v broken.place).isFinite = true ∧ (valueAt v broken.place).isWhole = true

theorem ofViolations_of_showable (h : Showable v vs) : (Reply.ofViolations v vs).status = 422 := by
  rw [Reply.ofViolations, if_pos (by simpa [Showable] using h)]
  rfl

theorem ofViolations_of_not_showable (h : ¬Showable v vs) : (Reply.ofViolations v vs).status = 500 := by
  rw [Reply.ofViolations, if_neg (by simpa [Showable] using h)]
  rfl

theorem requests_ofViolations (v : Json) (vs : List Violation) : (Reply.ofViolations v vs).requests = [] := by
  unfold Reply.ofViolations
  split <;> rfl

variable [Depth]

/-- The body is in no form in which data is read, or holds more of it than is read. -/
def Unreadable (body : Body) : Prop :=
  body.bytes ≠ [] ∧ (sent? body.bytes = none ∨ ∃ sent, sent? body.bytes = some sent ∧
    ((∃ count, readSent sent = .error (.tooManyDigits count)) ∨
      ∃ isArray, readSent sent = .error (.tooDeep isArray)))

/-- The body makes no chat request: there is nothing in it, or what is in it is not written as data, or it is data
that breaks rules. -/
inductive Breaks (body : Body) : Json → List Violation → Prop
  | empty : body.bytes = [] → Breaks body .null [⟨[], .missing⟩]
  | malformed {sent : Sent} {left : Nat} : body.bytes ≠ [] → sent? body.bytes = some sent →
      readSent sent = .error (.malformed left) →
      Breaks body .null [⟨[.item (sent.text.length - left)], .notJson⟩]
  | rules {sent : Sent} {v : Json} {vs : List Violation} : body.bytes ≠ [] → sent? body.bytes = some sent →
      readSent sent = .ok v → ChatRequest.check (.ofJson v) = .error vs → Breaks body v vs

theorem readChatRequest_of_unreadable (h : Unreadable body) : readChatRequest body = .error .unreadable := by
  obtain ⟨hne, hsent | ⟨sent, hsent, ⟨count, hread⟩ | ⟨isArray, hread⟩⟩⟩ := h
  · rw [readChatRequest, if_neg hne, hsent]
  · rw [readChatRequest, if_neg hne, hsent]
    simp only [hread]
  · rw [readChatRequest, if_neg hne, hsent]
    simp only [hread]

theorem readChatRequest_of_breaks (h : Breaks body v vs) : readChatRequest body = .error (.ofViolations v vs) := by
  cases h with
  | empty hbody => rw [readChatRequest, if_pos hbody]
  | malformed hne hsent hread =>
    rw [readChatRequest, if_neg hne, hsent]
    simp only [hread]
  | rules hne hsent hread hcheck =>
    rw [readChatRequest, if_neg hne, hsent]
    simp only [hread, hcheck]
    rfl

theorem unreadable_or_breaks_or_request (body : Body) :
    Unreadable body ∨ (∃ v vs, Breaks body v vs) ∨ ∃ r, readChatRequest body = .ok r := by
  by_cases hne : body.bytes = []
  · exact .inr (.inl ⟨_, _, .empty hne⟩)
  · cases hsent : sent? body.bytes with
    | none => exact .inl ⟨hne, .inl hsent⟩
    | some sent =>
      cases hread : readSent sent with
      | error fault =>
        cases fault with
        | malformed left => exact .inr (.inl ⟨_, _, .malformed hne hsent hread⟩)
        | tooManyDigits count => exact .inl ⟨hne, .inr ⟨sent, hsent, .inl ⟨count, hread⟩⟩⟩
        | tooDeep isArray => exact .inl ⟨hne, .inr ⟨sent, hsent, .inr ⟨isArray, hread⟩⟩⟩
      | ok v =>
        cases hcheck : ChatRequest.check (.ofJson v) with
        | error vs => exact .inr (.inl ⟨v, vs, .rules hne hsent hread hcheck⟩)
        | ok r =>
          refine .inr (.inr ⟨r, ?_⟩)
          rw [readChatRequest, if_neg hne, hsent]
          simp only [hread, hcheck]
          rfl

end Body

/-! ### What is passed on -/

theorem relay_of_not_isVoid {first : Json} (h : first.isVoid = false) (rest : List Json) :
    relay first rest = first :: rest := by
  simp [relay, h]

@[simp] theorem textOfPieces_map_str (texts : List Text) : textOfPieces (texts.map .str) = Text.concat texts := by
  induction texts with
  | nil => rfl
  | cons t texts ih =>
    rw [List.map_cons, textOfPieces, ih]
    rfl

theorem ofExchange_streamed {x : Chat.Exchange} (hsolid : ∀ v ∈ x.received, v.isVoid = false)
    (hbegun : x.received ≠ [] ∨ x.failure = none) (notes : List Note) :
    (Reply.ofExchange x notes).status = 200 ∧
      (Reply.ofExchange x notes).content = .text (textOfPieces x.received) := by
  obtain ⟨received, failure, requests, noted⟩ := x
  cases received with
  | nil =>
    obtain rfl : failure = none := hbegun.resolve_left (by simp)
    exact ⟨rfl, rfl⟩
  | cons first rest =>
    have hrelay := relay_of_not_isVoid (hsolid first (List.mem_cons_self ..)) rest
    refine ⟨rfl, ?_⟩
    simp only [Reply.ofExchange, hrelay]

def PassesOn [Depth] (x : Chat.Exchange) (reply : Reply) : Chat.Reaction → Prop
  | .outage _ _ => reply.status = 502
  | .answer status pieces =>
    (400 ≤ status → reply.status = status) ∧
    (status < 400 → (∀ line ∈ Text.lines (Text.concat pieces), Chat.CarriesText line) →
      reply.status = 200 ∧ ∃ texts : List Text, x.received = texts.map .str ∧
        (Text.lines (Text.concat pieces)).filterMap Chat.added = texts.map .str ∧
        reply.content = .text (Text.concat texts))

theorem ofExchange_after [Depth] {request : Chat.Request} {status : Nat} {pieces : List Text} {received : List Json}
    {failure : Option Chat.Failure} (hscheme : request.url.scheme ≠ []) (hstatus : status < 400)
    (hread : Chat.carriedByLines (Text.lines (Text.concat pieces)) = (received, failure))
    (hbegun : received ≠ [] ∨ failure = none) (notes notes' : List Note) :
    (Reply.ofExchange (.after request notes (.answer status pieces)) notes').status = 200 ∧
      (Reply.ofExchange (.after request notes (.answer status pieces)) notes').content =
        .text (textOfPieces received) := by
  have hsolid := (Chat.streams_carriedByLines (Text.lines (Text.concat pieces))).solid
  rw [Chat.after_answer hscheme hstatus, hread]
  rw [hread] at hsolid
  exact ofExchange_streamed hsolid hbegun notes'

theorem passesOn_after [Depth] {request : Chat.Request} (hscheme : request.url.scheme ≠ []) (reaction : Chat.Reaction)
    (notes notes' : List Note) :
    PassesOn (.after request notes reaction) (.ofExchange (.after request notes reaction) notes') reaction := by
  cases reaction with
  | outage outage reason => rfl
  | answer status pieces =>
    refine ⟨fun hrefused => ?_, fun hstatus htexts => ?_⟩
    · rw [Chat.Exchange.after, if_neg (by simpa using hscheme), if_pos hrefused]
      rfl
    · obtain ⟨texts, hread, hadded⟩ := Chat.carriedByLines_texts htexts
      obtain ⟨hok, hcontent⟩ := ofExchange_after hscheme hstatus hread (.inr rfl) notes notes'
      refine ⟨hok, texts, ?_, hadded, by rw [hcontent, textOfPieces_map_str]⟩
      rw [Chat.after_answer hscheme hstatus, hread]

/-! ### The turn -/

section Turn

variable {t : Tree} {s : Settings} {r : ChatRequest} {reaction : Chat.Reaction} {status : Nat}

/-- The turn comes without a schema, the one that it names is not opened, and that has the status. -/
def Unloaded (t : Tree) (s : SourceSettings) (r : ChatRequest) (status : Nat) : Prop :=
  r.schema = [] ∧ ∃ name, r.database = some name ∧ name ≠ [] ∧ Fails t s name status

theorem answerChat_of_unloaded [Depth] (h : Unloaded t s.sources r status) :
    (answerChat t s reaction r).status = status ∧ (answerChat t s reaction r).requests = [] := by
  obtain ⟨hschema, name, hdatabase, hname, refusal, hopen, hstatus⟩ := h
  have hanswer : answerChat t s reaction r = refusal := by
    rw [answerChat, chatSchema_of_name hschema hdatabase hname, hopen]
    rfl
  rw [hanswer]
  exact ⟨hstatus, (refusal_of_openSchema hopen).2⟩

theorem chatSchema_of_not_unloaded {source : SourceSettings} (h : ∀ status, ¬Unloaded t source r status) :
    ∃ schema notes, chatSchema t source r = .ok (schema, notes) := by
  by_cases hschema : r.schema = []
  · match hdatabase : r.database with
    | none | some [] => exact ⟨[], [], by simp [chatSchema, hschema, hdatabase]⟩
    | some (c :: name) =>
      have hname : c :: name ≠ [] := List.cons_ne_nil c name
      cases hopen : openSchema t source (c :: name) with
      | error refusal => exact absurd ⟨hschema, _, hdatabase, hname, refusal, hopen, rfl⟩ (h refusal.status)
      | ok opened =>
        rw [chatSchema_of_name hschema hdatabase hname, hopen]
        exact ⟨_, _, rfl⟩
  · exact ⟨r.schema, [], by rw [chatSchema, if_pos hschema]⟩

theorem answerChat_of_unkeyed [Depth] (hload : ∀ status, ¬Unloaded t s.sources r status) (hkey : s.chat.apiKey = []) :
    (answerChat t s reaction r).status = 500 ∧ (answerChat t s reaction r).requests = [] := by
  obtain ⟨schema, notes, hschema⟩ := chatSchema_of_not_unloaded hload
  simp only [answerChat, hschema, Chat.converse, if_pos hkey]
  exact ⟨rfl, rfl⟩

/-- The turn is put to the provider in one request that says what the turns say, and the answer is made of the
provider's reaction. -/
def IsPut [Depth] (s : ChatSettings) (r : ChatRequest) (reaction : Chat.Reaction) (reply : Reply) : Prop :=
  ∃ prompt request, reply.requests = [request] ∧ request.body.get? "system" = some (.str prompt) ∧
    request.body.get? "messages" = some (.arr (r.turns.map (·.toJson))) ∧
    PassesOn (Chat.converse s (.str prompt) (r.turns.map (·.toJson)) reaction) reply reaction

theorem answerChat_eq_after [Depth] (hsettings : Chat.Accepted s.chat) (hload : ∀ status, ¬Unloaded t s.sources r status)
    (hkey : s.chat.apiKey ≠ []) : ∃ prompt request calling notes, request.url.scheme ≠ [] ∧
      request.body = Chat.payload s.chat (.str prompt) (r.turns.map Chat.messageOf) ∧ ∀ reaction,
      Chat.converse s.chat (.str prompt) (r.turns.map (·.toJson)) reaction = .after request calling reaction ∧
      answerChat t s reaction r = .ofExchange (.after request calling reaction) notes := by
  obtain ⟨schema, notes, hschema⟩ := chatSchema_of_not_unloaded hload
  obtain ⟨request, hsends, hbody⟩ :=
    hsettings.sends_turns hkey (Chat.systemPrompt schema r.table r.mode) r.turns
  obtain ⟨calling, hconverse⟩ := hsends.converse_eq
  refine ⟨_, request, calling, notes, hsettings.scheme_of_sends hsends, hbody, fun reaction => ⟨hconverse reaction, ?_⟩⟩
  simp only [answerChat, hschema, hconverse]

theorem answerChat_isPut [Depth] (hsettings : Chat.Accepted s.chat) (hload : ∀ status, ¬Unloaded t s.sources r status)
    (hkey : s.chat.apiKey ≠ []) : IsPut s.chat r reaction (answerChat t s reaction r) := by
  obtain ⟨prompt, request, calling, notes, hscheme, hbody, hafter⟩ := answerChat_eq_after hsettings hload hkey
  obtain ⟨hconverse, hanswer⟩ := hafter reaction
  refine ⟨prompt, request, ?_, ?_, ?_, ?_⟩
  · rw [hanswer, requests_ofExchange, Chat.after_requests]
  · rw [hbody, Chat.payload_system]
  · rw [hbody, Chat.payload_messages]
  · rw [hconverse, hanswer]
    exact passesOn_after hscheme reaction calling notes

structure Outcome [Depth] (t : Tree) (s : Settings) (body : Body) (reaction : Chat.Reaction) (reply : Reply) : Prop where
  unreadable : Unreadable body → reply.status = 400 ∧ reply.requests = []
  broken : ∀ v vs, Breaks body v vs →
    (Showable v vs → reply.status = 422) ∧ (¬Showable v vs → reply.status = 500) ∧ reply.requests = []
  unloaded : ∀ r status, readChatRequest body = .ok r → Unloaded t s.sources r status →
    reply.status = status ∧ reply.requests = []
  unkeyed : ∀ r, readChatRequest body = .ok r → (∀ status, ¬Unloaded t s.sources r status) → s.chat.apiKey = [] →
    reply.status = 500 ∧ reply.requests = []
  put : ∀ r, readChatRequest body = .ok r → (∀ status, ¬Unloaded t s.sources r status) → s.chat.apiKey ≠ [] →
    IsPut s.chat r reaction reply

end Turn

theorem accepted_keyed : Chat.Accepted (Settings.default (keyed "k")).chat :=
  Chat.accepted_keyedSettings

theorem not_unloaded_shop (key : Text) (status : Nat) :
    ¬Unloaded shopFolder (Settings.default (keyed key)).sources (turnRequest [] "shop") status := by
  rintro ⟨-, name, hname, -, refusal, hfails, -⟩
  obtain rfl : "shop".toList = name := Option.some.inj hname
  obtain ⟨schema, notes, hopen⟩ := openSchema_shop key
  exact nomatch hopen.symm.trans hfails

def pieceOf (texts : List Text) : List Text :=
  [Chat.eventStream "\n" (texts.map Chat.compactDelta)]

def tornBody : Text :=
  "\x7b\"messages\":\"\\ud800\"\x7d"

theorem read_tornBody : Json.read tornBody = .ok (.obj [("messages", .torn [0xd800])]) := by
  have hkey : quotedRest [] "messages\":\"\\ud800\"\x7d" = .ok (⟨"messages", none⟩, ":\"\\ud800\"\x7d") := rfl
  have hcolon : skipGap ":\"\\ud800\"\x7d" = ':' :: "\"\\ud800\"\x7d".toList := rfl
  have hquoted : quotedRest [] "\\ud800\"\x7d" = .ok (⟨[standIn], some [0xd800]⟩, ['\x7d']) := rfl
  have hvalue : value [] 42 989 (skipGap "\"\\ud800\"\x7d") = .ok (.torn [0xd800], ['\x7d']) := by
    refine (value_quoted 41 989 "\\ud800\"\x7d").trans ?_
    rw [hquoted]
    rfl
  have hobject : value [] 44 Depth.levels tornBody = .ok (.obj [("messages", .torn [0xd800])], []) := by
    refine (@value_object 43 989 _ "messages\":\"\\ud800\"\x7d" rfl).trans ?_
    rw [fields_end hkey hcolon hvalue rfl]
    rfl
  have hlength : 2 * tornBody.length + 2 = 44 := rfl
  have hgap : skipGap tornBody = tornBody := rfl
  rw [Json.read, readSent, hlength, hgap, hobject]
  rfl

theorem breaks_tornBody : Breaks tornBody (.obj [("messages", .torn [0xd800])]) [⟨[.field "messages"], .list⟩] :=
  .rules (List.cons_ne_nil _ _) rfl read_tornBody rfl

def tornPieces : List Text :=
  pieceOf ["a", "\\ud83d", "b"]

theorem escapes_letter {c : Char} (h : ¬Json.NeedsEscape c) : Json.Escapes [c] [c] :=
  .cons (.raw h) .nil

theorem carriedByLines_tornPieces : Chat.carriedByLines (Text.lines (Text.concat tornPieces)) =
    ([.str "a", .torn [0xd83d], .str "b"], none) := by
  have hlines : Text.lines (Text.concat tornPieces) = ["data: " ++ Chat.compactDelta "a", [],
      "data: " ++ Chat.compactDelta "\\ud83d", [], "data: " ++ Chat.compactDelta "b", []] := by
    decide +kernel
  have ha : Chat.SpellsDelta "a" (Chat.compactDelta "a") := Chat.spellsDelta_compact (escapes_letter (by decide))
  have hb : Chat.SpellsDelta "b" (Chat.compactDelta "b") := Chat.spellsDelta_compact (escapes_letter (by decide))
  have htorn : Chat.carriedBy ("data: " ++ Chat.compactDelta "\\ud83d") = .ok (some (.torn [0xd83d])) := by
    have hquoted : quotedRest [] "\\ud83d\"\x7d\x7d" = .ok (⟨[standIn], some [0xd83d]⟩, "\x7d\x7d") := rfl
    have hread := Chat.read_of_quoted_text (laid_concat Chat.deltaOpening) (laid_concat Chat.deltaClosing) hquoted
    exact (Chat.carriedBy_of_read hread).trans rfl
  have hblank : ∀ rest, Chat.carriedByLines ([] :: rest) = Chat.carriedByLines rest := fun _ => rfl
  rw [hlines, Chat.carriedByLines_event ha, Chat.carriedByLines, htorn]
  simp only [hblank, Chat.carriedByLines_event hb]
  rfl

def cutBody : Text :=
  ['\x00', '[', '\x00', ']', '\x00']

end DdlAtlas.Api
