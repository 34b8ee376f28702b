import DdlAtlas.Proofs.Api.Address
import DdlAtlas.Proofs.Api.Opening
import DdlAtlas.Proofs.Api.Turn
import DdlAtlas.Proofs.Chat.Sending
import DdlAtlas.Proofs.Command.Target

/-!
# One schema for everyone

The command line, the interface and the chat find a schema by its name in three ways of their own. They find
the same one: the context that is answered is the one that is printed and the one in the system prompt, and
where there is none, all three say so. Only what they do with it can differ, since the command line needs a
format for its notes and the chat needs settings with which a request can be sent.
-/

namespace DdlAtlas.Api

open Command (contextWords loadTarget)

/-- A name under which all three look for the same: it is a single part of a path, it does not look like an
option, and there is no file that is already called so. -/
structure IsShared (t : Tree) (name : Text) : Prop where
  entry : Path.IsEntry name
  plain : name.head? ≠ some '-'
  free : ∀ f, t.find (.ofText name) ≠ .file f

section Loading

variable {t : Tree} {s : SourceSettings} {name : Text}

theorem loadTarget_of_isShared (h : IsShared t name) (hlong : t.find (.ofText name) ≠ .tooLong) :
    loadTarget t s name =
      (Source.read t s.directory name s.maxFileBytes s.extension).bind Source.schemaOf := by
  unfold loadTarget
  split
  · rename_i f hf
    exact absurd hf (h.free f)
  · rename_i hl
    exact absurd hl hlong
  · rfl

theorem loadTarget_of_openSchema {schema : Schema} {notes : List Note} (h : IsShared t name)
    (hopen : openSchema t s name = .ok (schema, notes)) :
    ∃ notes', loadTarget t s name = .ok (schema, notes') := by
  cases hread : Source.read t s.directory name s.maxFileBytes s.extension with
  | error e => exact nomatch (openSchema_of_error hread).symm.trans hopen
  | ok text =>
    obtain ⟨schema', hparse, hopen'⟩ := openSchema_of_text hread
    obtain rfl : schema' = schema := congrArg Prod.fst (Except.ok.inj (hopen'.symm.trans hopen))
    have hlong : t.find (.ofText name) ≠ .tooLong := by
      unfold Source.read at hread
      cases hresolve : Source.resolve s.directory name s.extension with
      | error e => simp [hresolve, Except.bind] at hread
      | ok path =>
        obtain ⟨more, hmore⟩ := Source.exists_part_of_resolve h.entry.1 hresolve
        simp only [hresolve, Except.bind, Source.readPath] at hread
        split at hread
        · rename_i f hfile
          exact Tree.find_ne_tooLong h.entry hmore hfile
        all_goals simp at hread
    refine ⟨Schema.notes text, ?_⟩
    rw [loadTarget_of_isShared h hlong, hread]
    simp only [Except.bind, Source.schemaOf, Schema.read_eq, hparse]
    rfl

theorem loadTarget_of_openSchema_error {refusal : Reply} (h : IsShared t name)
    (hopen : openSchema t s name = .error refusal) : ∃ fault, loadTarget t s name = .error fault := by
  by_cases hlong : t.find (.ofText name) = .tooLong
  · exact ⟨_, by rw [loadTarget, hlong]; rfl⟩
  · rw [loadTarget_of_isShared h hlong]
    cases hread : Source.read t s.directory name s.maxFileBytes s.extension with
    | error e => exact ⟨e, rfl⟩
    | ok text =>
      obtain ⟨schema, -, hopen'⟩ := openSchema_of_text hread
      exact nomatch hopen'.symm.trans hopen

end Loading

/-! ### The answers -/

section Answers

variable {t : Tree} {s : Settings} {reaction : Chat.Reaction} {name address : Text} {body : Body}
  {r : ChatRequest}

theorem refusal_of_openSchema {source : SourceSettings} {refusal : Reply}
    (h : openSchema t source name = .error refusal) : refusal.status ≠ 200 ∧ refusal.requests = [] := by
  obtain ⟨e, rfl⟩ : ∃ e, refusal = .ofSourceError name e := by
    unfold openSchema at h
    cases hextract : Source.extract t source.directory name source.maxFileBytes source.extension with
    | error e =>
      rw [hextract] at h
      exact ⟨e, (Except.error.inj h).symm⟩
    | ok opened => simp [hextract, Except.mapError] at h
  cases e <;> simp [Reply.ofSourceError, Reply.refusal]

theorem answer_context [Json.Depth] (h : Route.find? address = .ok (some (.context name))) :
    Call.answer t s reaction ⟨"GET", address, body⟩ = .ok (answerOn t s.sources name fun schema =>
      [("filename", .str name), ("context", .str schema.context)]) := by
  have hget : "GET".toList.map Char.toUpper = "GET".toList := by decide
  have hmethod : (Route.context name).methods.contains "GET".toList = true := by
    simp [Route.methods]
  rw [Call.answer, h]
  simp only [Except.bind, hget, hmethod, if_true, Route.answer]
  split <;> rfl

theorem answer_post [Json.Depth] (h : Route.find? address = .ok (some .chat)) :
    Call.answer t s reaction ⟨"POST", address, body⟩ = .ok (Route.chat.answer t s reaction body) := by
  have hpost : "POST".toList.map Char.toUpper = "POST".toList := by decide
  have hmethod : Route.chat.methods.contains "POST".toList = true := by decide
  rw [Call.answer, h]
  simp only [Except.bind, hpost, hmethod, if_true]
  split <;> rfl

theorem answer_chat [Json.Depth] (h : Route.find? address = .ok (some .chat)) (hread : readChatRequest body = .ok r) :
    Call.answer t s reaction ⟨"POST", address, body⟩ = .ok (answerChat t s reaction r) := by
  rw [answer_post h, Route.answer, hread]

theorem chatSchema_of_name {source : SourceSettings} (hschema : r.schema = []) (hdatabase : r.database = some name)
    (hname : name ≠ []) : chatSchema t source r =
      (openSchema t source name).map fun (schema, notes) => (schema.context, notes) := by
  obtain ⟨c, rest, rfl⟩ := List.exists_cons_of_ne_nil hname
  simp only [chatSchema, hschema, hdatabase, ne_eq, not_true_eq_false, if_false]

theorem requests_ofExchange (x : Chat.Exchange) (notes : List Note) :
    (Reply.ofExchange x notes).requests = x.requests := by
  unfold Reply.ofExchange
  dsimp only
  split
  · rfl
  · rfl
  · split
    · rfl
    · split <;> rfl

theorem requests_answerChat_iff [Json.Depth] {schema : Schema} {notes : List Note} (hschema : r.schema = [])
    (hdatabase : r.database = some name) (hname : name ≠ []) (hkey : s.chat.apiKey ≠ [])
    (hopen : openSchema t s.sources name = .ok (schema, notes)) :
    Chat.Sendable s.chat ↔ ∃ request, (answerChat t s reaction r).requests = [request] ∧
      request.body.get? "system" =
        some (.str (Chat.promptFront r.mode ++ schema.context ++ Chat.promptBack r.table r.mode)) := by
  have hrequests : (answerChat t s reaction r).requests =
      (Chat.converse s.chat (.str (Chat.systemPrompt schema.context r.table r.mode)) (r.turns.map (·.toJson))
        reaction).requests := by
    rw [answerChat, chatSchema_of_name hschema hdatabase hname, hopen]
    exact requests_ofExchange ..
  rw [hrequests]
  constructor
  · intro hsend
    obtain ⟨request, hsends, hbody⟩ :=
      hsend.sends_turns hkey (Chat.systemPrompt schema.context r.table r.mode) r.turns
    exact ⟨request, hsends.requests reaction, by rw [hbody, Chat.payload_system, Chat.systemPrompt_eq]⟩
  · rintro ⟨request, hone, -⟩
    exact Chat.sendable_of_requests (by rw [hone]; exact List.cons_ne_nil _ _)

theorem refusal_of_chatSchema {source : SourceSettings} {refusal : Reply}
    (h : chatSchema t source r = .error refusal) : refusal.requests = [] := by
  unfold chatSchema at h
  split at h
  · simp at h
  · split at h
    · simp at h
    · simp at h
    · rename_i given _ _
      cases hopen : openSchema t source given with
      | ok opened => simp [hopen, Except.map] at h
      | error e =>
        obtain rfl : e = refusal := by simpa [hopen, Except.map] using h
        exact (refusal_of_openSchema hopen).2

theorem requests_answerChat_of_not_sendable [Json.Depth] (h : ¬Chat.Sendable s.chat) :
    (answerChat t s reaction r).requests = [] := by
  unfold answerChat
  split
  · rename_i refusal hrefusal
    exact refusal_of_chatSchema hrefusal
  · dsimp only
    rw [requests_ofExchange]
    by_contra hasked
    exact h (Chat.sendable_of_requests hasked)

end Answers

def shopFolder : Tree :=
  (Tree.ofWorking [['w']]).write (.ofText "database/shop.sql")
    ⟨Text.toBytes "CREATE TABLE item (id int);", ⟨0, 0⟩⟩

def keyed (key : Text) : Environment :=
  { Environment.empty with chatApiKey := some key }

theorem load_keyed (key : Text) : Settings.load (keyed key) shopFolder none = .ok (.default (keyed key)) :=
  rfl

theorem find?_chat : Route.find? "/api/chat" = .ok (some .chat) :=
  rfl

theorem escapes_shop : Json.Escapes "shop" "shop" :=
  .cons (.raw (by decide)) (.cons (.raw (by decide)) (.cons (.raw (by decide)) (.cons (.raw (by decide)) .nil)))

theorem readChatRequest_shop : readChatRequest (turnBody [] "shop") = .ok (turnRequest [] "shop") :=
  readChatRequest_turnBody .nil escapes_shop

theorem isShared_shop : IsShared shopFolder "shop" where
  entry := ⟨⟨by decide, by decide, by decide⟩, by decide⟩
  plain := by decide
  free := by
    have hfind : shopFolder.find (.ofText "shop") = .nowhere := rfl
    rw [hfind]
    exact nofun

theorem find?_shop : Route.find? (contextAddress "shop") = .ok (some (.context "shop")) :=
  find?_contextAddress (by decide) (by decide) (by decide)

theorem openSchema_shop (key : Text) :
    ∃ schema notes, openSchema shopFolder (Settings.default (keyed key)).sources "shop" = .ok (schema, notes) := by
  have hresolve : Source.resolve SourceSettings.default.directory "shop" SourceSettings.default.extension =
      .ok (.ofText "database/shop.sql") := rfl
  have hfile : shopFolder.find (.ofText "database/shop.sql") =
      .file ⟨Text.toBytes "CREATE TABLE item (id int);", ⟨0, 0⟩⟩ := rfl
  obtain ⟨schema, -, hopen⟩ := openSchema_of_file hresolve hfile (by decide)
  exact ⟨schema, _, hopen⟩

theorem status_shop (key : Text) (reaction : Chat.Reaction) :
    ∃ asked, Call.answer shopFolder (.default (keyed key)) reaction ⟨"GET", contextAddress "shop", ⟨[]⟩⟩ = .ok asked ∧
      asked.status = 200 := by
  obtain ⟨schema, notes, hopen⟩ := openSchema_shop key
  refine ⟨_, answer_context find?_shop, ?_⟩
  rw [answerOn, hopen]
  rfl

end DdlAtlas.Api
