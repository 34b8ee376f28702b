import DdlAtlas.Api.Reply
import DdlAtlas.Proofs.Json.Encoding
import DdlAtlas.Proofs.Json.Object

/-!
# A chat turn on a name

Every name can be asked about in the chat: the body of one turn on it is read as the turn, whatever is said
and whatever the name, once both are escaped.
-/

namespace DdlAtlas.Json

theorem value_array {n depth : Nat} {rest r : Text} (h : skipGap rest = '\x7b' :: r) :
    value [] (n + 1) (depth + 1) ('[' :: rest) = items [] n depth [] ('\x7b' :: r) := by
  rw [value.eq_def]
  simp only [h]
  rfl

theorem items_end {n depth : Nat} {before : List Json} {t rest r : Text} {v : Json}
    (hv : value [] n depth t = .ok (v, rest)) (hend : skipGap rest = ']' :: r) :
    items [] (n + 1) depth before t = .ok (.arr (v :: before).reverse, r) := by
  rw [items.eq_def]
  simp only [hv, hend]

theorem fields_comma {n depth : Nat} {before : List (Text × Json)} {r r₁ r₂ rest r₃ : Text} {key : Quoted}
    {v : Json} (hkey : quotedRest [] r = .ok (key, r₁)) (hcolon : skipGap r₁ = ':' :: r₂)
    (hv : value [] n depth (skipGap r₂) = .ok (v, rest)) (hcomma : skipGap rest = ',' :: r₃) :
    fields [] (n + 1) depth before ('"' :: r) = fields [] n depth (withField key v before) (skipGap r₃) := by
  rw [fields_field hkey hcolon, hv, behindValue_comma hcomma]

theorem fields_end {n depth : Nat} {before : List (Text × Json)} {r r₁ r₂ rest r₃ : Text} {key : Quoted}
    {v : Json} (hkey : quotedRest [] r = .ok (key, r₁)) (hcolon : skipGap r₁ = ':' :: r₂)
    (hv : value [] n depth (skipGap r₂) = .ok (v, rest)) (hend : skipGap rest = '\x7d' :: r₃) :
    fields [] (n + 1) depth before ('"' :: r) = .ok (.obj (withField key v before), r₃) := by
  rw [fields_field hkey hcolon, hv, behindValue_end hend]

end DdlAtlas.Json

namespace DdlAtlas.Api

open Json

def userMessage (content rest : Text) : Text :=
  '\x7b' :: '"' :: ("role\":\"user\",\"content\":\"" ++ (content ++ '"' :: '\x7d' :: rest))

def turnBody (content name : Text) : Text :=
  '\x7b' :: '"' :: ("messages\":[" ++
    userMessage content (']' :: ',' :: '"' :: ("database\":\"" ++ (name ++ '"' :: ['\x7d']))))

def turnRequest (content name : Text) : ChatRequest :=
  ⟨[⟨"user", content⟩], [], some name, none, .developer⟩

def turnValue (content name : Text) : Json :=
  .obj [("messages", .arr [.obj [("role", .str "user"), ("content", .str content)]]), ("database", .str name)]

theorem value_userMessage {content c : Text} (h : Escapes content c) (n depth : Nat) (rest : Text) :
    value [] (n + 4) (depth + 1) (userMessage c rest) =
      .ok (.obj [("role", .str "user"), ("content", .str content)], rest) := by
  rw [userMessage]
  generalize htail : c ++ '"' :: '\x7d' :: rest = tail
  have hcontent : quotedRest [] tail = .ok (⟨content, none⟩, '\x7d' :: rest) := by
    rw [← htail]
    exact stringRest_escapes _ h (by simp)
  have hvalue : value [] (n + 1) depth (skipGap ('"' :: tail)) = .ok (.str content, '\x7d' :: rest) := by
    refine (value_quoted n depth tail).trans ?_
    rw [hcontent]
    rfl
  have huser : value [] (n + 2) depth (skipGap ('"' :: ("user\",\"content\":\"" ++ tail))) =
      .ok (.str "user", ",\"content\":\"" ++ tail) :=
    value_quoted (n + 1) depth ("user\",\"content\":\"" ++ tail)
  have hrole : quotedRest [] ("role\":\"user\",\"content\":\"" ++ tail) =
      .ok (⟨"role", none⟩, ":\"user\",\"content\":\"" ++ tail) := rfl
  have hcolon₁ : skipGap (":\"user\",\"content\":\"" ++ tail) =
      ':' :: '"' :: ("user\",\"content\":\"" ++ tail) := rfl
  have hcomma : skipGap (",\"content\":\"" ++ tail) = ',' :: '"' :: ("content\":\"" ++ tail) := rfl
  have hgap : skipGap ('"' :: ("content\":\"" ++ tail)) = '"' :: ("content\":\"" ++ tail) := rfl
  have hsecond : quotedRest [] ("content\":\"" ++ tail) = .ok (⟨"content", none⟩, ":\"" ++ tail) := rfl
  have hcolon₂ : skipGap (":\"" ++ tail) = ':' :: '"' :: tail := rfl
  have hend : skipGap ('\x7d' :: rest) = '\x7d' :: rest := rfl
  rw [value_object (r := "role\":\"user\",\"content\":\"" ++ tail) rfl, fields_comma hrole hcolon₁ huser hcomma,
    hgap, fields_end hsecond hcolon₂ hvalue hend]
  rfl

theorem read_turnBody [Depth] {content name c n : Text} (hc : Escapes content c) (hn : Escapes name n) :
    Json.read (turnBody c n) = .ok (turnValue content name) := by
  generalize hend : n ++ '"' :: ['\x7d'] = last
  have hname : quotedRest [] last = .ok (⟨name, none⟩, ['\x7d']) := by
    rw [← hend]
    exact stringRest_escapes _ hn (by simp)
  generalize hrest : ']' :: ',' :: '"' :: ("database\":\"" ++ last) = rest
  have hbody : turnBody c n = '\x7b' :: '"' :: ("messages\":[" ++ userMessage c rest) := by
    rw [turnBody, hend, hrest]
  obtain ⟨k, hk⟩ : ∃ k, 2 * (turnBody c n).length + 2 = k + 8 :=
    ⟨2 * (turnBody c n).length - 6, by simp [turnBody, userMessage]; omega⟩
  obtain ⟨depth, hdepth⟩ := Depth.exists_levels
  have hmessages : value [] (k + 6) (depth + 2) (skipGap ('[' :: userMessage c rest)) =
      .ok (.arr [.obj [("role", .str "user"), ("content", .str content)]],
        ',' :: '"' :: ("database\":\"" ++ last)) := by
    have hgap : skipGap ('[' :: userMessage c rest) = '[' :: userMessage c rest := rfl
    have hclose : skipGap rest = ']' :: ',' :: '"' :: ("database\":\"" ++ last) := by
      rw [← hrest]
      rfl
    rw [hgap, value_array rfl]
    exact items_end (value_userMessage hc k depth rest) hclose
  have hdatabase : value [] (k + 5) (depth + 2) (skipGap ('"' :: last)) = .ok (.str name, ['\x7d']) := by
    refine (value_quoted (k + 4) (depth + 2) last).trans ?_
    rw [hname]
    rfl
  have hfirst : quotedRest [] ("messages\":[" ++ userMessage c rest) =
      .ok (⟨"messages", none⟩, ":[" ++ userMessage c rest) := rfl
  have hcolon₁ : skipGap (":[" ++ userMessage c rest) = ':' :: '[' :: userMessage c rest := rfl
  have hcomma : skipGap (',' :: '"' :: ("database\":\"" ++ last)) = ',' :: '"' :: ("database\":\"" ++ last) := rfl
  have hgap : skipGap ('"' :: ("database\":\"" ++ last)) = '"' :: ("database\":\"" ++ last) := rfl
  have hsecond : quotedRest [] ("database\":\"" ++ last) = .ok (⟨"database", none⟩, ":\"" ++ last) := rfl
  have hcolon₂ : skipGap (":\"" ++ last) = ':' :: '"' :: last := rfl
  have hclose : skipGap ['\x7d'] = '\x7d' :: [] := rfl
  have hvalue : value [] (k + 8) Depth.levels ('\x7b' :: '"' :: ("messages\":[" ++ userMessage c rest)) =
      .ok (turnValue content name, []) := by
    rw [hdepth, value_object (r := "messages\":[" ++ userMessage c rest) rfl,
      fields_comma hfirst hcolon₁ hmessages hcomma, hgap, fields_end hsecond hcolon₂ hdatabase hclose]
    rfl
  have hstart : skipGap (turnBody c n) = '\x7b' :: '"' :: ("messages\":[" ++ userMessage c rest) := by
    rw [hbody]
    rfl
  rw [Json.read, readSent, hk, hstart, hvalue]
  rfl

theorem readChatRequest_turnBody [Depth] {content name c n : Text} (hc : Escapes content c) (hn : Escapes name n) :
    readChatRequest (turnBody c n) = .ok (turnRequest content name) := by
  have hbytes : (turnBody c n : Body).bytes ≠ [] := List.cons_ne_nil _ _
  have hsent : sent? (turnBody c n : Body).bytes = some ⟨turnBody c n, []⟩ := sent?_of_fields _
  have hread : readSent ⟨turnBody c n, []⟩ = .ok (turnValue content name) := read_turnBody hc hn
  have hcheck : ChatRequest.check (.ofJson (turnValue content name)) = .ok (turnRequest content name) := rfl
  rw [readChatRequest, if_neg hbytes, hsent]
  simp only [hread, hcheck]
  rfl

end DdlAtlas.Api
