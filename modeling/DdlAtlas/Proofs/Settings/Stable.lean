import DdlAtlas.Proofs.Text.Phrase
import DdlAtlas.Settings.Validation
import Mathlib.Data.List.DropRight

/-!
# Accepted settings are accepted again

A field check turns what is written into a value that follows a rule, and it leaves a value that follows the
rule as it is. Sections and settings are put together from such fields, so that the settings that come out of a
check pass it again unchanged. One field is different: the slashes at the end of an address are taken away
after its scheme has been looked for, and where an address is a scheme and slashes alone, the scheme loses the
slashes it is told by.
-/

namespace DdlAtlas

namespace Checked

variable {α β : Type}

theorem and_eq_ok {f : Checked (α → β)} {x : Checked α} {b : β} (h : f.and x = .ok b) :
    ∃ g a, f = .ok g ∧ x = .ok a ∧ b = g a := by
  cases f with
  | error e => cases x <;> cases h
  | ok g =>
    cases x with
    | error e => cases h
    | ok a => exact ⟨g, a, rfl, rfl, (Except.ok.inj h).symm⟩

theorem andThen_eq_ok {x : Checked α} {check : α → Checked β} {b : β} (h : x.andThen check = .ok b) :
    ∃ a, x = .ok a ∧ check a = .ok b := by
  cases x with
  | error e => cases h
  | ok a => exact ⟨a, rfl, h⟩

theorem under_eq_ok {step : Step} {x : Checked α} {a : α} (h : x.under step = .ok a) : x = .ok a := by
  cases x with
  | error e => cases h
  | ok b => exact h

end Checked

namespace Settings

open Yaml (Value)

/-- A check whose values follow a rule, and that accepts every value that follows the rule as it is written. -/
structure Keeps {α : Type} (check : Value → Checked α) (write : α → Value) (rule : α → Prop) : Prop where
  follows : ∀ {v a}, check v = .ok a → rule a
  again : ∀ {a}, rule a → check (write a) = .ok a

theorem keeps_text : Keeps checkText .str fun _ => True :=
  ⟨fun _ => trivial, fun _ => rfl⟩

theorem keeps_extension : Keeps checkExtension .str fun t => ∃ rest, t = '.' :: rest where
  follows h := by
    obtain ⟨t, -, ht⟩ := Checked.andThen_eq_ok h
    split at ht
    · cases ht
    · obtain rfl := Except.ok.inj ht
      split
      · rename_i hdot
        obtain ⟨rest, hrest⟩ := Text.startsWith_iff.mp hdot
        exact ⟨rest, hrest.symm⟩
      · exact ⟨t, rfl⟩
  again := by
    rintro _ ⟨rest, rfl⟩
    rfl

theorem keeps_intBetween (least most : Int) :
    Keeps (checkIntBetween least most) .int fun n => least ≤ n ∧ n ≤ most where
  follows h := by
    obtain ⟨n, -, hn⟩ := Checked.andThen_eq_ok h
    split at hn
    · cases hn
    · split at hn
      · cases hn
      · obtain rfl := Except.ok.inj hn
        omega
  again := by
    rintro n ⟨hleast, hmost⟩
    simp only [checkIntBetween, checkInt, Checked.andThen]
    rw [if_neg (by omega), if_neg (by omega)]

theorem keeps_positive : Keeps checkPositive .float fun x => 0.0 < x where
  follows h := by
    obtain ⟨x, -, hx⟩ := Checked.andThen_eq_ok h
    split at hx
    · obtain rfl := Except.ok.inj hx
      assumption
    · cases hx
  again hx := if_pos hx

theorem keeps_texts : Keeps checkTexts (fun ts => .list (ts.map .str)) fun _ => True where
  follows _ := trivial
  again := by
    intro ts _
    have hitems : ∀ (ts : List Text) (i : Nat), Checked.items checkText i (ts.map .str) = .ok ts := by
      intro ts
      induction ts with
      | nil => intro i; rfl
      | cons t ts ih =>
        intro i
        rw [List.map_cons, Checked.items, ih]
        rfl
    exact hitems ts 0

theorem keeps_provider : Keeps checkProvider .str fun t => t = "anthropic" where
  follows {v a} h := by
    cases v with
    | str t =>
      simp only [checkProvider, checkChoice] at h
      split at h
      · rename_i hmeaning
        obtain rfl := Except.ok.inj h
        split at hmeaning
        · exact Option.some.inj hmeaning ▸ ‹_›
        · cases hmeaning
      · cases h
    | _ => cases h
  again := by
    rintro _ rfl
    rfl

theorem keeps_level : Keeps (checkChoice Severity.ofName?) (fun level => .str level.name) fun _ => True where
  follows _ := trivial
  again {level} _ := by cases level <;> rfl

/-! ### The address of the provider -/

def schemes : List Text := ["http:", "https:"]

def isAddress (url : Text) : Bool :=
  schemes.any fun scheme => Text.startsWith url (scheme ++ "//")

def withoutSlashes (url : Text) : Text :=
  url.rdropWhile (· == '/')

def Bare (url : Text) : Prop :=
  ∃ scheme ∈ schemes, ∃ n, url = scheme ++ List.replicate n '/'

theorem rdropWhile_append {α : Type} (p : α → Bool) (u v : List α) :
    (u ++ v).rdropWhile p = if v.rdropWhile p = [] then u.rdropWhile p else u ++ v.rdropWhile p := by
  simp only [List.rdropWhile, List.reverse_append, List.dropWhile_append, List.isEmpty_iff,
    List.reverse_eq_nil_iff]
  split <;> simp

theorem withoutSlashes_scheme {scheme : Text} (h : scheme ∈ schemes) : withoutSlashes scheme = scheme := by
  simp only [schemes, List.mem_cons, List.not_mem_nil, or_false] at h
  rcases h with rfl | rfl <;> rfl

theorem withoutSlashes_idem (url : Text) : withoutSlashes (withoutSlashes url) = withoutSlashes url :=
  List.rdropWhile_idempotent _ url

theorem withoutSlashes_eq_self_iff {url : Text} : withoutSlashes url = url ↔ url.getLast? ≠ some '/' := by
  rw [withoutSlashes, List.rdropWhile_eq_self_iff]
  by_cases hne : url = []
  · simp [hne]
  · simp [List.getLast?_eq_some_getLast hne, hne]

theorem bare_iff {url : Text} : Bare url ↔ withoutSlashes url ∈ schemes := by
  constructor
  · rintro ⟨scheme, hscheme, n, rfl⟩
    have hslashes : (List.replicate n '/').rdropWhile (· == '/') = [] := by simp
    rwa [withoutSlashes, rdropWhile_append, if_pos hslashes, ← withoutSlashes, withoutSlashes_scheme hscheme]
  · intro h
    refine ⟨_, h, (url.rtakeWhile (· == '/')).length, ?_⟩
    have hslashes : url.rtakeWhile (· == '/') = List.replicate (url.rtakeWhile (· == '/')).length '/' :=
      List.eq_replicate_of_mem fun c hc => by simpa using List.mem_rtakeWhile_imp hc
    rw [← hslashes]
    exact List.rdropWhile_append_rtakeWhile.symm

theorem isAddress_withoutSlashes {url : Text} (h : isAddress url = true) :
    isAddress (withoutSlashes url) = true ↔ ¬Bare url := by
  rw [bare_iff]
  constructor
  · intro haddress hscheme
    have hnot : schemes.all (!isAddress ·) = true := by decide
    have := List.all_eq_true.mp hnot _ hscheme
    simp [haddress] at this
  · intro hnot
    obtain ⟨scheme, hscheme, hstarts⟩ := List.any_eq_true.mp h
    obtain ⟨rest, rfl⟩ := Text.startsWith_iff.mp hstarts
    refine List.any_eq_true.mpr ⟨scheme, hscheme, Text.startsWith_iff.mpr ?_⟩
    rw [withoutSlashes, rdropWhile_append] at hnot ⊢
    split
    · rename_i hslashes
      rw [if_pos hslashes, rdropWhile_append, if_pos (by decide), ← withoutSlashes,
        withoutSlashes_scheme hscheme] at hnot
      exact absurd hscheme hnot
    · exact List.prefix_append _ _

theorem checkBaseUrl_eq (v : Value) : checkBaseUrl v = (checkText v).andThen fun url =>
    if isAddress url then .ok (withoutSlashes url) else .broken .custom := by
  have hschemes : ∀ url, isAddress url = (Text.startsWith url "http://" || Text.startsWith url "https://") :=
    fun url => congrArg (_ || ·) (Bool.or_false _)
  simp only [hschemes]
  rfl

theorem checkBaseUrl_eq_ok {v : Value} {url : Text} (h : checkBaseUrl v = .ok url) :
    ∃ given, checkText v = .ok given ∧ isAddress given = true ∧ url = withoutSlashes given := by
  rw [checkBaseUrl_eq] at h
  obtain ⟨given, hgiven, h⟩ := Checked.andThen_eq_ok h
  split at h
  · rename_i haddress
    exact ⟨given, hgiven, haddress, (Except.ok.inj h).symm⟩
  · cases h

theorem checkBaseUrl_again {url : Text} (h : withoutSlashes url = url) :
    checkBaseUrl (.str url) = if isAddress url then .ok url else .broken .custom := by
  rw [checkBaseUrl_eq]
  simp only [checkText, Checked.andThen, h]

/-! ### Sections -/

section Fields

variable {α : Type} {check : Value → Checked α} {fields : List (Value × Value)} {name : Text} {default a : α}

theorem checkField_eq_ok (h : checkField fields name default check = .ok a) :
    (Value.field? fields name = none ∧ a = default) ∨
      ∃ v, Value.field? fields name = some v ∧ check v = .ok a := by
  unfold checkField at h
  split at h
  · exact .inl ⟨‹_›, (Except.ok.inj h).symm⟩
  · exact .inr ⟨_, ‹_›, Checked.under_eq_ok h⟩

theorem checkField_some {v : Value} (hv : Value.field? fields name = some v) :
    checkField fields name default check = (check v).under (.field name) := by
  rw [checkField, hv]

theorem Keeps.field {write : α → Value} {rule : α → Prop} (hk : Keeps check write rule) (hd : rule default)
    (h : checkField fields name default check = .ok a) : rule a := by
  rcases checkField_eq_ok h with ⟨-, rfl⟩ | ⟨v, -, hv⟩
  · exact hd
  · exact hk.follows hv

theorem Keeps.field_again {write : α → Value} {rule : α → Prop} (hk : Keeps check write rule)
    (hv : Value.field? fields name = some (write a)) (ha : rule a) :
    checkField fields name default check = .ok a := by
  rw [checkField_some hv, hk.again ha]
  rfl

end Fields

theorem checkRecord_eq_ok {α : Type} {check : List (Value × Value) → Checked α} {v : Value} {a : α}
    (h : checkRecord check v = .ok a) : ∃ fields, v = .mapping fields ∧ check fields = .ok a := by
  cases v with
  | mapping fields => exact ⟨fields, rfl, h⟩
  | _ => cases h

end Settings

def SourceSettings.toValue (s : SourceSettings) : Yaml.Value :=
  .mapping [(.str "directory", .str s.directory), (.str "extension", .str s.extension),
    (.str "max_file_bytes", .int s.maxFileBytes)]

def ServerSettings.toValue (s : ServerSettings) : Yaml.Value :=
  .mapping [(.str "host", .str s.host), (.str "port", .int s.port),
    (.str "cors_origins", .list (s.corsOrigins.map .str))]

def ChatSettings.toValue (s : ChatSettings) : Yaml.Value :=
  .mapping [(.str "provider", .str s.provider), (.str "base_url", .str s.baseUrl), (.str "api_key", .str s.apiKey),
    (.str "model", .str s.model), (.str "api_version", .str s.apiVersion), (.str "max_tokens", .int s.maxTokens),
    (.str "timeout", .float s.timeout)]

def LogSettings.toValue (s : LogSettings) : Yaml.Value :=
  .mapping [(.str "level", .str s.level.name), (.str "format", .str s.format)]

structure SourceSettings.Ruled (s : SourceSettings) : Prop where
  extension : ∃ rest, s.extension = '.' :: rest
  maxFileBytes : 1024 ≤ s.maxFileBytes ∧ s.maxFileBytes ≤ 100 * 1024 * 1024

def ServerSettings.Ruled (s : ServerSettings) : Prop :=
  1 ≤ s.port ∧ s.port ≤ 65535

structure ChatSettings.Ruled (s : ChatSettings) : Prop where
  provider : s.provider = "anthropic"
  baseUrl : s.baseUrl.getLast? ≠ some '/'
  maxTokens : 1 ≤ s.maxTokens ∧ s.maxTokens ≤ 64000
  timeout : 0.0 < s.timeout

namespace Settings

open Yaml (Value)

theorem keeps_sources : Keeps checkSources SourceSettings.toValue SourceSettings.Ruled where
  follows h := by
    obtain ⟨fields, rfl, h⟩ := checkRecord_eq_ok h
    obtain ⟨_, size, hrest, hsize, rfl⟩ := Checked.and_eq_ok h
    obtain ⟨_, extension, hrest', hextension, rfl⟩ := Checked.and_eq_ok hrest
    obtain ⟨_, directory, hmk, -, rfl⟩ := Checked.and_eq_ok hrest'
    obtain rfl := Except.ok.inj hmk
    exact ⟨keeps_extension.field ⟨_, rfl⟩ hextension, (keeps_intBetween _ _).field (by decide) hsize⟩
  again {s} hs := by
    simp only [checkSources, SourceSettings.toValue, checkRecord]
    rw [keeps_text.field_again rfl trivial, keeps_extension.field_again rfl hs.extension,
      (keeps_intBetween _ _).field_again rfl hs.maxFileBytes]
    rfl

theorem keeps_server : Keeps checkServer ServerSettings.toValue ServerSettings.Ruled where
  follows h := by
    obtain ⟨fields, rfl, h⟩ := checkRecord_eq_ok h
    obtain ⟨_, origins, hrest, -, rfl⟩ := Checked.and_eq_ok h
    obtain ⟨_, port, hrest', hport, rfl⟩ := Checked.and_eq_ok hrest
    obtain ⟨_, host, hmk, -, rfl⟩ := Checked.and_eq_ok hrest'
    obtain rfl := Except.ok.inj hmk
    exact (keeps_intBetween 1 65535).field (by decide) hport
  again {s} hs := by
    simp only [checkServer, ServerSettings.toValue, checkRecord]
    rw [keeps_text.field_again rfl trivial, (keeps_intBetween _ _).field_again rfl hs,
      keeps_texts.field_again rfl trivial]
    rfl

theorem keeps_logging : Keeps checkLogging LogSettings.toValue fun _ => True where
  follows _ := trivial
  again {s} _ := by
    simp only [checkLogging, LogSettings.toValue, checkRecord]
    rw [keeps_level.field_again rfl trivial, keeps_text.field_again rfl trivial]
    rfl

theorem fields_of_checkChat {e : Environment} {fields : List (Value × Value)} {s : ChatSettings}
    (h : checkChat e (.mapping fields) = .ok s) :
    checkField fields "provider" (ChatSettings.default e).provider checkProvider = .ok s.provider ∧
      checkField fields "base_url" (ChatSettings.default e).baseUrl checkBaseUrl = .ok s.baseUrl ∧
      checkField fields "max_tokens" (ChatSettings.default e).maxTokens (checkIntBetween 1 64000) =
        .ok s.maxTokens ∧
      checkField fields "timeout" (ChatSettings.default e).timeout checkPositive = .ok s.timeout := by
  obtain ⟨_, timeout, hsix, htimeout, rfl⟩ := Checked.and_eq_ok h
  obtain ⟨_, tokens, hfive, htokens, rfl⟩ := Checked.and_eq_ok hsix
  obtain ⟨_, version, hfour, -, rfl⟩ := Checked.and_eq_ok hfive
  obtain ⟨_, model, hthree, -, rfl⟩ := Checked.and_eq_ok hfour
  obtain ⟨_, key, htwo, -, rfl⟩ := Checked.and_eq_ok hthree
  obtain ⟨_, url, hone, hurl, rfl⟩ := Checked.and_eq_ok htwo
  obtain ⟨_, provider, hmk, hprovider, rfl⟩ := Checked.and_eq_ok hone
  obtain rfl := Except.ok.inj hmk
  exact ⟨hprovider, hurl, htokens, htimeout⟩

theorem ruled_default (e : Environment) : (ChatSettings.default e).Ruled where
  provider := rfl
  baseUrl := show "https://api.anthropic.com".toList.getLast? ≠ some '/' by decide
  maxTokens := show (1 : Int) ≤ 2048 ∧ (2048 : Int) ≤ 64000 by decide
  timeout := show (0.0 : Float) < 120.0 by decide

theorem ruled_of_checkChat {e : Environment} {v : Value} {s : ChatSettings} (h : checkChat e v = .ok s) :
    s.Ruled := by
  obtain ⟨fields, rfl, -⟩ := checkRecord_eq_ok h
  obtain ⟨hprovider, hurl, htokens, htimeout⟩ := fields_of_checkChat h
  refine ⟨keeps_provider.field rfl hprovider, ?_, (keeps_intBetween _ _).field (ruled_default e).maxTokens htokens,
    keeps_positive.field (ruled_default e).timeout htimeout⟩
  rcases checkField_eq_ok hurl with ⟨-, hdefault⟩ | ⟨v, -, hv⟩
  · rw [hdefault]
    exact (ruled_default e).baseUrl
  · obtain ⟨given, -, -, hgiven⟩ := checkBaseUrl_eq_ok hv
    rw [hgiven]
    exact withoutSlashes_eq_self_iff.mp (withoutSlashes_idem given)

theorem checkChat_again (e : Environment) {s : ChatSettings} (hs : s.Ruled) :
    checkChat e s.toValue =
      if isAddress s.baseUrl then .ok s else .error [⟨[.field "base_url"], .custom⟩] := by
  simp only [checkChat, ChatSettings.toValue, checkRecord]
  rw [keeps_provider.field_again rfl hs.provider, checkField_some rfl, checkBaseUrl_again (withoutSlashes_eq_self_iff.mpr hs.baseUrl),
    keeps_text.field_again rfl trivial, keeps_text.field_again rfl trivial, keeps_text.field_again rfl trivial,
    (keeps_intBetween _ _).field_again rfl hs.maxTokens, keeps_positive.field_again rfl hs.timeout]
  split <;> rfl

/-! ### All settings -/

structure Ruled (s : Settings) : Prop where
  sources : s.sources.Ruled
  server : s.server.Ruled
  chat : s.chat.Ruled

def givenUrl? : Value → Option Text
  | .mapping fields =>
    match Value.field? fields "chat" with
    | some (.mapping chat) => (Value.field? chat "base_url").bind fun v => (checkText v).toOption
    | _ => none
  | _ => none

theorem ofJson_toJson (s : Settings) : Value.ofJson s.toJson =
    .mapping [(.str "sources", s.sources.toValue), (.str "server", s.server.toValue),
      (.str "chat", s.chat.toValue), (.str "logging", s.logging.toValue)] := by
  have htexts : ∀ ts : List Text, Value.ofItems (ts.map .str) = ts.map .str := by
    intro ts
    induction ts with
    | nil => rfl
    | cons t ts ih => rw [List.map_cons, Value.ofItems, ih]; rfl
  simp only [toJson, Json.ofTexts, Value.ofJson, Value.ofFields, htexts, SourceSettings.toValue,
    ServerSettings.toValue, ChatSettings.toValue, LogSettings.toValue]
  rfl

theorem sections_of_check {e : Environment} {fields : List (Value × Value)} {s : Settings}
    (h : check e (.mapping fields) = .ok s) :
    checkField fields "sources" SourceSettings.default checkSources = .ok s.sources ∧
      checkField fields "server" ServerSettings.default checkServer = .ok s.server ∧
      checkField fields "chat" (ChatSettings.default e) (checkChat e) = .ok s.chat := by
  obtain ⟨_, logging, hthree, -, rfl⟩ := Checked.and_eq_ok h
  obtain ⟨_, chat, htwo, hchat, rfl⟩ := Checked.and_eq_ok hthree
  obtain ⟨_, server, hone, hserver, rfl⟩ := Checked.and_eq_ok htwo
  obtain ⟨_, sources, hmk, hsources, rfl⟩ := Checked.and_eq_ok hone
  obtain rfl := Except.ok.inj hmk
  exact ⟨hsources, hserver, hchat⟩

theorem ruled_of_check {e : Environment} {v : Value} {s : Settings} (h : check e v = .ok s) : s.Ruled := by
  obtain ⟨fields, rfl, -⟩ := checkRecord_eq_ok h
  obtain ⟨hsources, hserver, hchat⟩ := sections_of_check h
  refine ⟨keeps_sources.field ⟨⟨"sql".toList, rfl⟩, by decide⟩ hsources,
    keeps_server.field (by unfold ServerSettings.Ruled; decide) hserver, ?_⟩
  rcases checkField_eq_ok hchat with ⟨-, hdefault⟩ | ⟨v, -, hv⟩
  · rw [hdefault]
    exact ruled_default e
  · exact ruled_of_checkChat hv

theorem check_toJson (e : Environment) {s : Settings} (hs : s.Ruled) : check e (.ofJson s.toJson) =
    if isAddress s.chat.baseUrl then .ok s
    else .error [⟨[.field "chat", .field "base_url"], .custom⟩] := by
  rw [ofJson_toJson]
  simp only [check, checkRecord]
  rw [keeps_sources.field_again rfl hs.sources, keeps_server.field_again rfl hs.server, checkField_some rfl,
    checkChat_again e hs.chat, keeps_logging.field_again rfl trivial]
  split <;> rfl

theorem isAddress_default (e : Environment) : isAddress (ChatSettings.default e).baseUrl = true := by
  change isAddress "https://api.anthropic.com" = true
  decide

theorem isAddress_of_check {e : Environment} {v : Value} {s : Settings} (h : check e v = .ok s) :
    isAddress s.chat.baseUrl = true ↔ ∀ url, givenUrl? v = some url → ¬Bare url := by
  obtain ⟨fields, rfl, -⟩ := checkRecord_eq_ok h
  obtain ⟨-, -, hchat⟩ := sections_of_check h
  rcases checkField_eq_ok hchat with ⟨hnone, hdefault⟩ | ⟨v, hsome, hv⟩
  · have hgiven : givenUrl? (.mapping fields) = none := by simp only [givenUrl?, hnone]
    simp [hgiven, hdefault, isAddress_default]
  · obtain ⟨chat, rfl, -⟩ := checkRecord_eq_ok hv
    obtain ⟨-, hurl, -⟩ := fields_of_checkChat hv
    rcases checkField_eq_ok hurl with ⟨hnone, hdefault⟩ | ⟨u, hu, hcheck⟩
    · have hgiven : givenUrl? (.mapping fields) = none := by
        simp only [givenUrl?, hsome, hnone, Option.bind_none]
      simp [hgiven, hdefault, isAddress_default]
    · obtain ⟨given, htext, haddress, hbase⟩ := checkBaseUrl_eq_ok hcheck
      have hgiven : givenUrl? (.mapping fields) = some given := by
        simp only [givenUrl?, hsome, hu, Option.bind_some, htext, Except.toOption]
      simp [hbase, isAddress_withoutSlashes haddress, hgiven]

/-- Settings that pass the check follow its rules, the address of the provider without the slashes at its end.
Checked again, in any environment, they come out as they are, unless nothing but slashes stood behind the scheme
of the address: then the address that is left is refused, and it alone. -/
theorem check_stable {e : Environment} {v : Value} {s : Settings} (h : check e v = .ok s) :
    s.Ruled ∧ (isAddress s.chat.baseUrl = true ↔ ∀ url, givenUrl? v = some url → ¬Bare url) ∧
      ∀ e' : Environment, check e' (.ofJson s.toJson) =
        if isAddress s.chat.baseUrl then .ok s
        else .error [⟨[.field "chat", .field "base_url"], .custom⟩] :=
  ⟨ruled_of_check h, isAddress_of_check h, fun e' => check_toJson e' (ruled_of_check h)⟩

def looseData : Value :=
  .mapping [(.str "sources", .mapping [(.str "extension", .str "ddl"), (.str "max_file_bytes", .str "2048")]),
    (.str "chat", .mapping [(.str "base_url", .str "https://x///"), (.str "timeout", .float 1.5)])]

def looseSettings : Settings where
  sources := ⟨"database", ".ddl", 2048⟩
  server := .default
  chat := ⟨"anthropic", "https://x", [], "claude-sonnet-4-5", "2023-06-01", 2048, 1.5⟩
  logging := .default

theorem check_stable_looseData : check .empty looseData = .ok looseSettings ∧ looseSettings.Ruled ∧
    ∀ e' : Environment, check e' (.ofJson looseSettings.toJson) = .ok looseSettings := by
  have hcheck : check .empty looseData = .ok looseSettings := rfl
  obtain ⟨hruled, -, hagain⟩ := check_stable hcheck
  exact ⟨hcheck, hruled, fun e' => (hagain e').trans (if_pos (by decide))⟩

theorem check_bareAddress : ∃ s,
    check .empty (.mapping [(.str "chat", .mapping [(.str "base_url", .str "http://")])]) = .ok s ∧
      s.chat.baseUrl = "http:" ∧ isAddress s.chat.baseUrl = false ∧
      check .empty (.ofJson s.toJson) = .error [⟨[.field "chat", .field "base_url"], .custom⟩] := by
  have hcheck : check .empty (.mapping [(.str "chat", .mapping [(.str "base_url", .str "http://")])]) =
      .ok { Settings.default .empty with chat := { ChatSettings.default .empty with baseUrl := "http:" } } := rfl
  exact ⟨_, hcheck, rfl, by decide, (check_toJson _ (ruled_of_check hcheck)).trans (if_neg (by decide))⟩

end Settings

end DdlAtlas
