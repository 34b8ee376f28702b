import DdlAtlas.Json.Basic
import DdlAtlas.Note

/-! The settings of the program, section by section, with their defaults. Where no value is given, the
chat takes its key and its model from the environment. -/

namespace DdlAtlas

structure Environment where
  chatApiKey : Option Text
  anthropicApiKey : Option Text
  claudeApiKey : Option Text
  chatModel : Option Text
  settingsPath : Option Text
  databaseFolder : Option Text
deriving DecidableEq, Repr

namespace Environment

def empty : Environment :=
  ⟨none, none, none, none, none, none⟩

def ofLookup (lookup : Text → Option Text) : Environment where
  chatApiKey := lookup "CHAT_API_KEY"
  anthropicApiKey := lookup "ANTHROPIC_API_KEY"
  claudeApiKey := lookup "CLAUDE_API_KEY"
  chatModel := lookup "CHAT_MODEL"
  settingsPath := lookup "SCHEMASCOPE_CONFIG"
  databaseFolder := lookup "SCHEMASCOPE_DATABASE_DIR"

def given? : Option Text → Option Text
  | some [] => none
  | v => v

/-- The key of the chat: the first of three variables that is given. -/
def apiKey (e : Environment) : Text :=
  ((given? e.chatApiKey).orElse fun _ =>
    (given? e.anthropicApiKey).orElse fun _ => e.claudeApiKey).getD []

def model (e : Environment) : Text :=
  e.chatModel.getD "claude-sonnet-4-5"

end Environment

structure SourceSettings where
  directory : Text
  extension : Text
  maxFileBytes : Int
deriving DecidableEq, Repr

structure ServerSettings where
  host : Text
  port : Int
  corsOrigins : List Text
deriving DecidableEq, Repr

structure ChatSettings where
  provider : Text
  baseUrl : Text
  apiKey : Text
  model : Text
  apiVersion : Text
  maxTokens : Int
  timeout : Float

structure LogSettings where
  level : Severity
  format : Text
deriving DecidableEq, Repr

structure Settings where
  sources : SourceSettings
  server : ServerSettings
  chat : ChatSettings
  logging : LogSettings

def SourceSettings.default : SourceSettings :=
  ⟨"database", ".sql", 5 * 1024 * 1024⟩

def ServerSettings.default : ServerSettings :=
  ⟨"127.0.0.1", 8000, ["*"]⟩

def ChatSettings.default (e : Environment) : ChatSettings :=
  ⟨"anthropic", "https://api.anthropic.com", e.apiKey, e.model, "2023-06-01", 2048, 120.0⟩

def LogSettings.default : LogSettings :=
  ⟨.info, "%(asctime)s %(levelname)s %(name)s: %(message)s"⟩

namespace Settings

def default (e : Environment) : Settings :=
  ⟨.default, .default, .default e, .default⟩

def redactedKey (s : Settings) : Text :=
  if s.chat.apiKey.isEmpty then [] else "***"

def redacted (s : Settings) : Settings :=
  { s with chat := { s.chat with apiKey := s.redactedKey } }

def toJson (s : Settings) : Json :=
  .obj [
    ("sources", .obj [("directory", .str s.sources.directory),
      ("extension", .str s.sources.extension), ("max_file_bytes", .int s.sources.maxFileBytes)]),
    ("server", .obj [("host", .str s.server.host), ("port", .int s.server.port),
      ("cors_origins", .ofTexts s.server.corsOrigins)]),
    ("chat", .obj [("provider", .str s.chat.provider), ("base_url", .str s.chat.baseUrl),
      ("api_key", .str s.chat.apiKey), ("model", .str s.chat.model),
      ("api_version", .str s.chat.apiVersion), ("max_tokens", .int s.chat.maxTokens),
      ("timeout", .float s.chat.timeout)]),
    ("logging", .obj [("level", .str s.logging.level.name), ("format", .str s.logging.format)])]

end Settings

end DdlAtlas
