import DeckTools.Http.Client
import DeckTools.Search
import DeckTools.Settings.EnvFile
import DeckTools.Tool.Basic

/-!
# Configuration

Everything a program needs to know is read from the environment.  Variables are
read in a fixed order, and the first fault is reported.
-/

namespace DeckTools

structure Config where
  token : String
  translateKey : Option String
  endpoints : Endpoints
  timeoutSeconds : Nat
  settings : ToolSettings

namespace Config

/-! ## Defaults -/

def defaultEndpoints : Endpoints :=
  { slides := "https://slides.googleapis.com/v1"
    drive := "https://www.googleapis.com/drive/v3"
    upload := "https://www.googleapis.com/upload/drive/v3"
    translate := "https://translation.googleapis.com/language/translate/v2" }

def defaultTimeout : Nat := 30

/-- The limits of tools: exports of 50 MiB, and 40 characters around a match. -/
def defaultSettings : ToolSettings :=
  { exportMaxBytes := 50 * 1024 * 1024, searchContext := 40 }

/-! ## Reading -/

def readToken (env : Environment) : Except SettingsError String := do
  match (← env.text? "GOOGLE_OAUTH_TOKEN") with
  | some token => .ok token
  | none => .error (.missing "GOOGLE_OAUTH_TOKEN")

def readTimeout (env : Environment) : Except SettingsError Nat := do
  let seconds <- env.count "HTTP_TIMEOUT_SECS" defaultTimeout
  if seconds == 0 then .error (.invalid "HTTP_TIMEOUT_SECS" "must be greater than 0")
  else .ok seconds

def readContext (env : Environment) : Except SettingsError Nat := do
  let radius <- env.count "SEARCH_CONTEXT_CHARS" defaultSettings.searchContext
  if Search.maxContext < radius then
    .error (.invalid "SEARCH_CONTEXT_CHARS"
      ("must be at most " ++ Text.natText Search.maxContext))
  else .ok radius

def readEndpoints (env : Environment) : Except SettingsError Endpoints := do
  let slides <- env.text? "SLIDES_API_BASE_URL"
  let drive <- env.text? "DRIVE_API_BASE_URL"
  let upload <- env.text? "DRIVE_UPLOAD_BASE_URL"
  let translate <- env.text? "TRANSLATE_API_BASE_URL"
  .ok
    { slides := slides.getD defaultEndpoints.slides
      drive := drive.getD defaultEndpoints.drive
      upload := upload.getD defaultEndpoints.upload
      translate := translate.getD defaultEndpoints.translate }

def read (env : Environment) : Except SettingsError Config := do
  let token <- readToken env
  let timeoutSeconds <- readTimeout env
  let searchContext <- readContext env
  let translateKey <- env.text? "GOOGLE_TRANSLATE_API_KEY"
  let endpoints <- readEndpoints env
  let exportMaxBytes <- env.count "EXPORT_MAX_BYTES" defaultSettings.exportMaxBytes
  .ok { token, translateKey, endpoints, timeoutSeconds
        settings := { exportMaxBytes, searchContext } }

def logsJson (env : Environment) : Except SettingsError Bool :=
  env.flag "SLIDESMITH_LOG_JSON" false

def client (config : Config) (boundaryDigits : String) (words : JsonWords) : HttpClient :=
  { endpoints := config.endpoints
    token := config.token
    translateKey := config.translateKey
    boundaryDigits
    words }

end Config

end DeckTools
