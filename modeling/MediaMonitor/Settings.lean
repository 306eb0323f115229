import MediaMonitor.Error
import MediaMonitor.Number.Duration
import MediaMonitor.Text.Blank

/-!
# Settings

Where the backend is, how to reach it, and how patient and how talkative to be.  A draft gathers
settings from variables and from the host; building it fills in the defaults and checks the result.
The address is kept without white space around it and without slashes at its end.
-/

namespace MediaMonitor

/-- The settings of a monitor. -/
structure Settings where
  baseUrl : String
  apiKey : Option String
  requestTimeout : Duration
  pollInterval : Duration
  eventBufferSize : UInt64
  deriving DecidableEq, Repr, Inhabited

namespace Settings

/-- The text behind a given beginning. -/
def afterStart? : List Char → List Char → Option (List Char)
  | [], cs => some cs
  | w :: ws, c :: cs => if w = c then afterStart? ws cs else none
  | _ :: _, [] => none

/-- What follows the scheme of an address. -/
def afterScheme? (url : String) : Option (List Char) :=
  (afterStart? "http://".toList url.toList).or (afterStart? "https://".toList url.toList)

/-- Checks an address: it has a scheme and a host. -/
def checkBaseUrl (url : String) : Except SettingsError Unit :=
  match afterScheme? url with
  | none =>
      .error (.config ("Base URL must start with http:// or https://, got " ++ Text.quote url))
  | some [] => .error (.config ("Base URL is missing a host: " ++ Text.quote url))
  | some ('/' :: _) => .error (.config ("Base URL is missing a host: " ++ Text.quote url))
  | some _ => .ok ()

/-- Checks an API key: there may be none, but not a blank one. -/
def checkApiKey (key : Option String) : Except SettingsError Unit :=
  match key with
  | some key =>
      if Text.trim key = "" then
        .error (.config "API key cannot be blank. Omit it or provide a real key.")
      else .ok ()
  | none => .ok ()

/-- The duration lies between two others. -/
def isWithin (least greatest d : Duration) : Bool := least ≤ d && d ≤ greatest

/-- Checks the settings. -/
def validate (s : Settings) : Except SettingsError Unit := do
  checkBaseUrl s.baseUrl
  checkApiKey s.apiKey
  if !isWithin (.ofSeconds 1) (.ofSeconds 300) s.requestTimeout then
    throw (.config "Request timeout must be between 1s and 300s")
  if !isWithin (.ofMillis 250) (.ofSeconds 60) s.pollInterval then
    throw (.config "Sync poll interval must be between 250ms and 60s")
  if s.eventBufferSize = 0 then throw (.config "Event buffer size must be greater than 0")

/-- The address without white space around it and without slashes at its end. -/
def normalizeUrl (url : String) : String :=
  String.ofList (Text.dropEndWhile (· = '/') (Text.trimChars url.toList))

/-- A description of the settings that does not show the key. -/
def description (s : Settings) : String :=
  "MonitorConfig \x7b base_url: " ++ Text.quote s.baseUrl ++
    ", api_key: " ++ (if s.apiKey.isSome then "Some(\"[REDACTED]\")" else "None") ++
    ", http_client: \"HttpClient \x7b ... \x7d\", request_timeout: " ++ s.requestTimeout.text ++
    ", sync_poll_interval: " ++ s.pollInterval.text ++
    ", event_buffer_size: " ++ Text.ofNat s.eventBufferSize.toNat ++ " \x7d"

end Settings

/-- Settings to be built; those that are absent have defaults, but for the address. -/
structure SettingsDraft where
  baseUrl : Option String := none
  apiKey : Option String := none
  /-- The host provides a transport. -/
  hasTransport : Bool := false
  requestTimeout : Option Duration := none
  pollInterval : Option Duration := none
  eventBufferSize : Option UInt64 := none

namespace SettingsDraft

/-- The number in a variable. -/
def number (name raw : String) : Except SettingsError UInt64 :=
  match Text.unsigned? (Text.trimChars raw.toList) with
  | some n => .ok n
  | none => .error (.invalidEnv name raw)

/-- The duration in a variable, which may be unset. -/
def duration (name : String) (ofNumber : UInt64 → Duration) (raw : Option String) :
    Except SettingsError (Option Duration) :=
  match raw with
  | some raw => (number name raw).map (fun n => some (ofNumber n))
  | none => .ok none

/-- The draft that variables describe. -/
def ofLookup (lookup : String → Option String) : Except SettingsError SettingsDraft := do
  let interval ← duration "MLM_POLL_INTERVAL_MS" .ofMillis (lookup "MLM_POLL_INTERVAL_MS")
  let timeout ← duration "MLM_REQUEST_TIMEOUT_SECS" .ofSeconds (lookup "MLM_REQUEST_TIMEOUT_SECS")
  return {
    baseUrl := lookup "MLM_BASE_URL"
    apiKey := (lookup "MLM_API_KEY").filter (· ≠ "")
    pollInterval := interval
    requestTimeout := timeout }

/-- What is said when the host provides no transport. -/
def transportMissing : SettingsError :=
  .capabilityMissing "HttpClient" ("HttpClient implementation is required to reach the monitor " ++
    "backend. Desktop: enable the 'desktop-shims' feature to use the default ReqwestHttpClient. " ++
    "Other hosts: inject an implementation with .http_client().")

/-- Builds the settings. -/
def build (d : SettingsDraft) : Except SettingsError Settings := do
  match d.baseUrl with
  | none => throw (.config "Base URL is required. Use .base_url() or set MLM_BASE_URL.")
  | some url =>
      if !d.hasTransport then throw transportMissing
      let s : Settings := {
        baseUrl := Settings.normalizeUrl url
        apiKey := d.apiKey
        requestTimeout := d.requestTimeout.getD (.ofSeconds 30)
        pollInterval := d.pollInterval.getD (.ofSeconds 2)
        eventBufferSize := d.eventBufferSize.getD 100 }
      s.validate
      return s

end SettingsDraft

end MediaMonitor
