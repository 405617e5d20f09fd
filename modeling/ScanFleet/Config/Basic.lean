import ScanFleet.Fleet.State
import ScanFleet.Time.Duration
import ScanFleet.Url.Reader

/-! The configuration of a controller, and what can be wrong with one. -/

namespace ScanFleet

open Text

/-- A place that reports of workers are sent on to, with a token if it asks for one. -/
structure RelayTarget where
  url : String
  token : Option String
deriving DecidableEq, Repr

/-- The target that a text names.  What stands before the first `@` is the token, unless a scheme
stands there: then the sign belongs to the URL. -/
def RelayTarget.read (s : String) : Except UrlError RelayTarget :=
  let cs := trimBy isBlank s.toList
  let (token, url) := match splitAt '@' cs with
    | some (token, url) =>
      if (String.ofList token).contains "://" then (none, cs)
      else (some (String.ofList token), url)
    | none => (none, cs)
  (Url.read (String.ofList url)).map fun u => ⟨u.text, token.filter (· != "")⟩

/-- Where the controller listens. -/
structure ServerConfig where
  host : String
  port : Nat
deriving DecidableEq, Repr

/-- The database, whose URL may be missing. -/
structure DatabaseConfig where
  url : Option String
  maxConnections : Nat
deriving DecidableEq, Repr

/-- The settings of the fleet and the secrets of its callers. -/
structure GeneralConfig where
  debugLog : Bool
  /-- What operators present. -/
  apiSecret : Option String
  /-- What workers present. -/
  bearerToken : Option String
  workerUnseen : Duration
  recalcInterval : Duration
  rebuildInterval : Duration
  rebuildHour : Nat
  minLevel : Int
  maxLevel : Int
deriving DecidableEq, Repr

/-- The calculator of routes. -/
structure CalculatorConfig where
  url : Url
  token : Option String
deriving DecidableEq, Repr

/-- The processors of what workers report. -/
structure ProcessorsConfig where
  endpoint : Option Url
  rawToken : Option String
  secret : Option String
  relays : List RelayTarget
deriving DecidableEq, Repr

/-- The configuration of a controller. -/
structure Config where
  server : ServerConfig
  database : DatabaseConfig
  general : GeneralConfig
  limits : UsageLimits
  calculator : Option CalculatorConfig
  processors : ProcessorsConfig
  /-- The file it was read from. -/
  path : Option String
  /-- Whether a file of environment variables was read. -/
  envFileLoaded : Bool
deriving DecidableEq, Repr

/-- Why there is no configuration. -/
inductive ConfigError where
  | missing (path : String)
  | unreadable (path : String)
  | malformed (path : String)
  | invalidDuration (setting value : String)
  | invalidUrl (setting value : String) (cause : UrlError)
  | invalidLevelRange (min max : Int)
  | invalidRebuildHour (hour : Nat)
  | zeroDuration (setting : String)
  | malformedEnvFile (line : String) (index : Nat)
deriving DecidableEq, Repr

def ConfigError.message : ConfigError → String
  | .missing path => "configuration file missing: " ++ path
  | .unreadable path => "failed to read configuration " ++ path
  | .malformed path => "failed to parse configuration " ++ path
  | .invalidDuration setting value =>
    "invalid duration for " ++ setting ++ ": '" ++ value ++ "'"
  | .invalidUrl setting value _ => "invalid URL for " ++ setting ++ ": '" ++ value ++ "'"
  | .invalidLevelRange min max =>
    "min_account_level (" ++ toString min ++ ") is greater than max_account_level (" ++
      toString max ++ ")"
  | .invalidRebuildHour hour =>
    "quest_rebuild_hour must be between 0 and 23, got " ++ toString hour
  | .zeroDuration setting => setting ++ " must be greater than zero"
  | .malformedEnvFile line index =>
    "Error parsing line: '" ++ line ++ "', error at line index: " ++ toString index

/-- Something about a configuration that its reader should know, and what to do about it. -/
structure Warning where
  message : String
  hint : Option String
deriving DecidableEq, Repr

/-- The span of a duration, or five minutes if it is too long. -/
def unseenSpan (d : Duration) : Span := (Span.ofDuration? d).getD (.ofSeconds 300)

/-- The settings of the fleet. -/
def Config.settings (c : Config) : Settings where
  unseen := unseenSpan c.general.workerUnseen
  sweepInterval := c.general.recalcInterval.millis
  rebuildInterval := c.general.rebuildInterval.millis
  rebuildHour := c.general.rebuildHour
  minLevel := c.general.minLevel
  maxLevel := c.general.maxLevel
  limits := c.limits

/-- The address for raw reports at a processor. -/
def rawUrl (endpoint : Url) : String :=
  let base := dropSlashes endpoint.text
  if base.endsWith "/raw" then base else base ++ "/raw"

/-- All places that reports are sent on to; the processor's own comes first. -/
def Config.relayTargets (c : Config) : List RelayTarget :=
  (c.processors.endpoint.toList.map fun u => ⟨rawUrl u, c.processors.rawToken⟩) ++
    c.processors.relays

end ScanFleet
