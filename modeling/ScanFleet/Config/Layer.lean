import ScanFleet.Text.Blank
import ScanFleet.Text.Numeral

/-! Layers of a configuration: the settings that one source gives.  The environment is one source
and a file another; a setting of the first layer that has it counts. -/

namespace ScanFleet

open Text

/-- The settings of one source.  Durations and URLs are texts here. -/
structure Layer where
  host : Option String
  port : Option Nat
  databaseUrl : Option String
  maxConnections : Option Nat
  debugLog : Option Bool
  apiSecret : Option String
  bearerToken : Option String
  workerUnseen : Option String
  recalcInterval : Option String
  rebuildInterval : Option String
  rebuildHour : Option Nat
  minLevel : Option Int
  maxLevel : Option Int
  calculatorUrl : Option String
  calculatorToken : Option String
  processorUrl : Option String
  rawToken : Option String
  processorSecret : Option String
  relays : Option (List String)
deriving DecidableEq, Repr

/-- The layer that gives nothing. -/
def Layer.empty : Layer :=
  ⟨none, none, none, none, none, none, none, none, none, none, none, none, none, none, none, none,
    none, none, none⟩

/-- The settings of a layer, and of another one where the first gives none. -/
def Layer.over (a b : Layer) : Layer where
  host := a.host <|> b.host
  port := a.port <|> b.port
  databaseUrl := a.databaseUrl <|> b.databaseUrl
  maxConnections := a.maxConnections <|> b.maxConnections
  debugLog := a.debugLog <|> b.debugLog
  apiSecret := a.apiSecret <|> b.apiSecret
  bearerToken := a.bearerToken <|> b.bearerToken
  workerUnseen := a.workerUnseen <|> b.workerUnseen
  recalcInterval := a.recalcInterval <|> b.recalcInterval
  rebuildInterval := a.rebuildInterval <|> b.rebuildInterval
  rebuildHour := a.rebuildHour <|> b.rebuildHour
  minLevel := a.minLevel <|> b.minLevel
  maxLevel := a.maxLevel <|> b.maxLevel
  calculatorUrl := a.calculatorUrl <|> b.calculatorUrl
  calculatorToken := a.calculatorToken <|> b.calculatorToken
  processorUrl := a.processorUrl <|> b.processorUrl
  rawToken := a.rawToken <|> b.rawToken
  processorSecret := a.processorSecret <|> b.processorSecret
  relays := a.relays <|> b.relays

/-- The variables of an environment, by name. -/
abbrev Environment := List (String × String)

/-- The value of a variable, unless it is blank. -/
def Environment.get? (env : Environment) (name : String) : Option String :=
  (env.lookup name).filter (! ·.toList.all isBlank)

/-- The number in a variable; one that is out of range or no number counts as not given. -/
def Environment.number? (env : Environment) (name : String) (lo hi : Int) : Option Int :=
  (env.get? name).bind fun s => bounded? lo hi (trim s)

def Environment.natural? (env : Environment) (name : String) (hi : Nat) : Option Nat :=
  (env.number? name 0 hi).map Int.toNat

/-- A truth value as people write it. -/
def truth? (s : String) : Option Bool :=
  let word := asciiLower (trim s)
  if ["1", "true", "yes", "on"].contains word then some true
  else if ["0", "false", "no", "off"].contains word then some false
  else none

/-- The texts between commas without the blanks around them, empty ones left out. -/
def listed (s : String) : List String := ((commaFields s).map trim).filter (· != "")

/-- The file that the environment names. -/
def Environment.configPath? (env : Environment) : Option String := env.get? "FLEET_CONFIG_PATH"

/-- The variables that give settings. -/
def Environment.names : List String :=
  ["FLEET_CONFIG_PATH", "FLEET_HOST", "FLEET_PORT", "DATABASE_URL", "DATABASE_MAX_CONNECTIONS",
    "FLEET_DEBUG_LOG", "FLEET_API_SECRET", "FLEET_BEARER_TOKEN", "FLEET_WORKER_UNSEEN",
    "FLEET_ROUTE_RECALC_INTERVAL", "FLEET_QUEST_REBUILD_INTERVAL", "FLEET_QUEST_REBUILD_HOUR",
    "FLEET_MIN_ACCOUNT_LEVEL", "FLEET_MAX_ACCOUNT_LEVEL", "FLEET_KOJI_URL",
    "FLEET_KOJI_BEARER_TOKEN", "FLEET_GOLBAT_ENDPOINT", "FLEET_GOLBAT_RAW_BEARER",
    "FLEET_GOLBAT_API_SECRET", "FLEET_RAW_ENDPOINTS"]

/-- The settings that the environment gives. -/
def Layer.ofEnvironment (env : Environment) : Layer where
  host := env.get? "FLEET_HOST"
  port := env.natural? "FLEET_PORT" maxU16
  databaseUrl := env.get? "DATABASE_URL"
  maxConnections := env.natural? "DATABASE_MAX_CONNECTIONS" maxU32
  debugLog := (env.get? "FLEET_DEBUG_LOG").bind truth?
  apiSecret := env.get? "FLEET_API_SECRET"
  bearerToken := env.get? "FLEET_BEARER_TOKEN"
  workerUnseen := env.get? "FLEET_WORKER_UNSEEN"
  recalcInterval := env.get? "FLEET_ROUTE_RECALC_INTERVAL"
  rebuildInterval := env.get? "FLEET_QUEST_REBUILD_INTERVAL"
  rebuildHour := env.natural? "FLEET_QUEST_REBUILD_HOUR" maxU32
  minLevel := env.number? "FLEET_MIN_ACCOUNT_LEVEL" minI32 maxI32
  maxLevel := env.number? "FLEET_MAX_ACCOUNT_LEVEL" minI32 maxI32
  calculatorUrl := env.get? "FLEET_KOJI_URL"
  calculatorToken := env.get? "FLEET_KOJI_BEARER_TOKEN"
  processorUrl := env.get? "FLEET_GOLBAT_ENDPOINT"
  rawToken := env.get? "FLEET_GOLBAT_RAW_BEARER"
  processorSecret := env.get? "FLEET_GOLBAT_API_SECRET"
  relays := (env.get? "FLEET_RAW_ENDPOINTS").map listed

end ScanFleet
