import ScanFleet.Config.Basic
import ScanFleet.Config.File

/-! Composing a configuration: the environment over the file over the defaults.  What was set is
read, checked, and commented on with warnings. -/

namespace ScanFleet

open Text

/-- The duration of a setting. -/
def readDuration (setting : String) (value : Option String) (default : Nat) :
    Except ConfigError Duration :=
  match value with
  | none => .ok (.ofSeconds default)
  | some s =>
    match Duration.read? (trim s) with
    | some d => .ok d
    | none => .error (.invalidDuration setting s)

/-- The URL of a setting. -/
def readUrl (setting : String) (value : Option String) : Except ConfigError (Option Url) :=
  match value with
  | none => .ok none
  | some s =>
    match Url.read (String.ofList (trimBy isBlank s.toList)) with
    | .ok u => .ok (some u)
    | .error e => .error (.invalidUrl setting s e)

/-- The relay targets of a setting. -/
def readRelays : List String → Except ConfigError (List RelayTarget)
  | [] => .ok []
  | s :: rest =>
    match RelayTarget.read s with
    | .error e => .error (.invalidUrl "processors.raw_endpoints" s e)
    | .ok t => (readRelays rest).map (t :: ·)

/-- The ceilings by kind of message, and warnings of those whose kind is no number. -/
def readCeilings (ceilings : List (String × Nat)) : UsageLimits × List Warning :=
  let kind? (name : String) : Option MessageType := (bounded? 0 maxU32 (trim name)).map Int.toNat
  (.ofList (ceilings.filterMap fun (name, n) => (kind? name).map (·, n)),
    (ceilings.filter fun (name, _) => (kind? name).isNone).map fun (name, _) =>
      ⟨"Ignoring usage limit for '" ++ name ++ "': message types are numeric", none⟩)

/-- What stands in the way of a configuration. -/
def GeneralConfig.check (g : GeneralConfig) : Except ConfigError Unit :=
  if g.maxLevel < g.minLevel then .error (.invalidLevelRange g.minLevel g.maxLevel)
  else if 23 < g.rebuildHour then .error (.invalidRebuildHour g.rebuildHour)
  else if g.workerUnseen.isZero then .error (.zeroDuration "worker_unseen")
  else if g.recalcInterval.isZero then .error (.zeroDuration "route_recalc_interval")
  else if g.rebuildInterval.isZero then .error (.zeroDuration "quest_rebuild_interval")
  else .ok ()

/-- A warning where a condition holds. -/
def warnIf (condition : Bool) (message : String) (hint : Option String) : List Warning :=
  if condition then [⟨message, hint⟩] else []

/-- What a configuration leaves open. -/
def Config.warnings (c : Config) : List Warning :=
  warnIf c.general.bearerToken.isNone
    "No device bearer token configured; controller and raw endpoints accept any caller"
    (some "Set general.bearer_token or FLEET_BEARER_TOKEN") ++
  warnIf c.general.apiSecret.isNone
    "No API secret configured; operator endpoints are unauthenticated"
    (some "Set general.api_secret or FLEET_API_SECRET") ++
  warnIf c.calculator.isNone
    "No route calculator configured; quest routes cannot be computed"
    (some "Add a [koji] section with url and bearer_token") ++
  warnIf c.processors.endpoint.isNone
    "No data processor endpoint configured; quest state will not be cleared" none ++
  warnIf (c.processors.endpoint.isSome && c.processors.secret.isNone)
    "Data processor endpoint configured without golbat_api_secret" none ++
  warnIf c.limits.isUnlimited
    "No usage limits configured; accounts are never disabled for overuse" none

/-- The warning of a configuration without a file. -/
def noFileWarning : Warning where
  message := "No fleet.toml detected; falling back to environment variables"
  hint := some "Pass --config or set FLEET_CONFIG_PATH to load a configuration file"

/-- The fleet's settings and secrets in a layer.  Its durations are read in the order in which they
are listed. -/
def GeneralConfig.ofLayer (l : Layer) : Except ConfigError GeneralConfig :=
  match readDuration "worker_unseen" l.workerUnseen 300 with
  | .error e => .error e
  | .ok workerUnseen =>
    match readDuration "route_recalc_interval" l.recalcInterval 300 with
    | .error e => .error e
    | .ok recalcInterval =>
      match readDuration "quest_rebuild_interval" l.rebuildInterval 3600 with
      | .error e => .error e
      | .ok rebuildInterval =>
        .ok {
          debugLog := l.debugLog.getD false
          apiSecret := l.apiSecret
          bearerToken := l.bearerToken
          workerUnseen
          recalcInterval
          rebuildInterval
          rebuildHour := l.rebuildHour.getD 23
          minLevel := l.minLevel.getD 30
          maxLevel := l.maxLevel.getD 40 }

/-- The configuration that a layer gives, before it is checked. -/
def Config.ofLayer (l : Layer) (limits : UsageLimits) (path : Option String) :
    Except ConfigError Config :=
  match GeneralConfig.ofLayer l with
  | .error e => .error e
  | .ok general =>
    match readUrl "koji.url" l.calculatorUrl with
    | .error e => .error e
    | .ok calculator =>
      match readUrl "processors.golbat_endpoint" l.processorUrl with
      | .error e => .error e
      | .ok endpoint =>
        match readRelays (l.relays.getD []) with
        | .error e => .error e
        | .ok relays =>
          .ok {
            server := ⟨l.host.getD "0.0.0.0", l.port.getD 9002⟩
            database := ⟨l.databaseUrl, l.maxConnections.getD 10⟩
            general
            limits
            calculator := calculator.map (⟨·, l.calculatorToken⟩)
            processors := ⟨endpoint, l.rawToken, l.processorSecret, relays⟩
            path
            envFileLoaded := false }

/-- The configuration from a file, if there is one, and an environment. -/
def compose (file : Option FileConfig) (env : Environment) (path : Option String) :
    Except ConfigError (Config × List Warning) :=
  let given := file.getD .empty
  let (limits, ignored) := readCeilings given.ceilings
  match Config.ofLayer ((Layer.ofEnvironment env).over given.layer) limits path with
  | .error e => .error e
  | .ok config =>
    match config.general.check with
    | .error e => .error e
    | .ok _ =>
      .ok (config, (if file.isNone then [noFileWarning] else []) ++ ignored ++ config.warnings)

end ScanFleet
