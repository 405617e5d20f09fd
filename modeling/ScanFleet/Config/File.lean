import ScanFleet.Config.Layer
import ScanFleet.Data.Shape
import ScanFleet.Toml.Reader

/-! The configuration file.  Its sections may be left out, and settings that are not known are
skipped. -/

namespace ScanFleet

open Text Data

/-- What a configuration file gives: settings, and ceilings by a text that should be a number. -/
structure FileConfig where
  layer : Layer
  ceilings : List (String × Nat)
deriving DecidableEq, Repr

namespace FileConfig

def empty : FileConfig := ⟨{ Layer.empty with relays := some [] }, []⟩

def integer : Shape Int := Shape.int minI32 maxI32

def serverMembers : List Member :=
  [optional "host" Shape.text, optional "port" (Shape.nat maxU16)]

def databaseMembers : List Member :=
  [optional "url" Shape.text, optional "max_connections" (Shape.nat maxU32)]

def generalMembers : List Member :=
  [optional "debug_log" Shape.bool, optional "api_secret" Shape.text,
    optional "bearer_token" Shape.text, optional "worker_unseen" Shape.text,
    optional "route_recalc_interval" Shape.text, optional "quest_rebuild_interval" Shape.text,
    optional "quest_rebuild_hour" (Shape.nat maxU32), optional "min_account_level" integer,
    optional "max_account_level" integer]

def calculatorMembers : List Member :=
  [optional "url" Shape.text, optional "bearer_token" Shape.text]

def processorMembers : List Member :=
  [optional "golbat_endpoint" Shape.text, optional "golbat_raw_bearer" Shape.text,
    optional "golbat_api_secret" Shape.text, defaulted "raw_endpoints" (Shape.listOf Shape.text)]

/-- Ceilings by name, the last one of a name counting. -/
def ceilingShape : Shape (List (String × Nat))
  | .record members => members.mapM fun (name, d) => (Shape.nat maxU64 d).map (name, ·)
  | d => .error (misfit d)

/-- A list of items that are in ascending order of their names, with one put in its place. -/
def insertNamed (name : String) (n : Nat) : List (String × Nat) → List (String × Nat)
  | [] => [(name, n)]
  | (k, m) :: rest =>
    if name < k then (name, n) :: (k, m) :: rest
    else if name = k then (name, n) :: rest
    else (k, m) :: insertNamed name n rest

/-- The sections of the file.  `lax` says whether a section that is a list may be too long. -/
def sections (lax : Bool) : List Member :=
  let section_ (members : List Member) : Shape (List (String × Data)) := readRecord ⟨members, lax⟩
  [defaulted "server" (section_ serverMembers), defaulted "database" (section_ databaseMembers),
    defaulted "general" (section_ generalMembers), defaulted "usage_limits" ceilingShape,
    optional "koji" (section_ calculatorMembers),
    defaulted "processors" (section_ processorMembers)]

/-- The settings in a file. -/
def shape (lax : Bool) : Shape FileConfig := fun d => do
  let found ← readRecord ⟨sections lax, lax⟩ d
  let part (name : String) (members : List Member) : List (String × Data) :=
    (found? found name (readRecord ⟨members, lax⟩)).getD []
  let server := part "server" serverMembers
  let database := part "database" databaseMembers
  let general := part "general" generalMembers
  let calculator := part "koji" calculatorMembers
  let processors := part "processors" processorMembers
  return {
    layer := {
      host := found? server "host" Shape.text
      port := found? server "port" (Shape.nat maxU16)
      databaseUrl := found? database "url" Shape.text
      maxConnections := found? database "max_connections" (Shape.nat maxU32)
      debugLog := found? general "debug_log" Shape.bool
      apiSecret := found? general "api_secret" Shape.text
      bearerToken := found? general "bearer_token" Shape.text
      workerUnseen := found? general "worker_unseen" Shape.text
      recalcInterval := found? general "route_recalc_interval" Shape.text
      rebuildInterval := found? general "quest_rebuild_interval" Shape.text
      rebuildHour := found? general "quest_rebuild_hour" (Shape.nat maxU32)
      minLevel := found? general "min_account_level" integer
      maxLevel := found? general "max_account_level" integer
      calculatorUrl := found? calculator "url" Shape.text
      calculatorToken := found? calculator "bearer_token" Shape.text
      processorUrl := found? processors "golbat_endpoint" Shape.text
      rawToken := found? processors "golbat_raw_bearer" Shape.text
      processorSecret := found? processors "golbat_api_secret" Shape.text
      relays := some ((found? processors "raw_endpoints" (Shape.listOf Shape.text)).getD []) }
    ceilings := ((found? found "usage_limits" ceilingShape).getD []).foldl
      (fun acc (name, n) => insertNamed name n acc) [] }

/-- The settings in the text of a file. -/
def read? (s : String) : Option FileConfig :=
  (Toml.read? s).bind fun d => (shape true d).toOption

end FileConfig

end ScanFleet
