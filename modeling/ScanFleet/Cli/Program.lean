import ScanFleet.Cli.Arguments
import ScanFleet.Config.Load
import ScanFleet.Fleet.Reload
import ScanFleet.Store.Connection

/-! The program up to the point where it talks to the outside: from arguments, environment and files
to a command with its configuration and a connection to the database, or to the way it ends. -/

namespace ScanFleet.Cli

open Text

/-- How the program ends. -/
inductive Ending where
  | finished
  /-- A step failed, perhaps for a reason that it gives. -/
  | failed (step : String) (cause : Option String)
  | misused
deriving DecidableEq, Repr

/-- The exit code. -/
def Ending.code : Ending → Nat
  | .finished => 0
  | .failed .. => 1
  | .misused => 2

/-- What is said about a failure. -/
def Ending.report : Ending → String
  | .failed step none => "Error: " ++ step
  | .failed step (some cause) => "Error: " ++ step ++ "\n\nCaused by:\n    " ++ cause
  | _ => ""

/-- The configuration with what the options say about the server. -/
def Options.apply (o : Options) (c : Config) : Config :=
  { c with server := ⟨o.host.getD c.server.host, o.port.getD c.server.port⟩ }

/-- The configuration that the options, the environment and the files give. -/
def Options.configure (o : Options) (env : Environment) (files : FileTree) :
    Except Ending (Config × List Warning) :=
  match loadWithEnvFile files env o.config o.envFile with
  | .error e => .error (.failed "failed to load configuration" (some e.message))
  | .ok (c, warnings) => .ok (o.apply c, warnings)

/-- The connection to the database of a configuration. -/
def Config.connection {κ : Type} (dial : Url → Except String κ) (c : Config) : Except Ending κ :=
  match c.database.url with
  | none =>
    .error (.failed "DATABASE_URL must be provided for PostgreSQL connections" none)
  | some url =>
    match connect dial url c.database.maxConnections with
    | .error e => .error (.failed "failed to connect to PostgreSQL" (some e.message))
    | .ok connection => .ok connection

/-- The paths on the way along another one, which comes last. -/
def pathsAlong (path : String) : List String :=
  let names := Place.names path
  (List.range names.length).map fun i => "/".intercalate (names.take (i + 1))

/-- The files that may be asked for before the file of variables has been read. -/
def Options.paths (o : Options) : List String :=
  (o.envFile.getD ".env" :: o.config.toList ++ usualPaths).flatMap pathsAlong

/-- The file that the environment, or the file of variables, names as the configuration. -/
def Options.namedPath? (o : Options) (env : Environment) (files : FileTree) : Option String :=
  match withEnvFile files env o.envFile with
  | .ok (env, _) => env.configPath?
  | .error _ => none

/-- A command with what it needs. -/
structure Task (κ : Type) where
  command : Command
  config : Config
  warnings : List Warning
  connection : κ

/-- The task that the arguments, the environment and the files set, or the end if there is none. -/
def Task.prepare {κ : Type} (dial : Url → Except String κ) (args : List String)
    (env : Environment) (files : FileTree) : Except Ending (Task κ) :=
  match Invocation.read env args with
  | .help => .error .finished
  | .misused => .error .misused
  | .run command options =>
    match options.configure env files with
    | .error ending => .error ending
    | .ok (config, warnings) =>
      match Config.connection dial config with
      | .error ending => .error ending
      | .ok connection => .ok ⟨command, config, warnings, connection⟩

/-- The fleet of a configuration with what its store holds. -/
def loadFleet {σ : Type} [Store σ] (c : Config) (store : σ) (now : Instant) :
    Except Ending (Fleet σ) :=
  match (Fleet.new c.settings store).bootstrap now with
  | (.ok _, f) => .ok f
  | (.error e, _) => .error (.failed "failed to bootstrap fleet state" (some e.message))

/-- How the program is used. -/
def usage : String :=
  "Usage: scanfleet [OPTIONS] [COMMAND]\n\n" ++
  "Commands:\n  db migrate  Apply database migrations and exit\n\n" ++
  "Options:\n" ++
  "  -c, --config <CONFIG>      Path to the TOML configuration file\n" ++
  "      --env-file <ENV_FILE>  Path to a .env file loaded before reading the environment\n" ++
  "  -p, --port <PORT>          Server port (overrides config)\n" ++
  "      --host <HOST>          Server host (overrides config)\n" ++
  "  -h, --help                 Print help"

end ScanFleet.Cli
