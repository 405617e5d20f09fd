import ScanFleet.Config.Compose
import ScanFleet.Config.EnvFile
import ScanFleet.Config.FileTree

/-! Loading a configuration from the files of a directory.  The file may be named by the caller or
by the environment, and is looked for at the usual places if it is not. -/

namespace ScanFleet

/-- Where a configuration file is looked for. -/
def usualPaths : List String := ["fleet.toml", "config/fleet.toml", "config.toml"]

/-- The configuration file, if there is one, and its path. -/
def findFile (files : FileTree) (env : Environment) (path : Option String) :
    Except ConfigError (Option (FileConfig × String)) :=
  let read (path : String) : Except ConfigError (Option (FileConfig × String)) :=
    match files.find path with
    | .absent => .error (.missing path)
    | .directory => .error (.unreadable path)
    | .text s =>
      match FileConfig.read? s with
      | some file => .ok (some (file, path))
      | none => .error (.malformed path)
  match path <|> env.configPath? with
  | some path => read path
  | none =>
    match usualPaths.find? (files.find · ≠ .absent) with
    | some path => read path
    | none => .ok none

/-- The configuration from the files of a directory and an environment. -/
def loadConfig (files : FileTree) (env : Environment) (path : Option String) :
    Except ConfigError (Config × List Warning) :=
  match findFile files env path with
  | .error e => .error e
  | .ok none => compose none env none
  | .ok (some (file, path)) => compose (some file) env (some path)

/-- The environment with the variables of a file, and whether there was such a file. -/
def withEnvFile (files : FileTree) (env : Environment) (path : Option String) :
    Except ConfigError (Environment × Bool) :=
  match files.find (path.getD ".env") with
  | .text s =>
    match EnvFile.load env s with
    | .ok env => .ok (env, true)
    | .error e => .error (.malformedEnvFile e.line e.index)
  | _ => .ok (env, false)

/-- The configuration from the files of a directory and an environment, to which a file of variables
is added first. -/
def loadWithEnvFile (files : FileTree) (env : Environment) (path envFile : Option String) :
    Except ConfigError (Config × List Warning) :=
  match withEnvFile files env envFile with
  | .error e => .error e
  | .ok (env, loaded) =>
    (loadConfig files env path).map fun (c, warnings) =>
      ({ c with envFileLoaded := loaded }, warnings)

end ScanFleet
