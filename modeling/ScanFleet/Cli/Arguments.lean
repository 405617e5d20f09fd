import ScanFleet.Config.Layer

/-! The arguments of the program.  Options stand before the command; each takes a value and may be
given once.  A value is checked when the next option follows or the arguments end, so that a request
for help within a command comes before a bad value in front of it. -/

namespace ScanFleet.Cli

open Text

/-- What the program is told to do. -/
inductive Command where
  | serve
  /-- Set up the tables of the database. -/
  | migrate
deriving DecidableEq, Repr

/-- The values of the options. -/
structure Options where
  config : Option String
  envFile : Option String
  port : Option Nat
  host : Option String
deriving DecidableEq, Repr

/-- What the arguments ask for. -/
inductive Invocation where
  | run (command : Command) (options : Options)
  | help
  | misused
deriving DecidableEq, Repr

/-- The options. -/
inductive Flag where
  | config
  | envFile
  | port
  | host
deriving DecidableEq, Repr

def Flag.named? : String → Option Flag
  | "config" => some .config
  | "env-file" => some .envFile
  | "port" => some .port
  | "host" => some .host
  | _ => none

def Flag.lettered? : Char → Option Flag
  | 'c' => some .config
  | 'p' => some .port
  | _ => none

/-- The port in a value. -/
def port? (value : String) : Option Nat :=
  ((integer? value.toList).filter fun (n : Int) => 0 ≤ n && n ≤ maxU16).map Int.toNat

/-- A path, which is not empty. -/
def path? (value : String) : Option String := if value.isEmpty then none else some value

/-- The options with one more.  One that is there already, or whose value is bad, is refused. -/
def Options.add? (o : Options) (flag : Flag) (value : String) : Option Options :=
  match flag with
  | .config => if o.config.isSome then none else (path? value).map ({ o with config := some · })
  | .envFile => if o.envFile.isSome then none else (path? value).map ({ o with envFile := some · })
  | .port => if o.port.isSome then none else (port? value).map ({ o with port := some · })
  | .host => if o.host.isSome then none else some { o with host := some value }

/-- An option whose value has not been checked. -/
inductive Pending where
  | nothing
  /-- The value is to follow. -/
  | awaiting (flag : Flag)
  | given (flag : Flag) (value : String)
deriving DecidableEq, Repr

/-- The options after a check of what is pending. -/
def Options.settle (o : Options) : Pending → Option Options
  | .nothing => some o
  | .awaiting _ => none
  | .given flag value => o.add? flag value

/-- What one argument is. -/
inductive Argument where
  /-- Only values of the command follow. -/
  | endOfOptions
  | help
  | option (flag : Flag) (value : Option String)
  | unknown
  | plain
deriving DecidableEq, Repr

/-- The option in an argument that begins with two hyphens. -/
def longArgument (cs : List Char) : Argument :=
  if cs.isEmpty then .endOfOptions
  else if cs == "help".toList then .help
  else
    let (name, value) := match splitAt '=' cs with
      | some (name, value) => (name, some (String.ofList value))
      | none => (cs, none)
    match Flag.named? (String.ofList name) with
    | some flag => .option flag value
    | none => .unknown

/-- The value that follows the letter of an option in the same argument. -/
def attached? : List Char → Option String
  | [] => none
  | '=' :: value => some (String.ofList value)
  | value => some (String.ofList value)

def Argument.of (s : String) : Argument :=
  match s.toList with
  | '-' :: '-' :: cs => longArgument cs
  | '-' :: 'h' :: _ => .help
  | '-' :: c :: cs =>
    match Flag.lettered? c with
    | some flag => .option flag (attached? cs)
    | none => .unknown
  | _ => .plain

/-- Whether help can be had on a row of commands. -/
def canHelpOn (commands : List String) : Bool :=
  [[], ["help"], ["db"], ["db", "help"], ["db", "migrate"]].contains commands

/-- What follows the commands `db migrate`. -/
def readMigrate (args : List String) : Invocation :=
  match args with
  | [] => .run .migrate ⟨none, none, none, none⟩
  | arg :: rest =>
    match Argument.of arg with
    | .help => .help
    | .endOfOptions => if rest.isEmpty then .run .migrate ⟨none, none, none, none⟩ else .misused
    | _ => .misused

/-- What follows the command `db`. -/
def readDatabase (args : List String) : Invocation :=
  match args with
  | [] => .misused
  | "migrate" :: rest => readMigrate rest
  | "help" :: rest => if canHelpOn ("db" :: rest) then .help else .misused
  | arg :: _ => if Argument.of arg = .help then .help else .misused

/-- Runs a command once the options are settled. -/
def finish (o : Options) (p : Pending) (command : Command) : Invocation :=
  match o.settle p with
  | some o => .run command o
  | none => .misused

/-- What the arguments ask for, after options that are settled and one that is pending. -/
def readAfter (o : Options) (p : Pending) : List String → Invocation
  | [] => finish o p .serve
  | arg :: rest =>
    match Argument.of arg, p with
    | .endOfOptions, _ => if rest.isEmpty then finish o p .serve else .misused
    | .unknown, _ => .misused
    | .help, _ => if (o.settle p).isSome then .help else .misused
    | .option flag value, _ =>
      match o.settle p, value with
      | none, _ => .misused
      | some o, none => readAfter o (.awaiting flag) rest
      | some o, some value =>
        match o.add? flag value with
        | some o => readAfter o .nothing rest
        | none => .misused
    | .plain, .awaiting flag => readAfter o (.given flag arg) rest
    | .plain, _ =>
      if arg == "help" then if canHelpOn rest then .help else .misused
      else if arg == "db" then
        match readDatabase rest with
        | .run command _ => finish o p command
        | other => other
      else .misused

/-- The name of the variable that stands for the option of the configuration file. -/
def configVariable : String := "FLEET_CONFIG_PATH"

/-- What the arguments and the environment ask for. -/
def Invocation.read (env : Environment) (args : List String) : Invocation :=
  match readAfter ⟨none, none, none, none⟩ .nothing args with
  | .run command o =>
    match o.config, env.lookup configVariable with
    | none, some path =>
      match o.add? .config path with
      | some o => .run command o
      | none => .misused
    | _, _ => .run command o
  | other => other

end ScanFleet.Cli
