import EntityStore.Config.Text
import EntityStore.Network.Dsn
import EntityStore.Session.Describe

/-!
# The command line

The program loads a configuration and shows what it does: whether it is valid, where a key is placed,
which targets there are, which replicas a domain has. Arguments are looked at first, then the
configuration is read and checked, and then the command runs.
-/

namespace EntityStore.Cli

/-- What the program can be asked for. -/
inductive Command where
  /-- Show the configuration. -/
  | check
  /-- Show the target of a key. -/
  | route (value : Int64)
  /-- Show all targets. -/
  | broadcast
  /-- Show the replicas. -/
  | replicas
deriving DecidableEq

/-- What can go wrong after the arguments have been read. -/
inductive Failure where
  /-- The configuration cannot be read as a text of the right form. -/
  | unreadable
  /-- An error of the library. -/
  | error (e : Error)
  /-- No placement scheme is configured. -/
  | noScheme
  /-- No replicas are configured. -/
  | noReplicas
deriving DecidableEq

def Failure.message : Failure → String
  | unreadable => (Error.config (.load "not a configuration")).message
  | error e => e.message
  | noScheme => "no sharding scheme configured"
  | noReplicas => "no replicas configured"

/-- How a run ended. -/
inductive Result where
  /-- The arguments make no sense. -/
  | usage
  /-- Something went wrong. -/
  | failed (f : Failure)
  | printed (lines : List String)

/-! ## Arguments -/

/-- The options in front of a command, and what follows them. -/
structure Invocation where
  /-- The path of the configuration. -/
  config : Option String := none
  /-- How much is to be logged. -/
  logLevel : Option String := none
  /-- The command and its arguments. -/
  rest : List String := []
deriving DecidableEq, Inhabited

/-- The value behind the name of an option and an equals sign. -/
def valueAfter? (name arg : String) : Option String :=
  let start := (name ++ "=").toList
  if start.isPrefixOf arg.toList then some (String.ofList (arg.toList.drop start.length)) else none

/-- Takes the path of the configuration, which is given at most once. -/
def Invocation.withConfig? (i : Invocation) (path : String) : Option Invocation :=
  if i.config.isSome then none else some { i with config := some path }

/-- Takes how much is to be logged, which is given at most once. -/
def Invocation.withLevel? (i : Invocation) (level : String) : Option Invocation :=
  if i.logLevel.isSome then none else some { i with logLevel := some level }

/-- Reads the options in front of a command, each of which stands in one argument or in two. -/
def Invocation.of? (i : Invocation) : List String → Option Invocation
  | [] => some i
  | [arg] => ofWord? i arg
  | arg :: value :: rest =>
    if arg == "--config" || arg == "-c" then (i.withConfig? value).bind (·.of? rest)
    else if arg == "--log-level" then (i.withLevel? value).bind (·.of? rest)
    else if isOption arg then (ofWord? i arg).bind (·.of? (value :: rest))
    else some { i with rest := arg :: value :: rest }
where
  /-- Whether an argument is an option together with its value. -/
  isOption (arg : String) : Bool :=
    (valueAfter? "--config" arg).isSome || (valueAfter? "--log-level" arg).isSome
  /-- Reads an option that stands in one argument; any other argument begins the command. -/
  ofWord? (i : Invocation) (arg : String) : Option Invocation :=
    match valueAfter? "--config" arg, valueAfter? "--log-level" arg with
    | some path, _ => i.withConfig? path
    | none, some level => i.withLevel? level
    | none, none => some { i with rest := [arg] }

/-- The positional arguments; one that begins with a dash has to follow `--`. -/
def positionals? : List String → Option (List String)
  | [] => some []
  | "--" :: rest => some rest
  | a :: rest =>
    if a.startsWith "-" && a != "-" then none else (positionals? rest).map (a :: ·)

/-- The command of some arguments. -/
def command? : List String → Option Command
  | name :: rest =>
    match positionals? rest with
    | none => none
    | some args =>
      match name, args with
      | "check", [] => some .check
      | "broadcast", [] => some .broadcast
      | "replicas", [] => some .replicas
      | "route", [value] => (Number.readInt64? value.toList).map .route
      | _, _ => none
  | [] => none

/-! ## Commands -/

/-- The lines that show a configuration. -/
def checkLines (c : Config) : List String :=
  ["connection:   " ++ c.connection,
    "dialect:      " ++ Describe.dialect c.dialect,
    "materializer: " ++ Describe.materializer c.materializer] ++
  (match c.defaultTimeout with
    | some d => ["timeout:      " ++ d.display]
    | none => []) ++
  [match c.placement with
    | some p => "sharding:     " ++ p.key ++ " over " ++ toString p.database.count ++ " x " ++
        toString p.table.count
    | none => "sharding:     off",
   match c.replicas with
    | some r => "replicas:     " ++ r.dsn
    | none => "replicas:     off",
   "interceptors: " ++ Describe.list (c.interceptors.map BuiltinInterceptor.display)]

/-- The placement scheme of a configuration. -/
def scheme (c : Config) : Except Failure HashScheme :=
  match c.placement with
  | none => .error .noScheme
  | some p => p.scheme.mapError fun e => .error (.config e)

/-- The lines that show the replicas, given how domains are resolved. -/
def replicaLines (resolve : String → UInt16 → Except Error (List IpAddr)) (c : Config) :
    Except Failure (List String) :=
  match c.replicas with
  | none => .error .noReplicas
  | some r =>
    match Dsn.parse r.dsn with
    | .error e => .error (.error e)
    | .ok dsn =>
      match resolve dsn.host dsn.port with
      | .error e => .error (.error e)
      | .ok ips => .ok (ips.map fun a => (dsn.withAddress a).text)

/-- The lines that a command prints. -/
def lines (resolve : String → UInt16 → Except Error (List IpAddr)) (c : Config) :
    Command → Except Failure (List String)
  | .check => .ok (checkLines c)
  | .route v => (scheme c).map fun s => (s.targets .eq v).map Target.text
  | .broadcast => (scheme c).map fun s => s.broadcast.map Target.text
  | .replicas => replicaLines resolve c

/-- Runs a command on the text of a configuration file, or on why there is none. -/
def runCommand (resolve : String → UInt16 → Except Error (List IpAddr))
    (source : Except String String) (command : Command) : Except Failure (List String) :=
  match source with
  | .error reason => .error (.error (.config (.load reason)))
  | .ok text =>
    match Config.parse? text with
    | none => .error .unreadable
    | some c =>
      match c.validate with
      | .error e => .error (.error (.config e))
      | .ok () => lines resolve c command

/-- Runs the program. -/
def run (resolve : String → UInt16 → Except Error (List IpAddr)) (source : Except String String)
    (args : List String) : Result :=
  match command? args with
  | none => .usage
  | some command =>
    match runCommand resolve source command with
    | .ok lines => .printed lines
    | .error f => .failed f

namespace Result

/-- The exit code of a run. -/
def exitCode : Result → Nat
  | usage => 2
  | failed _ => 1
  | printed _ => 0

/-- What a run prints. -/
def stdout : Result → String
  | printed lines => String.join (lines.map (· ++ "\n"))
  | _ => ""

/-- What a run reports. -/
def stderr : Result → String
  | failed f => "Error: " ++ f.message ++ "\n"
  | _ => ""

end Result

end EntityStore.Cli
