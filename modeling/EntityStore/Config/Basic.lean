import EntityStore.Model.Materializer
import EntityStore.Placement.Scheme
import EntityStore.Statement.Dialect
import EntityStore.Text.Blank
import EntityStore.Time.Duration

/-!
# Configuration

What a database is opened with: the primary connection, the dialect, how rows become records, a default
deadline, a placement scheme, replicas and built-in interceptors. A configuration may hold wrong
entries; `Config.problems` lists them all, in the order of the entries.
-/

namespace EntityStore

/-- The interceptors that a configuration can name. -/
inductive BuiltinInterceptor where
  /-- Notes each statement before it runs. -/
  | accessLog
  /-- Notes each statement after it ran. -/
  | costTime
deriving DecidableEq, Repr

/-- The name of a built-in interceptor in a configuration. -/
def BuiltinInterceptor.name : BuiltinInterceptor → String
  | accessLog => "access_log"
  | costTime => "cost_time"

/-- The name of a built-in interceptor in descriptions. -/
def BuiltinInterceptor.display : BuiltinInterceptor → String
  | accessLog => "AccessLog"
  | costTime => "CostTime"

/-- A placement scheme as it is configured. -/
structure PlacementConfig where
  /-- The field the rows are split by. -/
  key : String
  database : Dimension
  /-- The tables of a database. -/
  table : Dimension
deriving DecidableEq, Inhabited

def PlacementConfig.scheme (p : PlacementConfig) : Except ConfigError HashScheme :=
  HashScheme.make p.key p.database p.table

/-- Replica discovery as it is configured. -/
structure ReplicaConfig where
  /-- The data source name whose host stands for all replicas. -/
  dsn : String
  /-- The time between two refreshes. -/
  interval : Duration := Duration.second
  /-- The deadline of one resolution. -/
  timeout : Duration := Duration.second
deriving DecidableEq, Inhabited

/-- What a database is opened with. -/
structure Config where
  /-- The data source name of the primary. -/
  connection : String
  /-- The dialect of its statements. -/
  dialect : Dialect := .mysql
  /-- How rows become records. -/
  materializer : Materializer := .positional
  /-- The deadline of calls that set none. -/
  defaultTimeout : Option Duration := none
  /-- The placement scheme. -/
  placement : Option PlacementConfig := none
  replicas : Option ReplicaConfig := none
  /-- The interceptors, outermost first. -/
  interceptors : List BuiltinInterceptor := []
deriving DecidableEq, Inhabited

namespace Config

def isBlankText (s : String) : Bool := (Text.trim s.toList).isEmpty

/-- A problem if a condition holds. -/
def problemIf (b : Bool) (key message : String) : List ConfigProblem :=
  if b then [⟨key, message⟩] else []

/-- What is wrong with a dimension. -/
def dimensionProblems (name : String) (d : Dimension) : List ConfigProblem :=
  problemIf (d.defaultName == "") ("sharding." ++ name ++ ".default_name") "name is empty" ++
    if d.Valid then [] else [HashScheme.baseProblem name]

/-- What is wrong with a placement scheme. -/
def placementProblems (p : PlacementConfig) : List ConfigProblem :=
  (if p.key = "" then [HashScheme.keyProblem] else []) ++
    dimensionProblems "database" p.database ++ dimensionProblems "table" p.table

/-- What is wrong with the replicas. -/
def replicaProblems (r : ReplicaConfig) : List ConfigProblem :=
  problemIf (isBlankText r.dsn) "replicas.dsn" "connection string is empty" ++
    problemIf r.interval.isZero "replicas.interval" "must be positive" ++
    problemIf r.timeout.isZero "replicas.timeout" "must be positive"

/-- Everything that is wrong with a configuration. -/
def problems (c : Config) : List ConfigProblem :=
  problemIf (isBlankText c.connection) "connection" "connection string is empty" ++
    problemIf (c.defaultTimeout == some Duration.zero) "default_timeout" "must be positive" ++
    (match c.placement with
      | some p => placementProblems p
      | none => []) ++
    (match c.replicas with
      | some r => replicaProblems r
      | none => [])

/-- Refuses a configuration with wrong entries. -/
def validate (c : Config) : Except ConfigError Unit :=
  match c.problems with
  | [] => .ok ()
  | [p] => .error (.invalid p)
  | ps => .error (.multiple ps)

theorem validate_eq_ok_iff {c : Config} : c.validate = .ok () ↔ c.problems = [] := by
  unfold validate
  split <;> simp_all

end Config

end EntityStore
