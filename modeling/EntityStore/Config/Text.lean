import EntityStore.Config.Basic
import EntityStore.Json.Tree

/-!
# Configuration as text

A configuration is a JSON record. Reading it leaves unknown entries aside and fills in defaults;
writing it names the entries in a fixed order and leaves out those that are unset.
-/

namespace EntityStore

/-! ## Names -/

def Dialect.ofName? (s : String) : Option Dialect :=
  [Dialect.mysql, .sqlite].find? (·.name == s)

/-- The strategy with a given name. -/
def Materializer.ofName? (s : String) : Option Materializer :=
  [Materializer.reflective, .positional].find? (·.name == s)

def BuiltinInterceptor.ofName? (s : String) : Option BuiltinInterceptor :=
  [BuiltinInterceptor.accessLog, .costTime].find? (·.name == s)

def Aggregate.ofName? (s : String) : Option Aggregate :=
  [Aggregate.sum, .avg, .count, .max, .min].find? (·.name == s)

def Direction.ofName? (s : String) : Option Direction :=
  [Direction.asc, .desc].find? (·.name == s)

theorem Dialect.ofName?_name (d : Dialect) : ofName? d.name = some d := by cases d <;> rfl

theorem Materializer.ofName?_name (m : Materializer) : ofName? m.name = some m := by
  cases m <;> rfl

theorem BuiltinInterceptor.ofName?_name (b : BuiltinInterceptor) : ofName? b.name = some b := by
  cases b <;> rfl

/-! ## Durations and dimensions -/

/-- Reads a duration from its unit text. -/
def Duration.ofJson? (j : Json) : Option Duration := j.text?.bind Duration.parse?

/-- Writes a duration as its unit text. -/
def Duration.toJsonText (d : Duration) : String := Json.quote d.text

/-- Reads a dimension. -/
def Dimension.ofJson? (j : Json) : Option Dimension :=
  match j.fields? ["base", "default_name", "is_sharding"] with
  | some [base, name, sharded] => do
    let base ← Json.withDefault? (Json.natBelow? UInt64.size) 1 base
    let name ← Json.required? Json.text? name
    let sharded ← Json.withDefault? Json.bool? false sharded
    some ⟨UInt64.ofNat base, name, sharded⟩
  | _ => none

def Dimension.toJsonText (d : Dimension) : String :=
  Json.objectText [("base", toString d.base.toNat), ("default_name", Json.quote d.defaultName),
    ("is_sharding", Json.boolText d.isSharding)]

/-! ## Targets -/

/-- Reads a target. -/
def Target.ofJson? (j : Json) : Option Target :=
  match j.fields? ["database", "table"] with
  | some [database, table] => do
    let database ← Json.required? Json.text? database
    let table ← Json.required? Json.text? table
    some ⟨database, table⟩
  | _ => none

def Target.toJsonText (t : Target) : String :=
  Json.objectText [("database", Json.quote t.database), ("table", Json.quote t.table)]

/-! ## Parts of a configuration -/

/-- Reads a placement scheme. -/
def PlacementConfig.ofJson? (j : Json) : Option PlacementConfig :=
  match j.fields? ["sharding_key", "database", "table"] with
  | some [key, database, table] => do
    let key ← Json.required? Json.text? key
    let database ← Json.required? Dimension.ofJson? database
    let table ← Json.required? Dimension.ofJson? table
    some ⟨key, database, table⟩
  | _ => none

/-- Writes a placement scheme. -/
def PlacementConfig.toJsonText (p : PlacementConfig) : String :=
  Json.objectText [("sharding_key", Json.quote p.key), ("database", p.database.toJsonText),
    ("table", p.table.toJsonText)]

/-- Reads the replicas. -/
def ReplicaConfig.ofJson? (j : Json) : Option ReplicaConfig :=
  match j.fields? ["dsn", "interval", "timeout"] with
  | some [dsn, interval, timeout] => do
    let dsn ← Json.required? Json.text? dsn
    let interval ← Json.withDefault? Duration.ofJson? Duration.second interval
    let timeout ← Json.withDefault? Duration.ofJson? Duration.second timeout
    some ⟨dsn, interval, timeout⟩
  | _ => none

def ReplicaConfig.toJsonText (r : ReplicaConfig) : String :=
  Json.objectText [("dsn", Json.quote r.dsn), ("interval", r.interval.toJsonText),
    ("timeout", r.timeout.toJsonText)]

/-! ## Configurations -/

namespace Config

/-- The entries of a configuration, in order. -/
def entries : List String :=
  ["connection", "dialect", "materializer", "default_timeout", "sharding", "replicas",
    "interceptors"]

/-- Reads a configuration. -/
def ofJson? (j : Json) : Option Config :=
  match j.fields? entries with
  | some [connection, dialect, materializer, timeout, placement, replicas, interceptors] => do
    let connection ← Json.required? Json.text? connection
    let dialect ← Json.withDefault? (Json.choice? Dialect.ofName?) .mysql dialect
    let materializer ←
      Json.withDefault? (Json.choice? Materializer.ofName?) .positional materializer
    let timeout ← Json.withDefault? (Json.optional? Duration.ofJson?) none timeout
    let placement ← Json.withDefault? (Json.optional? PlacementConfig.ofJson?) none placement
    let replicas ← Json.withDefault? (Json.optional? ReplicaConfig.ofJson?) none replicas
    let interceptors ←
      Json.withDefault? (Json.list? (Json.choice? BuiltinInterceptor.ofName?)) [] interceptors
    some ⟨connection, dialect, materializer, timeout, placement, replicas, interceptors⟩
  | _ => none

/-- Reads a configuration from text. -/
def parse? (s : String) : Option Config := (Json.parse? s).bind ofJson?

/-- An entry that is left out if it is unset. -/
def entryIfSet {α : Type} (name : String) (write : α → String) :
    Option α → List (String × String)
  | some v => [(name, write v)]
  | none => []

def toJsonText (c : Config) : String :=
  Json.objectText <|
    [("connection", Json.quote c.connection), ("dialect", Json.quote c.dialect.name),
      ("materializer", Json.quote c.materializer.name)] ++
    entryIfSet "default_timeout" Duration.toJsonText c.defaultTimeout ++
    entryIfSet "sharding" PlacementConfig.toJsonText c.placement ++
    entryIfSet "replicas" ReplicaConfig.toJsonText c.replicas ++
    [("interceptors", Json.arrayText (c.interceptors.map fun b => Json.quote b.name))]

end Config

end EntityStore
