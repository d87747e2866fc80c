import EntityStore.Session.Timeline
import EntityStore.Sqlite.PoolConfig

/-!
# Descriptions

One-line descriptions of databases, selectors, transactions and connections for a reader: the name of
the type and the fields between braces, with text in quotes; `..` stands for what is not shown.
-/

namespace EntityStore.Describe

def dialect : Dialect → String
  | .mysql => "Mysql"
  | .sqlite => "Sqlite"

/-- A strategy of materializing. -/
def materializer : Materializer → String
  | .reflective => "Reflective"
  | .positional => "Positional"

variable {β : Type}

/-- The settings of a database. -/
def core (c : Core β) : String :=
  partialStruct "Core" [("dialect", Text.quoted c.dialect.name),
    ("materializer", materializer c.materializer),
    ("interceptors", list (c.interceptors.map (·.display))),
    ("sharding", option (·.display) c.scheme),
    ("default_timeout", option Duration.display c.defaultTimeout)]

/-- The names of the registered shards, in ascending order. -/
def shardNames (db : Database β) : List String :=
  (db.shards.map (·.1)).mergeSort (fun a b => decide (a ≤ b))

/-- A database, with the name of its primary connection. -/
def database (db : Database β) (connectionName : String) : String :=
  struct "Db" [("core", core db.core), ("connection", Text.quoted connectionName),
    ("shards", list ((shardNames db).map Text.quoted)),
    ("replicas", bool db.connection.isSpread)]

def selector (s : Selector) : String :=
  partialStruct "ReplicaSelector" [("domain", Text.quoted s.dsn.host),
    ("config", struct "ReplicaSelectorConfig" [("interval", s.interval.display),
      ("timeout", s.timeout.display)]),
    ("replicas", toString s.replicas.length)]

def replica (r : Replica) : String :=
  partialStruct "Replica" [("name", Text.quoted r.name), ("dsn", Text.quoted r.dsn)]

def replicas (rs : List Replica) : String := list (rs.map replica)

/-- A transaction that has not ended. -/
def transaction : String := partialStruct "Tx" [("done", bool false)]

/-- The settings of a pool. -/
def poolConfig (c : Sqlite.PoolConfig) : String := struct "SqliteConfig" c.fields

def pooledConnection (name : String) (c : Sqlite.PoolConfig) (isMemory : Bool) : String :=
  partialStruct "SqliteConnection" [("name", Text.quoted name), ("config", poolConfig c),
    ("is_memory", bool isMemory)]

end EntityStore.Describe
