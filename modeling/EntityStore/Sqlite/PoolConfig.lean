import EntityStore.Json.Tree

/-!
# Settings of a connection pool

How many connections a pool may open, how long a caller waits for one, and how long a connection waits
for a lock.
-/

namespace EntityStore.Sqlite

/-- The settings of a pool. -/
structure PoolConfig where
  /-- The greatest number of connections. -/
  maxConnections : UInt32 := 10
  /-- The number of connections kept ready. -/
  minConnections : UInt32 := 1
  /-- How long a caller waits for a connection, in milliseconds. -/
  connectionTimeoutMs : UInt64 := 30000
  /-- How long a connection waits for a lock, in milliseconds. -/
  busyTimeoutMs : UInt32 := 5000
  /-- Whether references between tables are switched on. -/
  enableForeignKeys : Bool := true
deriving DecidableEq, Inhabited

namespace PoolConfig

/-- The names of the settings, in order. -/
def entries : List String :=
  ["max_connections", "min_connections", "connection_timeout_ms", "busy_timeout_ms",
    "enable_foreign_keys"]

/-- Reads settings; those that are not given have their defaults. -/
def ofJson? (j : Json) : Option PoolConfig :=
  match j.fields? entries with
  | some [maxC, minC, wait, busy, keys] => do
    let maxC ← Json.withDefault? (Json.natBelow? UInt32.size) 10 maxC
    let minC ← Json.withDefault? (Json.natBelow? UInt32.size) 1 minC
    let wait ← Json.withDefault? (Json.natBelow? UInt64.size) 30000 wait
    let busy ← Json.withDefault? (Json.natBelow? UInt32.size) 5000 busy
    let keys ← Json.withDefault? Json.bool? true keys
    some ⟨UInt32.ofNat maxC, UInt32.ofNat minC, UInt64.ofNat wait, UInt32.ofNat busy, keys⟩
  | _ => none

/-- The settings with their names and values. -/
def fields (c : PoolConfig) : List (String × String) :=
  [("max_connections", toString c.maxConnections.toNat),
    ("min_connections", toString c.minConnections.toNat),
    ("connection_timeout_ms", toString c.connectionTimeoutMs.toNat),
    ("busy_timeout_ms", toString c.busyTimeoutMs.toNat),
    ("enable_foreign_keys", Json.boolText c.enableForeignKeys)]

/-- Writes settings. -/
def toJsonText (c : PoolConfig) : String := Json.objectText c.fields

end PoolConfig

end EntityStore.Sqlite
