import EntityStore.Session.Driver
import EntityStore.Sqlite.Errand
import EntityStore.Sqlite.PoolConfig

/-!
# Pools

An engine keeps stores in memory and in files, and opens them through pools of connections. A pool
hands out the connection that came back last; when all are in use, who needs one waits as long as the
settings of the pool say. A transaction keeps its connection until its holder lets go of it and nobody
is on the way to it any more. A connection that comes back with a transaction still open is handed out
like that.

A writer that finds another transaction open waits for it as long as the settings say if the store is a
file, and not at all in memory.
-/

namespace EntityStore.Sqlite

/-- A pool of connections to one store. -/
structure Pool where
  name : String
  /-- The place of the store. -/
  store : Nat
  /-- Its settings. -/
  config : PoolConfig
  /-- Whether the store is kept in memory. -/
  inMemory : Bool
  /-- The connections that are free, the one that came back last first. -/
  idle : List Nat := []
  /-- The number of connections, free or not. -/
  opened : Nat := 0
deriving DecidableEq, Inhabited

/-- A transaction and the connection it keeps. -/
structure Lease where
  /-- The place of the pool. -/
  pool : Nat
  connection : Nat
  /-- The handle of its holder. -/
  handle : Handle := {}
  /-- Whether its holder has not let go. -/
  held : Bool := true
deriving DecidableEq, Inhabited

/-- The state of an engine. -/
structure Engine where
  /-- The settings of pools that are opened by a data source name of a file. -/
  config : PoolConfig := {}
  /-- The directories that exist. -/
  directories : List String := []
  stores : Array SharedStore := #[]
  /-- The store of each file, by its path. -/
  files : List (String × Nat) := []
  pools : Array Pool := #[]
  /-- The number of connections opened so far. -/
  connections : Nat := 0
  /-- The transactions. -/
  leases : Array Lease := #[]
  /-- The time in milliseconds. -/
  now : Nat := 0
  /-- The number of workers that have nothing to do. -/
  workers : Nat := 512
  /-- The errands, in the order in which somebody was sent. -/
  tasks : Array Task := #[]
deriving Inhabited

namespace Engine

/-! ## Opening -/

/-- The name of the engine in errors. -/
def backend : String := "sqlite"

def internal (r : Refusal) : Error := .connectivity (.internal backend r.message)

/-- The directory of a path, and whether a file can have the rest as its name. -/
def directory (path : String) : String × Bool :=
  let reversed := path.toList.reverse
  (String.ofList (reversed.dropWhile (· != '/')).tail.reverse,
    !(reversed.takeWhile (· != '/')).isEmpty)

/-- Whether there can be a file of a given path. -/
def isFilePath (e : Engine) (path : String) : Bool :=
  let (dir, named) := directory path
  named && (dir.isEmpty || e.directories.contains dir) && !e.directories.contains path

/-- Adds a pool on a store. -/
def addPool (e : Engine) (p : Pool) : ConnectionId × Engine :=
  (e.pools.size, { e with pools := e.pools.push p })

def addStore (e : Engine) (inMemory : Bool) : Nat × Engine :=
  (e.stores.size, { e with stores := e.stores.push { inMemory } })

/-- Opens a new store in memory. -/
def openMemory (name : String) : Job Engine (Except Error ConnectionId) :=
  Job.read fun e =>
    let (store, e) := e.addStore true
    let (c, e) := e.addPool { name, store, config := {}, inMemory := true }
    .write e (.done (.ok c))

/-- The store of a file, which is made if it does not exist. -/
def fileStore (e : Engine) (path : String) : Nat × Engine :=
  match e.files.find? (·.1 == path) with
  | some (_, store) => (store, e)
  | none =>
    let (store, e) := e.addStore false
    (store, { e with files := (path, store) :: e.files })

def openFile (name path : String) (config : PoolConfig) : Job Engine (Except Error ConnectionId) :=
  Job.read fun e =>
    if e.isFilePath path then
      let (store, e) := e.fileStore path
      let (c, e) := e.addPool { name, store, config, inMemory := false }
      .write e (.done (.ok c))
    else
      .wait config.connectionTimeoutMs.toNat
        (.done (.error (.connectivity (.connectionFailed backend "unable to open database file"))))

/-- The scheme that may stand before the path of a data source name. -/
def scheme : List Char := "sqlite://".toList

/-- Opens a data source name: `:memory:` or a path. -/
def connect (name dsn : String) : Job Engine (Except Error ConnectionId) :=
  let chars := dsn.toList
  let path := String.ofList (if scheme.isPrefixOf chars then chars.drop scheme.length else chars)
  if path.isEmpty then .done (.error (.connectivity (.invalidDsn dsn "empty path")))
  else if path == ":memory:" then openMemory name
  else Job.read fun e => openFile name path e.config

/-! ## Pools -/

def pool (e : Engine) (c : ConnectionId) : Pool := e.pools[c]?.getD default

/-- Changes a pool. -/
def setPool (e : Engine) (c : ConnectionId) (p : Pool) : Engine :=
  { e with pools := e.pools.modify c fun _ => p }

/-- A free connection: the one that came back last, or a new one. -/
def take? (e : Engine) (c : ConnectionId) : Option (Nat × Engine) :=
  let p := e.pool c
  match p.idle with
  | n :: rest => some (n, e.setPool c { p with idle := rest })
  | [] =>
    if p.opened < p.config.maxConnections.toNat then
      some (e.connections,
        { e.setPool c { p with opened := p.opened + 1 } with connections := e.connections + 1 })
    else none

def giveBack (e : Engine) (c : ConnectionId) (n : Nat) : Engine :=
  e.setPool c { e.pool c with idle := n :: (e.pool c).idle }

/-- The error of a caller that waited for a connection in vain. -/
def exhausted : Error :=
  .connectivity (.connectionFailed backend "timed out waiting for connection")

/-! ## Work on a store -/

/-- The store of a pool. -/
def store (e : Engine) (c : ConnectionId) : SharedStore :=
  e.stores[(e.pool c).store]?.getD default

/-- Changes the store of a pool. -/
def setStore (e : Engine) (c : ConnectionId) (s : SharedStore) : Engine :=
  { e with stores := e.stores.modify (e.pool c).store fun _ => s }

/-- Tries something on the store of a pool; who is blocked changes nothing. -/
def tryOn {α : Type} (e : Engine) (c : ConnectionId)
    (attempt : SharedStore → Attempt α × SharedStore) : Attempt α × Engine :=
  match attempt (e.store c) with
  | (.done a, s) => (.done a, e.setStore c s)
  | (.refused r, s) => (.refused r, e.setStore c s)
  | (.blocked, _) => (.blocked, e)

/-- Carries out an action on a connection of a pool. -/
def perform (e : Engine) (c : ConnectionId) (n : Nat) (a : Action) : Attempt Reply × Engine :=
  e.tryOn c (·.perform n a)

/-- Makes tables that do not exist yet. -/
def createTables (c : ConnectionId) (tables : List Table) : Job Engine Unit :=
  Job.modify fun e =>
    let s := e.store c
    e.setStore c { s with committed := tables.foldl Store.create s.committed }

/-! ## Transactions -/

def lease (e : Engine) (t : TransactionId) : Lease := e.leases[t]?.getD default

/-- Changes a transaction. -/
def setLease (e : Engine) (t : TransactionId) (l : Lease) : Engine :=
  { e with leases := e.leases.modify t fun _ => l }

/-- Begins a transaction on a connection of a pool. -/
def begin_ (e : Engine) (c : ConnectionId) (n : Nat) : Attempt Reply × Engine :=
  match e.tryOn c (·.begin_ n) with
  | (.done (), e) =>
    (.done (.begun e.leases.size), { e with leases := e.leases.push { pool := c, connection := n } })
  | (.refused r, e) => (.refused r, e)
  | (.blocked, e) => (.blocked, e)

end Engine

end EntityStore.Sqlite
