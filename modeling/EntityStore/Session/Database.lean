import EntityStore.Replica.Selector
import EntityStore.Session.Core

/-!
# Databases and transactions

A database sends its statements to a primary connection. With replicas, reads go to one of them in turn
unless the call asks for the primary; everything else stays on the primary. A sharded read runs once
per target, on the connection registered for the database of the target.

A scoped transaction begins, runs a task, and ends with one call to the driver: a commit if the task
succeeded, and a rollback if it failed or panicked. The error of the task is reported unchanged, with
the error of the rollback beside it if that failed too.
-/

namespace EntityStore

/-- Where the statements of a database go. -/
inductive Connection where
  | single (primary : ConnectionId)
  /-- Reads to the replicas, everything else to the primary. -/
  | spread (primary : ConnectionId)
deriving DecidableEq

/-- The connection of everything but reads. -/
def Connection.primary : Connection → ConnectionId
  | single c => c
  | spread c => c

/-- Whether reads go to replicas. -/
def Connection.isSpread : Connection → Bool
  | single _ => false
  | spread _ => true

/-- A logical database. -/
structure Database (β : Type) where
  /-- The settings. -/
  core : Core β
  /-- Where statements go. -/
  connection : Connection
  /-- The connections registered for databases of the placement scheme. -/
  shards : List (String × ConnectionId) := []

/-- An open transaction. -/
structure Transaction (β : Type) where
  /-- The settings of its database. -/
  core : Core β
  driver : TransactionId

/-! ## Connections -/

namespace Connection

variable {β : Type} [Driver β]

def reader (c : Connection) (usePrimary : Bool) : Work β ConnectionId :=
  match c with
  | single primary => .done primary
  | spread primary =>
    (Selector.pick usePrimary).bind fun picked =>
      let target := picked.getD primary
      (Site.connectionName target).bind fun name =>
        (Site.note ⟨.debug, "Read routed", [("connection", name)]⟩).bind fun _ => .done target

/-- Runs a statement that returns rows. -/
def query (c : Connection) (q : Query) (o : CallOptions) : Work β (Except Error Rows) :=
  (c.reader o.usePrimary).bind fun target => Site.ofDriver (Driver.query target q o)

/-- Runs a statement that returns no rows. -/
def exec (c : Connection) (q : Query) (o : CallOptions) : Work β (Except Error ExecResult) :=
  Site.ofDriver (Driver.exec c.primary q o)

def beginOn (c : Connection) : Work β (Except Error TransactionId) :=
  Site.ofDriver (Driver.beginOn c.primary)

end Connection

/-! ## Transactions -/

/-- How some work ended. -/
inductive Ending (α : Type) where
  | returned (r : Except Error α)
  /-- It panicked, with a text unless the payload of the panic was none. -/
  | panicked (payload : Option String)

/-- A task of a transaction, once it has been called. -/
inductive Task (β α : Type) where
  /-- The call itself panicked. -/
  | unwinds (payload : Option String)
  /-- The call returned work that can now be run. -/
  | runs (work : Work β (Ending α))

namespace Transaction

/-- Runs a task in an open transaction, without beginning or ending anything. -/
def transaction {β γ : Type} (t : Transaction β) (task : Transaction β → Work β γ) : Work β γ := task t

variable {β α : Type} [Driver β]

/-- A transaction as a session. Only the deadline of a call counts, not its wish for a connection. -/
def session (t : Transaction β) : Session β where
  core := t.core
  query q _ := Site.ofDriver (Driver.queryIn t.driver q)
  exec q _ := Site.ofDriver (Driver.execIn t.driver q)

/-- Lets go of the transaction of the driver and returns a result. -/
def finished (t : Transaction β) (r : Except Error Unit) (n : Note) : Work β (Except Error Unit) :=
  (match r with
    | .ok () => Site.note n
    | .error _ => .done ()).bind fun _ =>
      (Site.ofDriver (Driver.release t.driver)).bind fun _ => .done r

def commit (t : Transaction β) : Work β (Except Error Unit) :=
  (Site.ofDriver (Driver.commit t.driver)).bind fun r =>
    t.finished r ⟨.debug, "Transaction committed", []⟩

/-- Rolls back. -/
def rollback (t : Transaction β) : Work β (Except Error Unit) :=
  (Site.ofDriver (Driver.rollback t.driver)).bind fun r =>
    t.finished r ⟨.debug, "Transaction rolled back", []⟩

/-- Lets go of a transaction that was not ended. -/
def drop (t : Transaction β) : Work β Unit :=
  (Site.note ⟨.warn, "Transaction dropped without commit or rollback", []⟩).bind fun _ =>
    Site.ofDriver (Driver.release t.driver)

/-- Rolls back after a failure: the cause, with the failure of the rollback beside it. -/
def rollbackAfter (t : Transaction β) (cause : Error) : Work β Error :=
  t.rollback.bind fun
    | .ok () => .done cause
    | .error e => .done (.rollbackFailed cause e)

/-- Ends a transaction as its task ended. -/
def finish (t : Transaction β) : Ending α → Work β (Except Error α)
  | .returned (.ok a) => t.commit.bind fun r => .done (r.map fun _ => a)
  | .returned (.error cause) => (t.rollbackAfter cause).bind fun e => .done (.error e)
  | .panicked payload =>
    let cause := Error.panicked (payload.getD "unknown panic")
    (Site.note ⟨.warn, "Rolling back after panic", [("error", cause.message)]⟩).bind fun _ =>
      (t.rollbackAfter cause).bind fun e => .done (.error e)

/-- Runs work and ends a transaction as it ended; what the work reports beside that is handed on. -/
def bracket {γ : Type} (t : Transaction β) (work : Work β (γ × Ending α)) :
    Work β (γ × Except Error α) :=
  work.bind fun (report, ending) => (t.finish ending).bind fun r => .done (report, r)

end Transaction

/-! ## Databases -/

namespace Database

variable {β α : Type} [Driver β]

def session (db : Database β) : Session β where
  core := db.core
  query := db.connection.query
  exec := db.connection.exec

/-- Begins a transaction on the primary. -/
def beginTransaction (db : Database β) : Work β (Except Error (Transaction β)) :=
  db.connection.beginOn.bind fun
    | .error e => .done (.error e)
    | .ok driver =>
      (Site.connectionName db.connection.primary).bind fun name =>
        (Site.note ⟨.debug, "Transaction started", [("connection", name)]⟩).bind fun _ =>
          .done (.ok ⟨db.core, driver⟩)

/-- Runs a task in a transaction. A panic of the task's work is caught; one of the call itself is not,
and leaves the transaction behind unended. -/
def transaction (db : Database β) (task : Transaction β → Task β α) : Work β (Ending α) :=
  db.beginTransaction.bind fun
    | .error e => .done (.returned (.error e))
    | .ok t =>
      match task t with
      | .unwinds payload => t.drop.bind fun _ => .done (.panicked payload)
      | .runs work =>
        (t.bracket (work.bind fun ending => .done ((), ending))).bind fun r => .done (.returned r.2)

/-! ## Sharded reads -/

/-- The connection registered for a database of the placement scheme. -/
def shard? (db : Database β) (name : String) : Option ConnectionId :=
  (db.shards.find? (·.1 == name)).map (·.2)

/-- The connection for the statements to a target. -/
def connectionFor (db : Database β) (t : Target) : Connection :=
  match db.shard? t.database with
  | some c => .single c
  | none => db.connection

/-- The statements of a sharded read. -/
def buildSharded (db : Database β) (t : MappedType) (c : Clauses) :
    Work β (Except Error (List (Target × Query))) :=
  match db.core.scheme with
  | none => .done (.error (.query .noShardingAlgorithm))
  | some placement =>
    Session.andThen (Site.modelOf t) fun m => .done (c.selectSharded placement m)

/-- Runs the statement of one target. -/
def runTarget (db : Database β) (ρ : Type) [Stored ρ] (m : TableModel) (o : CallOptions)
    (statement : Target × Query) : Work β (Except Error (List ρ)) :=
  let connection := db.connectionFor statement.1
  Session.andThen
    (Session.dispatchTo db.core (Session.endpoint connection.query connection.exec)
      ⟨.select, statement.1.text, statement.2, o⟩)
    fun output =>
      .done (output.toRows.bind fun rows => db.core.materializer.materializeAll ρ m rows)

/-- The records of a sharded read, target by target. -/
def selectSharded (db : Database β) (ρ : Type) [Stored ρ] (c : Clauses) :
    Work β (Except Error (List ρ)) :=
  Session.andThen (Session.entityModel ρ) fun m =>
    Session.andThen (db.buildSharded (Stored.mapped ρ) c) fun statements =>
      (Site.note ⟨.debug, "Sharded select routed",
        [("table", m.table), ("targets", toString statements.length)]⟩).bind fun _ =>
        (Job.together (statements.map (db.runTarget ρ m c.options))).bind fun r =>
          .done (r.map List.flatten)

/-! ## Opening -/

/-- The settings of a configuration, apart from the placement scheme. -/
def coreOf (c : Config) : Core β where
  dialect := c.dialect
  materializer := c.materializer
  interceptors := c.interceptors.map Interceptor.ofBuiltin
  defaultTimeout := c.defaultTimeout

def openNote (db : Database β) : Note :=
  ⟨.info, "Database opened",
    [("dialect", db.core.dialect.name),
      ("sharded", if db.core.scheme.isSome then "true" else "false"),
      ("replicas", if db.connection.isSpread then "true" else "false")]⟩

/-- Puts a database together from its settings and connections; with a data source name, an interval
and a deadline for its replicas, these are started. -/
def assemble (core : Core β) (primary : ConnectionId) (shards : List (String × ConnectionId))
    (replicas : Option (String × Duration × Duration)) : Work β (Except Error (Database β)) :=
  match replicas with
  | none => .done (.ok ⟨core, .single primary, shards⟩)
  | some (dsn, interval, timeout) =>
    (Selector.start dsn interval timeout).bind fun r =>
      .done (r.map fun _ => ⟨core, .spread primary, shards⟩)

/-- Connects to the primary and starts the replicas of a configuration. -/
def connectAll (c : Config) (core : Core β) : Work β (Except Error (Database β)) :=
  (Site.ofDriver (Driver.connect "primary" c.connection)).bind fun
    | .error e => .done (.error e)
    | .ok primary =>
      match c.placement.mapM PlacementConfig.scheme with
      | .error e => .done (.error (.config e))
      | .ok scheme =>
        assemble { core with scheme } primary [] (c.replicas.map fun r => (r.dsn, r.interval, r.timeout))

def openWith (c : Config) : Work β (Except Error (Database β)) :=
  match c.validate with
  | .error e => .done (.error (.config e))
  | .ok () =>
    (connectAll c (coreOf c)).bind fun
      | .error e => .done (.error e)
      | .ok db => (Site.note db.openNote).bind fun _ => .done (.ok db)

end Database

end EntityStore
