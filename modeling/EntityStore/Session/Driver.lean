import EntityStore.Network.Address
import EntityStore.Query
import EntityStore.Error
import EntityStore.Model.Registry
import EntityStore.Rows
import EntityStore.Session.Job
import EntityStore.Time.Duration
import EntityStore.Network.Dsn

/-!
# Drivers

A driver opens connections, resolves domains and runs statements; connections and open transactions
are known by number. What it does are jobs on a state of its own. `Site` puts that state beside what a
session keeps itself: the registry of table models and the list of replicas.
-/

namespace EntityStore

structure CallOptions where
  /-- Whether a read has to go to the primary. -/
  usePrimary : Bool := false
  /-- The deadline of the call. -/
  timeout : Option Duration := none
deriving DecidableEq, Inhabited

namespace CallOptions

/-- The options of a call that has to go to the primary. -/
def primary : CallOptions := { usePrimary := true }

/-- The same options with a deadline. -/
def withTimeout (o : CallOptions) (d : Duration) : CallOptions := { o with timeout := some d }

/-- The same options with a deadline if they have none. -/
def orDefaultTimeout (o : CallOptions) (d : Option Duration) : CallOptions :=
  { o with timeout := o.timeout.or d }

@[simp] theorem orDefaultTimeout_usePrimary (o : CallOptions) (d : Option Duration) :
    (o.orDefaultTimeout d).usePrimary = o.usePrimary := rfl

end CallOptions

/-- How important a note is. -/
inductive Level where
  | debug
  | info
  | warn
deriving DecidableEq, Repr

def Level.name : Level → String
  | debug => "DEBUG"
  | info => "INFO"
  | warn => "WARN"

/-- A note for the log. -/
structure Note where
  /-- How important it is. -/
  level : Level
  /-- What happened. -/
  message : String
  /-- The details, by name. -/
  fields : List (String × String) := []
deriving DecidableEq

/-- The number of a connection. -/
abbrev ConnectionId := Nat

/-- The number of an open transaction. -/
abbrev TransactionId := Nat

/-- What a driver with the state `β` can do. -/
class Driver (β : Type) where
  name : β → ConnectionId → String
  /-- Notes something in the log. -/
  note : Note → β → β
  /-- What goes on by itself while some milliseconds pass. -/
  elapse : Nat → β → β
  /-- Opens a connection with a given name. -/
  connect : (name dsn : String) → Job β (Except Error ConnectionId)
  /-- Finds the addresses of a domain. -/
  resolve : (domain : String) → (port : UInt16) → Job β (Except Error (List IpAddr))
  /-- Runs a statement that returns rows. -/
  query : ConnectionId → Query → CallOptions → Job β (Except Error Rows)
  /-- Runs a statement that returns no rows. -/
  exec : ConnectionId → Query → CallOptions → Job β (Except Error ExecResult)
  beginOn : ConnectionId → Job β (Except Error TransactionId)
  /-- Runs a statement that returns rows in a transaction. -/
  queryIn : TransactionId → Query → Job β (Except Error Rows)
  /-- Runs a statement that returns no rows in a transaction. -/
  execIn : TransactionId → Query → Job β (Except Error ExecResult)
  commit : TransactionId → Job β (Except Error Unit)
  /-- Rolls a transaction back. -/
  rollback : TransactionId → Job β (Except Error Unit)
  /-- Lets go of a transaction. -/
  release : TransactionId → Job β Unit

/-- A replica: an open connection to one address. -/
structure Replica where
  /-- The name, by the place in the list. -/
  name : String
  /-- The data source name of the address. -/
  dsn : String
  connection : ConnectionId
deriving DecidableEq, Inhabited

/-- What is known about the replicas behind one data source name. -/
structure Selector where
  /-- The data source name that stands for all of them. -/
  dsn : Dsn
  /-- The time between two refreshes. -/
  interval : Duration
  /-- The deadline of one resolution. -/
  timeout : Duration
  /-- The list, in the order of the addresses. -/
  replicas : List Replica
  /-- How many reads have been given a replica, modulo `2 ^ 64`. -/
  counter : UInt64 := 0
  /-- Whether refreshing has been stopped. -/
  closed : Bool := false
deriving Inhabited

/-- The state that all jobs of a session share. -/
structure Site (β : Type) where
  /-- The table models made so far. -/
  registry : Registry
  /-- The replicas, if reads are spread over some. -/
  selector : Option Selector
  /-- The state of the driver. -/
  driver : β

/-- Work of a session. -/
abbrev Work (β α : Type) := Job (Site β) α

namespace Site

variable {β α : Type}

/-- Work of the driver as work of the session. -/
def ofDriver (x : Job β α) : Work β α :=
  x.zoom (·.driver) fun d s => { s with driver := d }

variable [Driver β]

/-- Notes something in the log. -/
def note (n : Note) : Work β Unit :=
  Job.modify fun s => { s with driver := Driver.note n s.driver }

def connectionName (c : ConnectionId) : Work β String :=
  Job.read fun s => .done (Driver.name s.driver c)

/-- The model of a type, made on first use. -/
def modelOf (t : MappedType) : Work β (Except Error TableModel) :=
  Job.read fun s =>
    match s.registry.get t with
    | (.ok found, r) =>
      .write { s with registry := r } <|
        if found.isNew then
          (note ⟨.debug, "Registered table model",
            [("table", found.model.table), ("columns", toString found.model.columnCount)]⟩).bind
            fun _ => .done (.ok found.model)
        else .done (.ok found.model)
    | (.error e, _) => .done (.error (.schema e))

end Site

/-- Fails with a timeout if a job is still waiting after a given time. Time passes in whole
milliseconds, so a started one counts in full. -/
def withDeadline {σ α : Type} (limit : Option Duration) (x : Job σ (Except Error α)) :
    Job σ (Except Error α) :=
  match limit with
  | none => x
  | some d => (x.deadline d.millisUp).bind fun
    | some r => .done r
    | none => .done (.error (.connectivity (.timeout d.millis)))

end EntityStore
