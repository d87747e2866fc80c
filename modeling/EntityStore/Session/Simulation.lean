import EntityStore.Session.Driver

/-!
# Simulated connections

A driver without databases: every connection answers as it is told to, after the delay it is told to
take, and everything that is asked of it is written down. It serves to see what a session does, and
when.
-/

namespace EntityStore

/-- How a simulated connection answers. -/
structure Behavior where
  /-- The rows of a read. -/
  rows : Rows := {}
  /-- The rows that a write changes. -/
  affected : Nat := 1
  /-- The row id that a write reports. -/
  lastId : Option Int64 := none
  /-- How long a statement takes, in milliseconds. -/
  delay : Nat := 0
  /-- Why statements fail. -/
  failure : Option String := none
  /-- Why transactions cannot be begun. -/
  beginFailure : Option String := none
  /-- Why commits fail. -/
  commitFailure : Option String := none
  /-- Why rollbacks fail. -/
  rollbackFailure : Option String := none
deriving DecidableEq, Inhabited

/-- Something that was asked of a simulated driver. -/
inductive Event where
  /-- A statement outside a transaction. -/
  | statement (connection : String) (isRead : Bool) (q : Query) (o : CallOptions)
  /-- A statement in a transaction. -/
  | statementIn (connection : String) (isRead : Bool) (q : Query)
  /-- A transaction was begun. -/
  | began (connection : String)
  /-- A transaction was committed. -/
  | committed (connection : String)
  /-- A transaction was rolled back. -/
  | rolledBack (connection : String)
  | resolved (domain : String) (port : UInt16)
  /-- A connection was opened. -/
  | connected (name dsn : String)
  /-- An interceptor was entered. -/
  | entered (label : String) (kind : String) (isRead : Bool) (table sql : String) (o : CallOptions)
  /-- An interceptor was left. -/
  | left (label result : String)
  | noted (n : Note)
deriving DecidableEq

structure SimulatedConnection where
  name : String
  /-- How it answers. -/
  behavior : Behavior := {}
deriving Inhabited

/-- How a simulated resolver answers. -/
structure SimulatedResolver where
  /-- The addresses of every domain. -/
  addresses : List IpAddr := []
  /-- Why domains cannot be resolved. -/
  failure : Option String := none
  /-- How long it takes, in milliseconds. -/
  delay : Nat := 0
  /-- A data source name that cannot be connected to, and why. -/
  refused : Option (String × String) := none
deriving Inhabited

/-- The state of a simulated driver. -/
structure Simulation where
  /-- The connections, in the order in which they were opened. -/
  connections : Array SimulatedConnection := #[]
  resolver : SimulatedResolver := {}
  /-- The connection of each transaction. -/
  transactions : Array ConnectionId := #[]
  /-- What was asked, the last first. -/
  events : List Event := []
  /-- Whether notes are written down. -/
  capture : Bool := false
deriving Inhabited

namespace Simulation

/-- Writes something down. -/
def record (e : Event) : Job Simulation Unit := Job.modify fun s => { s with events := e :: s.events }

/-- Opens a connection. -/
def addConnection (name : String) (s : Simulation) : ConnectionId × Simulation :=
  (s.connections.size, { s with connections := s.connections.push { name } })

def connection (s : Simulation) (c : ConnectionId) : SimulatedConnection :=
  s.connections[c]?.getD { name := "" }

/-- Changes how the newest connection of a name answers. -/
def setBehavior (name : String) (f : Behavior → Behavior) (s : Simulation) : Simulation :=
  match s.connections.toList.reverse.findIdx? (·.name == name) with
  | none => s
  | some i =>
    let place := s.connections.size - 1 - i
    { s with connections := s.connections.modify place fun c => { c with behavior := f c.behavior } }

/-- Runs a statement: after the delay it is written down, and then it fails or is answered. -/
def answer {α : Type} (c : ConnectionId) (event : String → Event) (result : Behavior → α) :
    Job Simulation (Except Error α) :=
  Job.read fun s =>
    let wait (k : Job Simulation (Except Error α)) :=
      if (s.connection c).behavior.delay = 0 then k else .wait (s.connection c).behavior.delay k
    wait <| (record (event (s.connection c).name)).bind fun _ =>
      Job.read fun s =>
        match (s.connection c).behavior.failure with
        | some m => .done (.error (.connectivity (.queryFailed m)))
        | none => .done (.ok (result (s.connection c).behavior))

/-- The outcome of a write. -/
def execResult (b : Behavior) : ExecResult := ⟨b.affected, b.lastId⟩

/-- Something that fails or not, and is written down at once. -/
def attempt (c : ConnectionId) (event : String → Event) (failure : Behavior → Option Error) :
    Job Simulation (Except Error Unit) :=
  Job.read fun s =>
    (record (event (s.connection c).name)).bind fun _ =>
      match failure (s.connection c).behavior with
      | some e => .done (.error e)
      | none => .done (.ok ())

def connectionOf {α : Type} (t : TransactionId) (f : ConnectionId → Job Simulation α) :
    Job Simulation α :=
  Job.read fun s => f (s.transactions[t]?.getD 0)

def resolve (domain : String) (port : UInt16) : Job Simulation (Except Error (List IpAddr)) :=
  (record (.resolved domain port)).bind fun _ =>
    Job.read fun s =>
      let answer := Job.read fun s : Simulation =>
        match s.resolver.failure with
        | some m => .done (.error (.connectivity (.resolution domain m)))
        | none => .done (.ok s.resolver.addresses)
      if s.resolver.delay = 0 then answer else .wait s.resolver.delay answer

/-- Opens a connection named by its data source name. -/
def connect (name dsn : String) : Job Simulation (Except Error ConnectionId) :=
  (record (.connected name dsn)).bind fun _ =>
    Job.read fun s =>
      let open_ := Job.write (s.addConnection dsn).2 (.done (.ok (s.addConnection dsn).1))
      match s.resolver.refused with
      | some (refused, m) =>
        if refused = dsn then .done (.error (.connectivity (.connectionFailed "mock" m))) else open_
      | none => open_

instance : Driver Simulation where
  name s c := (s.connection c).name
  elapse _ s := s
  note n s := if s.capture then { s with events := .noted n :: s.events } else s
  connect := connect
  resolve := resolve
  query c q o := answer c (.statement · true q o) (·.rows)
  exec c q o := answer c (.statement · false q o) execResult
  beginOn c :=
    (attempt c .began fun b => b.beginFailure.map .beginFailed).bind fun
      | .error e => .done (.error e)
      | .ok () => Job.read fun s =>
        .write { s with transactions := s.transactions.push c } (.done (.ok s.transactions.size))
  queryIn t q := connectionOf t fun c => answer c (.statementIn · true q) (·.rows)
  execIn t q := connectionOf t fun c => answer c (.statementIn · false q) execResult
  commit t := connectionOf t fun c => attempt c .committed fun b => b.commitFailure.map .commitFailed
  rollback t := connectionOf t fun c =>
    attempt c .rolledBack fun b => b.rollbackFailure.map fun m => .connectivity (.queryFailed m)
  release _ := .done ()

/-! ## Setting up -/

def open_ (name : String) : Work Simulation ConnectionId :=
  Site.ofDriver (Job.read fun s => .write (s.addConnection name).2 (.done (s.addConnection name).1))

/-- Opens connections; of two with one name the later one counts. -/
def openAll : List String → Work Simulation (List (String × ConnectionId))
  | [] => .done []
  | name :: rest =>
    (open_ name).bind fun c => (openAll rest).bind fun others =>
      .done (if others.any (·.1 == name) then others else (name, c) :: others)

/-- What was asked since the last look, in order. -/
def takeEvents : Work Simulation (List Event) :=
  Site.ofDriver (Job.read fun s => .write { s with events := [] } (.done s.events.reverse))

end Simulation

end EntityStore
