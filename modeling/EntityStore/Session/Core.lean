import EntityStore.Placement.Route
import EntityStore.Statement.Insert

/-!
# Sessions

A session is what statements are run on: a database, or an open transaction of one. Both share the
same settings (`Core`). Running a statement means to look up its model, to write it, to send it through
the interceptors under a deadline, and to read the rows back.
-/

namespace EntityStore

/-- The settings that a database and its transactions share. -/
structure Core (β : Type) where
  /-- The dialect of the statements. -/
  dialect : Dialect := .mysql
  /-- How rows become records. -/
  materializer : Materializer := .positional
  /-- The interceptors, outermost first. -/
  interceptors : List (Interceptor β) := []
  /-- Where the rows of sharded tables are. -/
  scheme : Option Placement := none
  /-- The deadline of calls that set none. -/
  defaultTimeout : Option Duration := none

/-- What statements are run on. -/
structure Session (β : Type) where
  /-- The settings. -/
  core : Core β
  /-- Runs a statement that returns rows. -/
  query : Query → CallOptions → Work β (Except Error Rows)
  /-- Runs a statement that returns no rows. -/
  exec : Query → CallOptions → Work β (Except Error ExecResult)

/-- A statement given as text. -/
structure RawStatement where
  /-- The text and its arguments. -/
  query : Query
  options : CallOptions := {}

namespace Session

variable {β : Type} [Driver β]

/-- The end of a chain: the statement is run on a connection, under the deadline of the call. -/
def endpoint (query : Query → CallOptions → Work β (Except Error Rows))
    (exec : Query → CallOptions → Work β (Except Error ExecResult)) : Handler β := fun c =>
  withDeadline c.options.timeout <|
    if c.kind.isRead then (query c.query c.options).bind fun r => .done (r.map .rows)
    else (exec c.query c.options).bind fun r => .done (r.map .exec)

/-- Sends a statement through the interceptors to an endpoint; the default deadline applies if the call
sets none. -/
def dispatchTo (core : Core β) (handler : Handler β) (c : Context) : Work β (Except Error Output) :=
  Interceptor.chain core.interceptors handler
    { c with options := c.options.orDefaultTimeout core.defaultTimeout }

/-- Sends a statement to the connection of the session. -/
def dispatch (s : Session β) (c : Context) : Work β (Except Error Output) :=
  dispatchTo s.core (endpoint s.query s.exec) c

/-- Goes on with a success. -/
def andThen {α γ : Type} (x : Work β (Except Error α)) (f : α → Work β (Except Error γ)) :
    Work β (Except Error γ) :=
  x.bind fun
    | .ok a => f a
    | .error e => .done (.error e)

/-- The model of a record type, made on first use. -/
def entityModel (ρ : Type) [Stored ρ] : Work β (Except Error TableModel) :=
  Site.modelOf (Stored.mapped ρ)

/-- Makes the models of some entity types. -/
def prepare : List EntityType → Work β (Except Error Unit)
  | [] => .done (.ok ())
  | t :: rest => andThen (Site.modelOf t) fun _ => prepare rest

/-- Runs a read and turns every row into a record. -/
def fetch (s : Session β) (ρ : Type) [Stored ρ] (m : TableModel) (c : Context) :
    Work β (Except Error (List ρ)) :=
  andThen (s.dispatch c) fun output =>
    .done (output.toRows.bind fun rows => s.core.materializer.materializeAll ρ m rows)

/-- Runs a write. -/
def execute (s : Session β) (c : Context) : Work β (Except Error ExecResult) :=
  andThen (s.dispatch c) fun output => .done output.toExec

/-- The first record, if there is one. -/
def first {ρ : Type} : List ρ → Except Error ρ
  | r :: _ => .ok r
  | [] => .error (.result .noRows)

/-- The first record of a read. -/
def firstOf {ρ : Type} (x : Work β (Except Error (List ρ))) : Work β (Except Error ρ) :=
  andThen x fun rs => .done (first rs)

/-! ## Selects and deletes -/

def buildSelect (t : MappedType) (c : Clauses) : Work β (Except Error Query) :=
  andThen (Site.modelOf t) fun m => .done (c.select m)

/-- The records of a select. -/
def select (s : Session β) (ρ : Type) [Stored ρ] (c : Clauses) : Work β (Except Error (List ρ)) :=
  andThen (entityModel ρ) fun m =>
    match c.select m with
    | .error e => .done (.error e)
    | .ok q => s.fetch ρ m ⟨.select, c.tableText m, q, c.options⟩

def buildDelete (t : MappedType) (c : Clauses) : Work β (Except Error Query) :=
  andThen (Site.modelOf t) fun m => .done (c.delete m)

/-- Runs a delete. -/
def delete (s : Session β) (ρ : Type) [Stored ρ] (c : Clauses) : Work β (Except Error ExecResult) :=
  andThen (entityModel ρ) fun m =>
    match c.delete m with
    | .error e => .done (.error e)
    | .ok q => s.execute ⟨.delete, c.tableText m, q, c.options⟩

/-! ## Inserts -/

/-- The query of an insert; without rows it is refused before the model is looked up. -/
def buildInsert (s : Session β) (ρ : Type) [Stored ρ] (i : Insert ρ) : Work β (Except Error Query) :=
  if i.rows.isEmpty then .done (.error (.query .zeroRows))
  else andThen (entityModel ρ) fun m => .done (i.query s.core.dialect s.core.materializer m)

/-- Runs an insert. -/
def insert (s : Session β) (ρ : Type) [Stored ρ] (i : Insert ρ) : Work β (Except Error ExecResult) :=
  andThen (entityModel ρ) fun m =>
    andThen (s.buildInsert ρ i) fun q =>
      s.execute ⟨.insert, Clauses.modelTable m, q, i.options⟩

/-! ## Statements given as text -/

/-- The records of a statement given as text. -/
def selectRaw (s : Session β) (ρ : Type) [Stored ρ] (r : RawStatement) :
    Work β (Except Error (List ρ)) :=
  andThen (entityModel ρ) fun m => s.fetch ρ m ⟨.raw, Clauses.modelTable m, r.query, r.options⟩

/-- Runs a statement given as text. -/
def execRaw (s : Session β) (ρ : Type) [Stored ρ] (r : RawStatement) :
    Work β (Except Error ExecResult) :=
  andThen (entityModel ρ) fun m => s.execute ⟨.rawExec, Clauses.modelTable m, r.query, r.options⟩

end Session

end EntityStore
