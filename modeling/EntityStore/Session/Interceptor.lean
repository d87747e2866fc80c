import EntityStore.Config.Basic
import EntityStore.Session.Driver

/-!
# Interceptors

On its way to the driver a statement passes a chain of interceptors, the first one outermost. An
interceptor is given the statement and the rest of the chain, which it may run, run again or leave out.
The two built-in interceptors note what passes and change nothing.
-/

namespace EntityStore

inductive StatementKind where
  | select
  | insert
  | delete
  /-- A statement given as text, with rows. -/
  | raw
  /-- A statement given as text, without rows. -/
  | rawExec
deriving DecidableEq, Repr

namespace StatementKind

def name : StatementKind → String
  | select => "select"
  | insert => "insert"
  | delete => "delete"
  | raw => "raw"
  | rawExec => "raw_exec"

/-- Whether statements of a kind return rows. -/
def isRead : StatementKind → Bool
  | select => true
  | raw => true
  | _ => false

def ofName? (s : String) : Option StatementKind :=
  [select, insert, delete, raw, rawExec].find? (·.name == s)

end StatementKind

/-- A statement on its way to the driver. -/
structure Context where
  kind : StatementKind
  /-- The table as it is written in the statement. -/
  table : String
  /-- The statement. -/
  query : Query
  options : CallOptions
deriving DecidableEq

/-- What a statement returned. -/
inductive Output where
  /-- The rows of a read. -/
  | rows (r : Rows)
  /-- The outcome of a write. -/
  | exec (r : ExecResult)
deriving DecidableEq

namespace Output

/-- The failure of a chain that returned something else than was asked for. -/
def unexpected (expected : String) : Error :=
  .connectivity (.internal "interceptor" ("interceptor chain did not return " ++ expected))

/-- The rows of a read. -/
def toRows : Output → Except Error Rows
  | rows r => .ok r
  | exec _ => .error (unexpected "rows")

/-- The outcome of a write. -/
def toExec : Output → Except Error ExecResult
  | exec r => .ok r
  | rows _ => .error (unexpected "an exec result")

end Output

/-- What handles a statement: the driver, or the driver behind a chain. -/
abbrev Handler (β : Type) := Context → Work β (Except Error Output)

/-- A link of a chain. -/
structure Interceptor (β : Type) where
  /-- The interceptor in descriptions. -/
  display : String
  /-- Handles a statement, given the rest of the chain. -/
  intercept : Context → Handler β → Work β (Except Error Output)

namespace Interceptor

variable {β : Type}

/-- The handler of a chain in front of an endpoint. -/
def chain : List (Interceptor β) → Handler β → Handler β
  | [], endpoint => endpoint
  | i :: rest, endpoint => fun c => i.intercept c (chain rest endpoint)

@[simp] theorem chain_nil (endpoint : Handler β) : chain [] endpoint = endpoint := rfl

@[simp] theorem chain_cons (i : Interceptor β) (rest : List (Interceptor β))
    (endpoint : Handler β) (c : Context) :
    chain (i :: rest) endpoint c = i.intercept c (chain rest endpoint) := rfl

variable [Driver β]

/-- The note of a statement that is about to run. -/
def accessNote (c : Context) : Note :=
  ⟨.info, "Executing statement",
    [("kind", c.kind.name), ("table", c.table), ("sql", c.query.sql),
      ("args", toString c.query.args.length)]⟩

/-- The note of a statement that has run. -/
def costNote (c : Context) (r : Except Error Output) : Note :=
  ⟨.info, "Statement finished",
    [("kind", c.kind.name), ("table", c.table), ("ok", if r.toBool then "true" else "false")]⟩

def ofBuiltin (b : BuiltinInterceptor) : Interceptor β where
  display := b.display
  intercept c next :=
    match b with
    | .accessLog => (Site.note (accessNote c)).bind fun _ => next c
    | .costTime => (next c).bind fun r => (Site.note (costNote c r)).bind fun _ => .done r

end Interceptor

end EntityStore
