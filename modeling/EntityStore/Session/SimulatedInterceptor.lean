import EntityStore.Session.Interceptor
import EntityStore.Session.Simulation

/-!
# Simulated interceptors

Interceptors that use all the freedom a chain gives them: they write down what passes, answer by
themselves, exchange results, fail, or run the rest of the chain twice.
-/

namespace EntityStore.Simulation

/-- Writes something down, as work of a session. -/
def log (e : Event) : Work Simulation Unit := Site.ofDriver (record e)

def resultText : Except Error Output → String
  | .ok (.rows r) => "rows " ++ toString r.size
  | .ok (.exec r) => "exec " ++ toString r.rowsAffected
  | .error e => "error " ++ e.message

/-- Writes down what goes in and what comes out. -/
def tracing (label : String) : Interceptor Simulation where
  display := "Trace"
  intercept c next :=
    (log (.entered label c.kind.name c.kind.isRead c.table c.query.sql c.options)).bind fun _ =>
      (next c).bind fun r => (log (.left label (resultText r))).bind fun _ => .done r

/-- Answers the statements of one kind by itself. -/
def canned (kind : String) (rows : Rows) : Interceptor Simulation where
  display := "Canned"
  intercept c next := if c.kind.name = kind then .done (.ok (.rows rows)) else next c

/-- Answers a read like a write, and a write like a read. -/
def swapping : Interceptor Simulation where
  display := "Swap"
  intercept c _ := .done (.ok (if c.kind.isRead then .exec {} else .rows {}))

def failing (message : String) : Interceptor Simulation where
  display := "Fail"
  intercept _ _ := .done (.error (.connectivity (.queryFailed message)))

/-- Runs the rest of the chain twice and keeps the second result. -/
def repeating : Interceptor Simulation where
  display := "Twice"
  intercept c next := (next c).bind fun _ => next c

end EntityStore.Simulation
