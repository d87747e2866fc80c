import EntityStore.Error
import EntityStore.Rows
import EntityStore.Sqlite.Handle
import EntityStore.Sqlite.SharedStore

/-!
# Errands

Work on a store is done by somebody else while the caller waits for the answer. Such an errand needs
one of a limited number of workers first. Then it waits for a free connection of a pool, or until
nobody else is on the connection of its transaction, and possibly for a lock of the store. It is seen
through to its end even if the caller has stopped waiting.
-/

namespace EntityStore.Sqlite

/-- What somebody is sent to do. -/
inductive Errand where
  /-- A statement on a free connection of a pool. -/
  | statement (pool : Nat) (isRead : Bool) (q : Query)
  /-- The beginning of a transaction on a free connection of a pool. -/
  | beginOn (pool : Nat)
  /-- An action on the connection of a transaction. -/
  | within (transaction : Nat) (a : Action)
deriving DecidableEq

/-- What comes back from an errand. -/
inductive Reply where
  | rows (r : Rows)
  | result (r : ExecResult)
  | begun (transaction : Nat)
  /-- The transaction has ended. -/
  | ended
deriving DecidableEq

namespace Reply

def toRows : Reply → Rows
  | rows r => r
  | _ => {}

/-- What a reply says was done. -/
def toResult : Reply → ExecResult
  | result r => r
  | _ => {}

/-- The transaction that has begun. -/
def toTransaction : Reply → Nat
  | begun t => t
  | _ => 0

end Reply

/-! ## Actions on a store -/

namespace Attempt

variable {α β : Type}

/-- Goes on with a success. -/
def andThen (f : α → Except Refusal β) : Attempt α → Attempt β
  | done a =>
    match f a with
    | .ok b => done b
    | .error r => refused r
  | refused r => refused r
  | blocked => blocked

end Attempt

namespace SharedStore

/-- Runs the first statement of a text on a connection. -/
def runText (s : SharedStore) (connection : Nat) (q : Query) : Attempt Outcome × SharedStore :=
  match Parsed.ofString q.sql with
  | .nothing => (.refused .nothing, s)
  | .malformed => (.refused .malformed, s)
  | .statement st placeholders _ =>
    if placeholders = q.args.length then s.run connection (q.args.map Datum.ofValue) st
    else (.refused (.argumentCount placeholders q.args.length), s)

def rowsOf (o : Outcome) : Rows := ⟨o.columns, o.rows.map (·.map Datum.toValue)⟩

/-- What a write did; a statement with rows is refused. -/
def resultOf (o : Outcome) : Except Refusal ExecResult :=
  if o.rows.isEmpty then .ok ⟨o.changed, o.lastId⟩ else .error .returnsRows

/-- Carries out an action on a connection. -/
def perform (s : SharedStore) (connection : Nat) : Action → Attempt Reply × SharedStore
  | .query q =>
    match s.runText connection q with
    | (r, s) => (r.andThen fun o => .ok (.rows (rowsOf o)), s)
  | .exec q =>
    match s.runText connection q with
    | (r, s) => (r.andThen fun o => (resultOf o).map .result, s)
  | .commit =>
    match s.commit connection with
    | (r, s) => (r.andThen fun _ => .ok .ended, s)
  | .rollback =>
    match s.rollback connection with
    | (r, s) => (r.andThen fun _ => .ok .ended, s)

end SharedStore

/-! ## Errands -/

/-- How far an errand has come. Moments are in milliseconds. -/
inductive Stage where
  /-- It waits for a worker. -/
  | queued
  /-- It waits for a free connection, until a given moment. -/
  | connecting (limit : Nat)
  /-- It waits until nobody else is on the connection of its transaction. -/
  | entering
  /-- It is on a connection and waits for a lock of the store, until a given moment. -/
  | blocked (connection limit : Nat)
  /-- It has come to its end. -/
  | ended (r : Except Error Reply)
deriving Inhabited

namespace Stage

/-- The moment at which an errand stops waiting. -/
def limit? : Stage → Option Nat
  | connecting limit => some limit
  | blocked _ limit => some limit
  | _ => none

/-- Whether an errand is not at its end. -/
def isOpen : Stage → Bool
  | ended _ => false
  | _ => true

/-- Whether an errand has a connection or is the next to have it. -/
def isInside : Stage → Bool
  | entering => true
  | blocked .. => true
  | _ => false

/-- Whether an errand is on a connection. -/
def isBlocked : Stage → Bool
  | blocked .. => true
  | _ => false

end Stage

/-- An errand that somebody was sent on. -/
structure Task where
  /-- What is to be done. -/
  errand : Errand
  /-- How far it has come. -/
  stage : Stage := .queued

/-- Whether an errand belongs to a transaction. -/
def Task.isWithin (t : Task) (transaction : Nat) : Bool :=
  match t.errand with
  | .within u _ => u == transaction
  | _ => false

end EntityStore.Sqlite
