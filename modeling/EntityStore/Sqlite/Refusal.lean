/-!
# Refusals

Why a statement is not run. A statement that is refused changes nothing.
-/

namespace EntityStore.Sqlite

/-- Why a statement is refused. -/
inductive Refusal where
  /-- It cannot be read. -/
  | malformed
  /-- There is none. -/
  | nothing
  | unknownTable (name : String)
  | unknownColumn (name : String)
  /-- An aggregate where there are no groups. -/
  | misplacedAggregate
  /-- Another number of arguments than of placeholders. -/
  | argumentCount (expected actual : Nat)
  /-- A row with another number of values than of columns. -/
  | valueCount (expected actual : Nat)
  /-- All columns of no table. -/
  | noTable
  /-- A key that is no integer. -/
  | keyType
  /-- A key that exists already. -/
  | keyExists (table : String)
  /-- No key is left. -/
  | keysExhausted
  /-- Nothing in a column that needs a value. -/
  | missingValue (column : String)
  /-- A row that refers to a row that does not exist. -/
  | brokenReference
  /-- A limit that is no integer. -/
  | limitType
  /-- Groups of several rows. -/
  | sharedGroup
  /-- Rows where none are expected. -/
  | returnsRows
  /-- No transaction is open. -/
  | noTransaction
  /-- A transaction is open already. -/
  | nestedTransaction
  /-- Another connection holds a lock. -/
  | locked
deriving DecidableEq, Inhabited

/-- Whether a refusal comes from the rows, and not from the statement alone. -/
def Refusal.isLate : Refusal → Bool
  | keyType => true
  | keyExists _ => true
  | keysExhausted => true
  | missingValue _ => true
  | brokenReference => true
  | limitType => true
  | returnsRows => true
  | _ => false

def Refusal.message : Refusal → String
  | malformed => "syntax error"
  | nothing => "no statement"
  | unknownTable n => "no such table: " ++ n
  | unknownColumn n => "no such column: " ++ n
  | misplacedAggregate => "misuse of aggregate"
  | argumentCount e a => toString e ++ " arguments expected, " ++ toString a ++ " given"
  | valueCount e a => toString a ++ " values for " ++ toString e ++ " columns"
  | noTable => "no tables specified"
  | keyType => "datatype mismatch"
  | keyExists t => "UNIQUE constraint failed: " ++ t
  | keysExhausted => "database or disk is full"
  | missingValue c => "NOT NULL constraint failed: " ++ c
  | brokenReference => "FOREIGN KEY constraint failed"
  | limitType => "datatype mismatch"
  | sharedGroup => "groups of several rows are not supported"
  | returnsRows => "the statement returned rows"
  | noTransaction => "no transaction is active"
  | nestedTransaction => "cannot start a transaction within a transaction"
  | locked => "database is locked"

end EntityStore.Sqlite
