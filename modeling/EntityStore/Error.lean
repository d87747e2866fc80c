import EntityStore.Value.Basic

/-!
# Errors

Errors are grouped by what went wrong: a type cannot be mapped to a table, a query names something
unknown or has no meaning, a result does not fit the record, a value does not fit its field, the
driver or the network failed, a transaction ended badly, the configuration is wrong. Every cause has
a code (`code`) and one wording (`message`).
-/

namespace EntityStore

/-- The widths of integer fields. -/
inductive IntWidth where
  | i8 | i16 | i32 | i64 | u8 | u16 | u32
deriving DecidableEq, Repr, Inhabited

namespace IntWidth

def name : IntWidth → String
  | i8 => "i8" | i16 => "i16" | i32 => "i32" | i64 => "i64"
  | u8 => "u8" | u16 => "u16" | u32 => "u32"

/-- The least integer of a width. -/
def min : IntWidth → Int
  | i8 => -128 | i16 => -32_768 | i32 => -2_147_483_648 | i64 => -9_223_372_036_854_775_808
  | u8 => 0 | u16 => 0 | u32 => 0

/-- The greatest integer of a width. -/
def max : IntWidth → Int
  | i8 => 127 | i16 => 32_767 | i32 => 2_147_483_647 | i64 => 9_223_372_036_854_775_807
  | u8 => 255 | u16 => 65_535 | u32 => 4_294_967_295

def fits (w : IntWidth) (i : Int64) : Bool := w.min ≤ i.toInt && i.toInt ≤ w.max

theorem fits_iff {w : IntWidth} {i : Int64} :
    w.fits i = true ↔ w.min ≤ i.toInt ∧ i.toInt ≤ w.max := by
  simp [fits]

end IntWidth

/-- A type that cannot be mapped to a table. -/
inductive SchemaError where
  /-- The type is no record. -/
  | unsupportedType (typeName : String)
  /-- Two fields have one column name. -/
  | duplicateColumn (table column : String)
  /-- Two fields have one mapping key. -/
  | duplicateTag (table tag : String)
deriving DecidableEq

/-- A query that cannot be compiled or routed. -/
inductive QueryError where
  /-- A name that is no field of the model. -/
  | illegalField (field : String)
  /-- A condition on groups without groups. -/
  | missingGroupBy
  /-- An insert without rows. -/
  | zeroRows
  /-- A side of a conjunction or disjunction that is no condition. -/
  | notAPredicate (side : String)
  /-- A comparison whose left side is no column. -/
  | notAColumn
  /-- A comparison whose right side is no literal. -/
  | notAValue
  /-- A sharded statement without a placement scheme. -/
  | noShardingAlgorithm
  /-- A condition that no target can satisfy. -/
  | noDataSource
deriving DecidableEq

/-- A value that does not fit a field. -/
inductive ValueError where
  /-- The value has another type. -/
  | typeMismatch (expected found : ValueType)
  /-- The integer does not fit the width of the field. -/
  | outOfRange (value : Int64) (target : IntWidth)
  /-- NULL for a field that is not nullable. -/
  | unexpectedNull (expected : ValueType)
  /-- The record has no such field or position. -/
  | unknownField (field : String)
deriving DecidableEq

/-- A result that does not fit a record type. -/
inductive ResultError where
  /-- More columns than the model has. -/
  | columnCountMismatch (expected actual : Nat)
  /-- A column that the model does not know. -/
  | columnNotInSchema (column : String)
  /-- No row where one was expected. -/
  | noRows
  /-- A value that does not fit its field. -/
  | value (e : ValueError)
deriving DecidableEq

/-- A failure of the driver or of the network. -/
inductive ConnectivityError where
  /-- A data source name that cannot be read. -/
  | invalidDsn (dsn message : String)
  /-- A domain without addresses. -/
  | resolution (domain message : String)
  /-- A connection that could not be made. -/
  | connectionFailed (backend message : String)
  /-- A statement that failed. -/
  | queryFailed (message : String)
  /-- A deadline that passed. -/
  | timeout (milliseconds : Nat)
  /-- A failure inside the driver. -/
  | internal (backend message : String)
deriving DecidableEq

/-- One wrong entry of the configuration. -/
structure ConfigProblem where
  /-- The entry. -/
  key : String
  /-- What is wrong with it. -/
  message : String
deriving DecidableEq

/-- A configuration that cannot be used. -/
inductive ConfigError where
  /-- One entry is wrong. -/
  | invalid (problem : ConfigProblem)
  /-- The text cannot be read. -/
  | load (message : String)
  /-- Several entries are wrong. -/
  | multiple (problems : List ConfigProblem)
deriving DecidableEq

/-- Any failure of an operation. -/
inductive Error where
  | schema (e : SchemaError)
  | query (e : QueryError)
  | result (e : ResultError)
  | connectivity (e : ConnectivityError)
  | config (e : ConfigError)
  /-- A transaction could not be started. -/
  | beginFailed (message : String)
  /-- A transaction could not be committed. -/
  | commitFailed (message : String)
  /-- A transaction was used after its end. -/
  | invalidTransaction
  /-- The task of a transaction panicked. -/
  | panicked (message : String)
  /-- A task failed, and undoing it failed too. -/
  | rollbackFailed (cause rollback : Error)
deriving DecidableEq

/-! ## Codes -/

def SchemaError.code : SchemaError → String
  | unsupportedType _ => "UnsupportedType"
  | duplicateColumn .. => "DuplicateColumn"
  | duplicateTag .. => "DuplicateTag"

def QueryError.code : QueryError → String
  | illegalField _ => "IllegalField"
  | missingGroupBy => "MissingGroupBy"
  | zeroRows => "ZeroRows"
  | notAPredicate _ => "NotAPredicate"
  | notAColumn => "NotAColumn"
  | notAValue => "NotAValue"
  | noShardingAlgorithm => "NoShardingAlgorithm"
  | noDataSource => "NoDataSource"

def ValueError.code : ValueError → String
  | typeMismatch .. => "TypeMismatch"
  | outOfRange .. => "OutOfRange"
  | unexpectedNull _ => "UnexpectedNull"
  | unknownField _ => "UnknownField"

def ResultError.code : ResultError → String
  | columnCountMismatch .. => "ColumnCountMismatch"
  | columnNotInSchema _ => "ColumnNotInSchema"
  | noRows => "NoRows"
  | value e => "Value." ++ e.code

/-- The code of a driver or network error. -/
def ConnectivityError.code : ConnectivityError → String
  | invalidDsn .. => "InvalidDsn"
  | resolution .. => "Resolution"
  | connectionFailed .. => "ConnectionFailed"
  | queryFailed _ => "QueryFailed"
  | timeout _ => "Timeout"
  | internal .. => "Internal"

def ConfigError.code : ConfigError → String
  | invalid _ => "Invalid"
  | load _ => "Load"
  | multiple _ => "Multiple"

namespace Error

/-- The code of an error: its class and its cause, which stay the same whatever the wording. -/
def code : Error → String
  | schema e => "Schema." ++ e.code
  | query e => "Query." ++ e.code
  | result e => "Result." ++ e.code
  | connectivity e => "Connectivity." ++ e.code
  | config e => "Config." ++ e.code
  | beginFailed _ => "Transaction.BeginFailed"
  | commitFailed _ => "Transaction.CommitFailed"
  | invalidTransaction => "Transaction.InvalidTransaction"
  | panicked _ => "Transaction.Panicked"
  | rollbackFailed .. => "Transaction.RollbackFailed"

end Error

/-! ## Wording -/

def SchemaError.message : SchemaError → String
  | unsupportedType n => "unsupported type: " ++ n ++ " is not a record"
  | duplicateColumn t c => "duplicate column `" ++ c ++ "` in table `" ++ t ++ "`"
  | duplicateTag t k => "duplicate field tag `" ++ k ++ "` in table `" ++ t ++ "`"

def QueryError.message : QueryError → String
  | illegalField f => "illegal field: " ++ f
  | missingGroupBy => "missing group by: HAVING requires a GROUP BY clause"
  | zeroRows => "insert zero row"
  | notAPredicate side => side ++ " operand is not a predicate"
  | notAColumn => "left operand is not a column"
  | notAValue => "right operand is not a value"
  | noShardingAlgorithm => "no sharding algorithm configured"
  | noDataSource => "predicate does not match any data source"

def ValueError.message : ValueError → String
  | typeMismatch e f => "type mismatch: expected " ++ e.name ++ ", found " ++ f.name
  | outOfRange v t => "value " ++ toString v.toInt ++ " out of range for " ++ t.name
  | unexpectedNull e => "unexpected NULL for non-nullable " ++ e.name
  | unknownField f => "unknown field: " ++ f

def ResultError.message : ResultError → String
  | columnCountMismatch e a =>
    "column count mismatch: schema has " ++ toString e ++ " columns, row has " ++ toString a
  | columnNotInSchema c => "column `" ++ c ++ "` from result set is not in schema"
  | noRows => "query returned no rows"
  | value e => e.message

/-- The wording of a driver or network error. -/
def ConnectivityError.message : ConnectivityError → String
  | invalidDsn d m => "invalid connection string `" ++ d ++ "`: " ++ m
  | resolution d m => "failed to resolve `" ++ d ++ "`: " ++ m
  | connectionFailed b m => "connection failed to " ++ b ++ ": " ++ m
  | queryFailed m => "query execution failed: " ++ m
  | timeout n => "operation timed out after " ++ toString n ++ "ms"
  | internal b m => "internal error in " ++ b ++ ": " ++ m

/-- The wording of one wrong entry. -/
def ConfigProblem.text (p : ConfigProblem) : String :=
  "invalid configuration for `" ++ p.key ++ "`: " ++ p.message

def ConfigError.message : ConfigError → String
  | invalid p => p.text
  | load m => "failed to load configuration: " ++ m
  | multiple ps =>
    toString ps.length ++ " configuration problems: " ++
      String.intercalate "; " (ps.map ConfigProblem.text)

namespace Error

def message : Error → String
  | schema e => e.message
  | query e => e.message
  | result e => e.message
  | connectivity e => e.message
  | config e => e.message
  | beginFailed m => "failed to begin transaction: " ++ m
  | commitFailed m => "failed to commit transaction: " ++ m
  | invalidTransaction => "transaction no longer valid"
  | panicked m => "transaction task panicked: " ++ m
  | rollbackFailed c r => c.message ++ "; rollback also failed: " ++ r.message

/-! ## Classes -/

/-- Whether the query itself is at fault, and not its execution. -/
def isQueryError : Error → Bool
  | schema _ => true
  | query _ => true
  | _ => false

/-- Whether a deadline passed. -/
def isTimeout : Error → Bool
  | connectivity (.timeout _) => true
  | _ => false

/-- The error of a value that does not fit its field. -/
abbrev ofValue (e : ValueError) : Error := result (.value e)

end Error

end EntityStore
