import EntityStore.Expr
import EntityStore.Sqlite.Lexeme

/-!
# Statements

What a statement says, before its names are looked up. A select has items, and may have a table,
conditions, groups, orders and a limit; the other statements change one table or end a transaction.
-/

namespace EntityStore.Sqlite

/-- An expression. -/
inductive Scalar where
  | literal (d : Datum)
  /-- The placeholder of a given place in the statement. -/
  | placeholder (place : Nat)
  /-- A column, with the table if it is written. -/
  | column (table : Option String) (name : String)
  | rowCount
  | aggregate (a : Aggregate) (column : String)
  /-- Bytes taken for a text. -/
  | asText (e : Scalar)
  | compare (op : Comparison) (left right : Scalar)
  | and (left right : Scalar)
  | or (left right : Scalar)
  | not (e : Scalar)
deriving DecidableEq, Inhabited

namespace Scalar

/-- The height of an expression as a tree. -/
def height : Scalar → Nat
  | asText e => e.height + 1
  | compare _ l r => max l.height r.height + 1
  | and l r => max l.height r.height + 1
  | or l r => max l.height r.height + 1
  | not e => e.height + 1
  | aggregate _ _ => 2
  | _ => 1

/-- The greatest height that is accepted. -/
def heightLimit : Nat := 1000

end Scalar

/-- A column of the result of a select. -/
inductive Item where
  /-- All columns of the table. -/
  | all
  /-- An expression with its name, if it has one, and as it is written. -/
  | scalar (e : Scalar) (name : Option String) (source : String)
deriving DecidableEq, Inhabited

/-- Whether the columns of an item have names that can be referred to. -/
def Item.isNamed : Item → Bool
  | all => true
  | scalar _ name _ => name.isSome

/-- The name of a table, with the database if it is written. -/
structure TableName where
  database : Option String := none
  /-- The table. -/
  name : String
deriving DecidableEq, Inhabited

structure Selection where
  /-- The columns of the result. -/
  items : List Item
  table : Option TableName := none
  /-- The condition on rows. -/
  condition : Option Scalar := none
  /-- The columns to group by. -/
  groups : List String := []
  /-- The condition on groups. -/
  having : Option Scalar := none
  orders : List (String × Direction) := []
  /-- The greatest number of rows. -/
  limit : Option Scalar := none
  /-- The number of rows to leave out. -/
  offset : Option Scalar := none
deriving DecidableEq, Inhabited

/-- The new values of some columns. -/
abbrev Changes := List (String × Scalar)

inductive Statement where
  | select (s : Selection)
  /-- New rows; with the columns that are given, and with what happens to rows that exist already. -/
  | insert (table : TableName) (columns : Option (List String)) (rows : List (List Scalar))
      (onConflict : Option Changes)
  | update (table : TableName) (changes : Changes) (condition : Option Scalar)
  | delete (table : TableName) (condition : Option Scalar)
  | commit
  | rollback
deriving DecidableEq, Inhabited

namespace Statement

/-- Whether a statement only reads. -/
def isSelect : Statement → Bool
  | select _ => true
  | _ => false

def changed? : Statement → Option TableName
  | insert t .. => some t
  | update t .. => some t
  | delete t .. => some t
  | _ => none

/-- The table that a statement reads or changes. -/
def table? : Statement → Option TableName
  | select s => s.table
  | s => s.changed?

end Statement

end EntityStore.Sqlite
