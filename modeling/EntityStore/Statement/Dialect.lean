import EntityStore.Expr

/-!
# Dialects

Two families of engines write the conflict clause of an insert differently: what to do with a row
whose key exists, and how to refer to the value the insert tried to write.
-/

namespace EntityStore

/-- A family of engines. -/
inductive Dialect where
  | mysql
  | sqlite
deriving DecidableEq, Repr, Inhabited

def Dialect.name : Dialect → String
  | mysql => "mysql"
  | sqlite => "sqlite"

/-- What an upsert does to one column of a row that exists. -/
inductive Assignment where
  /-- The column takes the value the insert tried to write. -/
  | inserted (field : String)
  /-- The column takes a given value. -/
  | value (field : String) (v : Value)
deriving DecidableEq, Inhabited

namespace Dialect

/-- The text that opens a conflict clause. -/
def conflictOpening : Dialect → String
  | mysql => " ON DUPLICATE KEY UPDATE "
  | sqlite => " ON CONFLICT DO UPDATE SET "

/-- The pieces that stand for the value the insert tried to write. -/
def insertedValue : Dialect → String → Piece
  | mysql, field => .column "=VALUES(`" field "`)"
  | sqlite, field => .column "=excluded.`" field "`"

/-- The pieces of one assignment. -/
def assignment (d : Dialect) : Assignment → Template
  | .inserted field => Template.quotedColumn field ++ [d.insertedValue field]
  | .value field v => Template.quotedColumn field ++ [.text "=", .argument v]

/-- The conflict clause for a list of assignments. -/
def upsert (d : Dialect) (assignments : List Assignment) : Template :=
  .text d.conflictOpening :: Template.commaList (assignments.map d.assignment)

end Dialect

end EntityStore
