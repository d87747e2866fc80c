import EntityStore.Value.Basic

/-!
# Result sets

A result set has column names and rows of values. A row may be shorter or longer than the columns;
only values that stand under a column are seen.
-/

namespace EntityStore

/-- A result set that has been read to its end. -/
structure Rows where
  /-- The names of the columns. -/
  columns : List String := []
  rows : List (List Value) := []
deriving DecidableEq, Inhabited

namespace Rows

/-- The number of rows. -/
def size (r : Rows) : Nat := r.rows.length

/-- Whether there are no rows. -/
def isEmpty (r : Rows) : Bool := r.rows.isEmpty

/-- The rows of `r` and then those of `s`; the columns of `s` only count if `r` has none. -/
def append (r s : Rows) : Rows :=
  ⟨if r.columns.isEmpty then s.columns else r.columns, r.rows ++ s.rows⟩

def pairs (columns : List String) (row : List Value) : List (String × Value) := columns.zip row

/-- The value under the first column of a given name. -/
def get? (columns : List String) (row : List Value) (column : String) : Option Value :=
  match columns.findIdx? (· == column) with
  | some i => row[i]?
  | none => none

@[simp] theorem size_append (r s : Rows) : (r.append s).size = r.size + s.size := by
  simp [append, size]

end Rows

/-- What a write did. -/
structure ExecResult where
  /-- The number of rows changed. -/
  rowsAffected : Nat := 0
  /-- The row id of the last insert, if it is known. -/
  lastInsertId : Option Int64 := none
deriving DecidableEq, Inhabited

end EntityStore
