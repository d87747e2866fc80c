import EntityStore.Sqlite.Condition

/-!
# Tables

A table has columns and rows. Every row has an id, and the rows are kept in ascending order of it; the
column that is the key, if there is one, shows the id. A row is put into a table only if its values
have the types of the columns, no value that is needed is missing, and its key is new.
-/

namespace EntityStore.Sqlite

/-- A column of a table. -/
structure Column where
  name : String
  type : ColumnType := .untyped
  /-- Whether it needs a value. -/
  required : Bool := false
  isKey : Bool := false
  /-- The table whose keys it refers to. -/
  references : Option String := none
deriving DecidableEq, Inhabited

/-- A row of a table. -/
structure Row where
  id : Int64
  /-- The values, one for each column. -/
  values : List Datum
deriving DecidableEq, Inhabited

structure Table where
  name : String
  columns : List Column
  /-- The rows, in ascending order of their ids. -/
  rows : List Row := []
deriving DecidableEq, Inhabited

namespace Table

/-! ## Rows -/

/-- Puts a row among others in ascending order of the ids. -/
def insertSorted (r : Row) : List Row → List Row
  | [] => [r]
  | s :: rest => if r.id < s.id then r :: s :: rest else s :: insertSorted r rest

/-- The table with one row more. -/
def add (t : Table) (r : Row) : Table := { t with rows := insertSorted r t.rows }

def erase (t : Table) (id : Int64) : Table := { t with rows := t.rows.filter (·.id ≠ id) }

def find? (t : Table) (id : Int64) : Option Row := t.rows.find? (·.id = id)

@[simp] theorem length_insertSorted (r : Row) (rows : List Row) :
    (insertSorted r rows).length = rows.length + 1 := by
  induction rows with
  | nil => rfl
  | cons s rest ih =>
    simp only [insertSorted]
    split <;> simp [ih]

theorem mem_insertSorted {r s : Row} {rows : List Row} :
    s ∈ insertSorted r rows ↔ s = r ∨ s ∈ rows := by
  induction rows with
  | nil => simp [insertSorted]
  | cons a rest ih =>
    simp only [insertSorted]
    split
    · simp
    · simp only [List.mem_cons, ih]
      grind

theorem mem_rows_erase {t : Table} {id : Int64} {r : Row} :
    r ∈ (t.erase id).rows ↔ r ∈ t.rows ∧ r.id ≠ id := by
  simp [erase]

/-- The id after the greatest one: one in a table without rows, none after the greatest integer. -/
def nextId? (t : Table) : Option Int64 :=
  match t.rows.getLast? with
  | none => some 1
  | some r => if r.id = Int64.maxValue then none else some (r.id + 1)

/-! ## Columns -/

def keyPlace? (t : Table) : Option Nat := t.columns.findIdx? (·.isKey)

/-- The place of a column. -/
def place (t : Table) (name : String) : Except Refusal Nat :=
  match t.columns.findIdx? fun c => sameName c.name name with
  | some i => .ok i
  | none => .error (.unknownColumn name)

/-- The columns as an expression names them, under a given name of the table. -/
def scopeAs (t : Table) (name : String) : List ScopeColumn :=
  t.columns.map fun c => ⟨name, c.name, c.type⟩

/-- The columns as an expression names them. -/
def scope (t : Table) : List ScopeColumn := t.scopeAs t.name

/-! ## Checked values -/

/-- The values as the columns store them. -/
def stored (t : Table) (values : List Datum) : List Datum :=
  t.columns.zipWith (fun c d => c.type.store d) values

/-- The values as a change of an existing row sees them: not stored yet, but with numbers in real
columns. -/
def offered (t : Table) (values : List Datum) : List Datum :=
  t.columns.zipWith (fun c d => if c.type = .real then ColumnType.toReal d else d) values

/-- The id that some stored values ask for. -/
def keyOf (t : Table) (values : List Datum) : Except Refusal (Option Int64) :=
  match t.keyPlace? with
  | none => .ok none
  | some i =>
    match values[i]?.getD .null with
    | .null => .ok none
    | .int id => .ok (some id)
    | _ => .error .keyType

/-- Refuses values of which one that is needed is missing; the key may be. -/
def checkRequired (t : Table) (values : List Datum) : Except Refusal Unit :=
  match (t.columns.zip values).find? fun (c, d) => c.required && !c.isKey && d.isNull with
  | some (c, _) => .error (.missingValue (t.name ++ "." ++ c.name))
  | none => .ok ()

/-- The values with the id in the place of the key. -/
def withKey (t : Table) (id : Int64) (values : List Datum) : List Datum :=
  match t.keyPlace? with
  | some i => values.set i (.int id)
  | none => values

/-- Puts a row with new values in the place of another. -/
def replace (t : Table) (old : Row) (values : List Datum) : Except Refusal Table := do
  let values := t.stored values
  let key ← t.keyOf values
  let id ← match t.keyPlace?, key with
    | none, _ => .ok old.id
    | some _, some id => .ok id
    | some _, none => .error .keyType
  t.checkRequired values
  let rest := t.erase old.id
  if (rest.find? id).isSome then throw (.keyExists t.name)
  return rest.add ⟨id, values⟩

end Table

end EntityStore.Sqlite
