import EntityStore.Model.Entity
import EntityStore.Rows

/-!
# Rows into records and back

Two strategies copy a row into a record: one addresses the fields by name, the other by position.
Both first settle which field each column stands for, so an unknown column leaves the record as it
is; then the values are written from left to right up to the first that does not fit.
-/

namespace EntityStore

/-- How fields are addressed. -/
inductive Materializer where
  | reflective
  | positional
deriving DecidableEq, Repr, Inhabited

namespace Materializer

/-- The name of a strategy. -/
def name : Materializer → String
  | reflective => "reflective"
  | positional => "positional"

/-- The fields that the columns of a row stand for. -/
def resolveColumns (m : TableModel) : List String → Except Error (List Field)
  | [] => .ok []
  | c :: rest =>
    match m.fieldForRowColumn? c with
    | none => .error (.result (.columnNotInSchema c))
    | some f =>
      match resolveColumns m rest with
      | .ok fs => .ok (f :: fs)
      | .error e => .error e

/-- The fields that the columns of a row stand for, if there are not too many columns. -/
def resolveRow (m : TableModel) (columns : List String) : Except Error (List Field) :=
  if m.columnCount < columns.length then
    .error (.result (.columnCountMismatch m.columnCount columns.length))
  else resolveColumns m columns

variable {ρ : Type} [Record ρ]

/-- Writes one field of a record. -/
def writeField (k : Materializer) (r : ρ) (f : Field) (v : Value) : Except ValueError ρ :=
  match k with
  | reflective => Record.set r f.name v
  | positional => Record.setAt r f.offset v

/-- Reads one field of a record. -/
def readField (k : Materializer) (r : ρ) (f : Field) : Except ValueError Value :=
  match k with
  | reflective => Record.get r f.name
  | positional => Record.getAt r f.offset

/-- Writes values into fields from left to right: the record after the last write that succeeded,
and the failure of the next one, if any. -/
def writeFields (k : Materializer) (r : ρ) : List (Field × Value) → ρ × Option Error
  | [] => (r, none)
  | (f, v) :: rest =>
    match k.writeField r f v with
    | .ok r' => k.writeFields r' rest
    | .error err => (r, some (.ofValue err))

/-- Copies a row into a record: the record afterwards, and the failure, if any. -/
def copyRow (k : Materializer) (m : TableModel) (columns : List String) (row : List Value)
    (r : ρ) : ρ × Option Error :=
  match resolveRow m columns with
  | .ok fields => k.writeFields r (fields.zip row)
  | .error err => (r, some err)

/-- The value of the field with a given name. -/
def readColumn (k : Materializer) (m : TableModel) (r : ρ) (name : String) :
    Except Error Value :=
  match m.field? name with
  | none => .error (.result (.columnNotInSchema name))
  | some f =>
    match k.readField r f with
    | .ok v => .ok v
    | .error err => .error (.ofValue err)

/-- A new record with a row copied into it. -/
def materialize (k : Materializer) (ρ : Type) [Record ρ] [Inhabited ρ] (m : TableModel)
    (columns : List String) (row : List Value) : Except Error ρ :=
  match k.copyRow m columns row (default : ρ) with
  | (e, none) => .ok e
  | (_, some err) => .error err

/-- A record per row, or the failure of the first row that has one. -/
def materializeRows (k : Materializer) (ρ : Type) [Record ρ] [Inhabited ρ] (m : TableModel)
    (columns : List String) : List (List Value) → Except Error (List ρ)
  | [] => .ok []
  | row :: rest =>
    match k.materialize ρ m columns row with
    | .error err => .error err
    | .ok e =>
      match k.materializeRows ρ m columns rest with
      | .error err => .error err
      | .ok es => .ok (e :: es)

/-- A record per row of a result set. -/
def materializeAll (k : Materializer) (ρ : Type) [Record ρ] [Inhabited ρ] (m : TableModel)
    (rows : Rows) : Except Error (List ρ) :=
  k.materializeRows ρ m rows.columns rows.rows

end Materializer

end EntityStore
