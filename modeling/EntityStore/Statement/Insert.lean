import EntityStore.Model.Materializer
import EntityStore.Statement.Clauses

/-!
# Inserts

An insert writes some or all fields of at least one record, and may say what happens to rows that exist
already. Every value is an argument.
-/

namespace EntityStore

/-- What an insert is made of. -/
structure Insert (ρ : Type) where
  /-- The records. -/
  rows : List ρ := []
  /-- The fields to write; all of them if none is named. -/
  fields : List String := []
  /-- What happens to rows that exist already. -/
  upsert : Option (List Assignment) := none
  options : CallOptions := {}

namespace Insert

variable {ρ : Type}

def writtenFields (i : Insert ρ) (m : TableModel) : List String :=
  if i.fields.isEmpty then m.fields.map (·.name) else i.fields

/-- A list between parentheses. -/
def tuple (items : List Template) : Template := (Template.commaList items).parenthesized

variable [Record ρ]

/-- The argument for one field of a record. -/
def cell (k : Materializer) (m : TableModel) (r : ρ) (field : String) : Template :=
  match k.readColumn m r field with
  | .ok v => [.argument v]
  | .error err => [.refuse err]

/-- The arguments for one record. -/
def rowTemplate (k : Materializer) (m : TableModel) (fields : List String) (r : ρ) :
    Template :=
  tuple (fields.map (cell k m r))

/-- The pieces of an insert. -/
def template (i : Insert ρ) (d : Dialect) (k : Materializer) (m : TableModel) : Template :=
  let fields := i.writtenFields m
  .text ("INSERT INTO " ++ Clauses.modelTable m) :: tuple (fields.map Template.quotedColumn) ++
    .text " VALUES" :: Template.commaList (i.rows.map (rowTemplate k m fields)) ++
    (match i.upsert with
      | none => []
      | some assignments => d.upsert assignments) ++
    [.text ";"]

def query (i : Insert ρ) (d : Dialect) (k : Materializer) (m : TableModel) : Except Error Query :=
  (i.template d k m).toQuery m

end Insert

end EntityStore
