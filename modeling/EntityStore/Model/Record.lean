import EntityStore.Model.Table

/-!
# Records

A record type has a name and fields, and each field knows what a record holds in it and how a value is
written to it. The type of a field is open: it may refuse a value, and it may hold what is no value
itself. From the fields come the description of the type and two ways to address a field of a record,
by its name and by its position.
-/

namespace EntityStore

/-- A field of the records `ρ`. -/
structure RecordField (ρ : Type) where
  /-- The shape of the field. -/
  descriptor : FieldDescriptor
  /-- The value of the field in a record. -/
  get : ρ → Except ValueError Value
  /-- The record with a value written to the field. -/
  set : ρ → Value → Except ValueError ρ

/-- A record type that rows can be copied into. -/
class Record (ρ : Type) where
  /-- The name of the type. -/
  typeName : String
  /-- The fields in declaration order. -/
  fields : List (RecordField ρ)

namespace Record

variable {ρ : Type} [Record ρ]

/-- The shape of a record type. -/
def descriptor (ρ : Type) [Record ρ] : TypeDescriptor :=
  .record (typeName ρ) ((fields : List (RecordField ρ)).map (·.descriptor))

/-- The field with a given name. -/
def field? (ρ : Type) [Record ρ] (name : String) : Option (RecordField ρ) :=
  fields.find? (·.descriptor.name == name)

/-- Reads the field at a position. -/
def getAt (r : ρ) (i : Nat) : Except ValueError Value :=
  match (fields : List (RecordField ρ))[i]? with
  | some f => f.get r
  | none => .error (.unknownField (toString i))

/-- Writes the field at a position. -/
def setAt (r : ρ) (i : Nat) (v : Value) : Except ValueError ρ :=
  match (fields : List (RecordField ρ))[i]? with
  | some f => f.set r v
  | none => .error (.unknownField (toString i))

/-- Reads the field with a given name. -/
def get (r : ρ) (name : String) : Except ValueError Value :=
  match field? ρ name with
  | some f => f.get r
  | none => .error (.unknownField name)

/-- Writes the field with a given name. -/
def set (r : ρ) (name : String) (v : Value) : Except ValueError ρ :=
  match field? ρ name with
  | some f => f.set r v
  | none => .error (.unknownField name)

end Record

end EntityStore
