import EntityStore.Error
import EntityStore.Text.Case

/-!
# Table models

A record type is described by its name and fields, possibly behind pointers. Its table and columns
are named in lower case with an underscore before each upper-case letter except a leading one
(`underscoreName`). `TableModel.ofDescriptor` refuses a record in which two fields share a column or a
mapping key, so a look-up by name, key or column finds at most one field.
-/

namespace EntityStore

/-! ## Descriptors -/

/-- A field of a described record. -/
structure FieldDescriptor where
  /-- The name of the field. -/
  name : String
  /-- The mapping key, if it is not the name. -/
  tag : Option String
  /-- The type of the field. -/
  type : ValueType
  /-- Whether the field takes NULL. -/
  nullable : Bool
deriving DecidableEq, Inhabited

namespace FieldDescriptor

/-- The mapping key of a field: its tag, or its name. -/
def key (f : FieldDescriptor) : String := f.tag.getD f.name

end FieldDescriptor

/-- The shape of a type. -/
inductive TypeDescriptor where
  /-- A record with fields in declaration order. -/
  | record (name : String) (fields : List FieldDescriptor)
  /-- A pointer to another type. -/
  | indirect (inner : TypeDescriptor)
  /-- A single value. -/
  | scalar (type : ValueType)
  | collection (name : String)
deriving DecidableEq, Inhabited

namespace TypeDescriptor

/-- The type behind all pointers. -/
def resolve : TypeDescriptor → TypeDescriptor
  | indirect inner => inner.resolve
  | d => d

/-- The name of a type in messages. -/
def typeName : TypeDescriptor → String
  | record name _ => name
  | indirect inner => "&" ++ inner.typeName
  | scalar type => type.name
  | collection name => name

@[simp] theorem resolve_indirect (d : TypeDescriptor) : (indirect d).resolve = d.resolve := rfl

@[simp] theorem resolve_resolve (d : TypeDescriptor) : d.resolve.resolve = d.resolve := by
  induction d with
  | indirect inner ih => exact ih
  | _ => rfl

end TypeDescriptor

/-! ## Names -/

/-- The characters of a name from position `first` on: an upper-case letter is lowered, with an
underscore in front unless it leads the name. -/
def underscoreChars (leading : Bool) : List Char → List Char
  | [] => []
  | c :: rest =>
    let tail := underscoreChars false rest
    if Text.isUpper c then
      if leading then Text.lower c ++ tail else '_' :: Text.lower c ++ tail
    else c :: tail

/-- The name of the table or column for the name of a record or field. -/
def underscoreName (name : String) : String :=
  String.ofList (underscoreChars true name.toList)

@[simp] theorem underscoreChars_nil (leading : Bool) : underscoreChars leading [] = [] := rfl

/-- A name without upper-case letters stays as it is. -/
theorem underscoreChars_of_lower (leading : Bool) (s : List Char)
    (h : ∀ c ∈ s, Text.isUpper c = false) : underscoreChars leading s = s := by
  induction s generalizing leading with
  | nil => rfl
  | cons c rest ih =>
    simp only [underscoreChars, h c (by simp)]
    simp [ih false fun d hd => h d (by simp [hd])]

/-! ## Models -/

/-- A field of a table model. -/
structure Field where
  /-- The name of the field. -/
  name : String
  /-- The mapping key. -/
  key : String
  /-- The column the field is stored in. -/
  column : String
  /-- The type of the field. -/
  type : ValueType
  /-- Whether the column takes NULL. -/
  nullable : Bool
  /-- The position of the field in its record. -/
  offset : Nat
deriving DecidableEq, Inhabited

/-- How a record type is stored. -/
structure TableModel where
  /-- The name of the table. -/
  table : String
  /-- The fields in declaration order. -/
  fields : List Field
deriving DecidableEq, Inhabited

namespace TableModel

def field? (m : TableModel) (name : String) : Option Field := m.fields.find? (·.name == name)

/-- The field with a given mapping key. -/
def fieldByKey? (m : TableModel) (key : String) : Option Field := m.fields.find? (·.key == key)

/-- The field stored in a given column. -/
def fieldByColumn? (m : TableModel) (column : String) : Option Field :=
  m.fields.find? (·.column == column)

/-- The field that a column of a result stands for: the one stored in a column of that name, else the
one of that name. -/
def fieldForRowColumn? (m : TableModel) (column : String) : Option Field :=
  match m.fieldByColumn? column with
  | some f => some f
  | none => m.field? column

def columnCount (m : TableModel) : Nat := m.fields.length

/-- The columns in declaration order. -/
def columns (m : TableModel) : List String := m.fields.map (·.column)

theorem field?_name {m : TableModel} {name : String} {f : Field} (h : m.field? name = some f) :
    f.name = name := by
  simpa using List.find?_some h

theorem field?_mem {m : TableModel} {name : String} {f : Field} (h : m.field? name = some f) :
    f ∈ m.fields := List.mem_of_find?_eq_some h

/-- The field of a descriptor at a position. -/
def fieldAt (d : FieldDescriptor) (offset : Nat) : Field :=
  ⟨d.name, d.key, underscoreName d.name, d.type, d.nullable, offset⟩

/-- The model `m` with further fields, unless one repeats a column or a mapping key. -/
def addFields (m : TableModel) : List FieldDescriptor → Except SchemaError TableModel
  | [] => .ok m
  | d :: rest =>
    let f := fieldAt d m.fields.length
    if (m.fieldByColumn? f.column).isSome then .error (.duplicateColumn m.table f.column)
    else if (m.fieldByKey? f.key).isSome then .error (.duplicateTag m.table f.key)
    else addFields { m with fields := m.fields ++ [f] } rest

/-- The model of a record type. -/
def ofDescriptor (d : TypeDescriptor) : Except SchemaError TableModel :=
  match d.resolve with
  | .record name fields => addFields ⟨underscoreName name, []⟩ fields
  | other => .error (.unsupportedType other.typeName)

theorem ofDescriptor_indirect (d : TypeDescriptor) :
    ofDescriptor (.indirect d) = ofDescriptor d := rfl

end TableModel

end EntityStore
