import EntityStore.Model.Record
import EntityStore.Value.Coerce

/-!
# Entities

An entity type is a record type whose fields have field types; an entity holds one value per field.
Fields are read and written by name or by position, and a written value is first read as the type of
its field, so what a field holds always fits.
-/

namespace EntityStore

/-- A field of an entity type. -/
structure FieldSpec where
  /-- The name of the field. -/
  name : String
  type : FieldType
  /-- The mapping key, if it is not the name. -/
  tag : Option String := none
deriving DecidableEq, Inhabited

/-- A record type that can be stored. -/
structure EntityType where
  /-- The name of the type. -/
  name : String
  /-- The fields in declaration order. -/
  fields : List FieldSpec
deriving DecidableEq, Inhabited

/-- The shape of a field. -/
def FieldSpec.descriptor (f : FieldSpec) : FieldDescriptor :=
  ⟨f.name, f.tag, f.type.valueType, f.type.nullable⟩

/-- The shape of an entity type. -/
def EntityType.descriptor (t : EntityType) : TypeDescriptor :=
  .record t.name (t.fields.map FieldSpec.descriptor)

/-- A record of the entity type `t`: a value per field. -/
structure Entity (t : EntityType) where
  /-- The values in declaration order. -/
  values : List Value
deriving DecidableEq

namespace Entity

variable {t : EntityType}

/-- A new record. -/
def initial (t : EntityType) : Entity t := ⟨t.fields.map (·.type.initial)⟩

instance : Inhabited (Entity t) := ⟨initial t⟩

instance : CoeSort EntityType Type := ⟨Entity⟩

/-- The position of the field with a given name. -/
def index? (t : EntityType) (name : String) : Option Nat := t.fields.findIdx? (·.name == name)

/-- Reads the field at a position. -/
def getAt (e : Entity t) (i : Nat) : Except ValueError Value :=
  match t.fields[i]?, e.values[i]? with
  | some _, some v => .ok v
  | _, _ => .error (.unknownField (toString i))

/-- Writes the field at a position. -/
def setAt (e : Entity t) (i : Nat) (v : Value) : Except ValueError (Entity t) :=
  match t.fields[i]? with
  | some f =>
    match f.type.read v with
    | .ok w => .ok ⟨e.values.set i w⟩
    | .error err => .error err
  | none => .error (.unknownField (toString i))

/-- Reads the field with a given name. -/
def get (e : Entity t) (name : String) : Except ValueError Value :=
  match index? t name with
  | some i => e.getAt i
  | none => .error (.unknownField name)

/-- Writes the field with a given name. -/
def set (e : Entity t) (name : String) (v : Value) : Except ValueError (Entity t) :=
  match index? t name with
  | some i => e.setAt i v
  | none => .error (.unknownField name)

/-- Entities as records. -/
instance : Record (Entity t) where
  typeName := t.name
  fields := t.fields.mapIdx fun i f => ⟨f.descriptor, (·.getAt i), (·.setAt i)⟩

theorem record_getAt (e : Entity t) (i : Nat) : Record.getAt e i = e.getAt i := by
  rw [Record.getAt]
  cases h : t.fields[i]? with
  | none => simp [Record.fields, h, getAt]
  | some f => simp [Record.fields, h]

theorem record_setAt (e : Entity t) (i : Nat) (v : Value) : Record.setAt e i v = e.setAt i v := by
  rw [Record.setAt]
  cases h : t.fields[i]? with
  | none => simp [Record.fields, h, setAt]
  | some f => simp [Record.fields, h]

theorem record_field? (t : EntityType) (name : String) :
    Record.field? (Entity t) name =
      (index? t name).bind fun i => (Record.fields : List (RecordField (Entity t)))[i]? := by
  have hnames : (Record.fields : List (RecordField (Entity t))).map (·.descriptor.name) =
      t.fields.map (·.name) :=
    List.ext_getElem (by simp [Record.fields]) fun i _ _ => by
      simp [Record.fields, FieldSpec.descriptor]
  have hindex := congrArg (List.findIdx? (· == name)) hnames
  rw [List.findIdx?_map, List.findIdx?_map] at hindex
  rw [Record.field?, List.find?_eq_bind_findIdx?_getElem?]
  exact congrArg (Option.bind · _) hindex

theorem record_get (e : Entity t) (name : String) : Record.get e name = e.get name := by
  rw [Record.get, record_field?, get]
  cases hi : index? t name with
  | none => rfl
  | some i =>
    obtain ⟨hlt, -⟩ := List.findIdx?_eq_some_iff_getElem.1 hi
    simp [Record.fields, hlt]

theorem record_set (e : Entity t) (name : String) (v : Value) :
    Record.set e name v = e.set name v := by
  rw [Record.set, record_field?, set]
  cases hi : index? t name with
  | none => rfl
  | some i =>
    obtain ⟨hlt, -⟩ := List.findIdx?_eq_some_iff_getElem.1 hi
    simp [Record.fields, hlt]

theorem record_descriptor (t : EntityType) : Record.descriptor (Entity t) = t.descriptor := by
  have hfields : (Record.fields : List (RecordField (Entity t))).map (·.descriptor) =
      t.fields.map FieldSpec.descriptor :=
    List.ext_getElem (by simp [Record.fields]) fun i _ _ => by simp [Record.fields]
  rw [Record.descriptor, hfields]
  rfl

/-- Writes several fields in turn, up to the first that fails. -/
def setAll (e : Entity t) : List (String × Value) → Except ValueError (Entity t)
  | [] => .ok e
  | (name, v) :: rest =>
    match e.set name v with
    | .ok e' => e'.setAll rest
    | .error err => .error err

@[simp] theorem length_initial (t : EntityType) :
    (initial t).values.length = t.fields.length := by
  simp [initial]

end Entity

end EntityStore
