import EntityStore.Model.Entity

/-!
# The registry of table models

A table model is made once per type and then shared: the registry keeps the models in the order of
their types' first use, and a look-up answers with the place of the model. A pointer type is a type of
its own. A type that cannot be mapped is not kept and is refused again each time.

A look-up first reads the registry beside others (`Registry.peek`). Only if the model is not there it
takes the registry for itself and looks again before it makes the model (`Registry.register`), since
another look-up may have made it in between.
-/

namespace EntityStore

/-- The pointer types. -/
inductive Pointer where
  | boxed
  | shared
  | counted
deriving DecidableEq

/-- A type whose table model can be asked for. -/
inductive MappedType where
  | entity (t : EntityType)
  /-- Any other type, by its description and a number that tells apart what is described alike. -/
  | described (id : Nat) (descriptor : TypeDescriptor)
  | pointer (p : Pointer) (inner : MappedType)
  | scalar (t : FieldType)
  | map
deriving DecidableEq

instance : Coe EntityType MappedType := ⟨.entity⟩

/-- The shape of a type. -/
def MappedType.descriptor : MappedType → TypeDescriptor
  | entity t => t.descriptor
  | described _ d => d
  | pointer _ inner => .indirect inner.descriptor
  | scalar t => .scalar t.valueType
  | map => .collection "map"

/-- A record type whose rows are kept in a table: what its table model is made from is its own
description, and rows are copied into a new record. -/
class Stored (ρ : Type) extends Record ρ, Inhabited ρ where
  /-- The type, as its model is asked for. -/
  mapped : MappedType
  descriptor_mapped : mapped.descriptor = Record.descriptor ρ

instance {t : EntityType} : Stored (Entity t) where
  mapped := t
  descriptor_mapped := (Entity.record_descriptor t).symm

/-- The table models made so far. -/
structure Registry where
  /-- The types with their models, in the order in which these were made. -/
  models : List (MappedType × TableModel) := []
  /-- How many models were made. -/
  parses : Nat := 0
deriving Inhabited

namespace Registry

/-- What a look-up finds: the place of the model, the model, and whether it was just made. -/
structure Found where
  /-- The place of the model in the registry. -/
  place : Nat
  model : TableModel
  /-- Whether this look-up made the model. -/
  isNew : Bool

/-- The number of models. -/
def size (r : Registry) : Nat := r.models.length

/-- The model kept for a type, with its place. -/
def find? (r : Registry) (t : MappedType) : Option (Nat × TableModel) :=
  match r.models.findIdx? (·.1 == t) with
  | some i => (r.models[i]?).map fun entry => (i, entry.2)
  | none => none

/-- What a look-up finds while others may look too. -/
def peek (r : Registry) (t : MappedType) : Option Found :=
  (r.find? t).map fun (i, m) => ⟨i, m, false⟩

/-- What a look-up finds while it has the registry for itself: the model is made and kept if it is
still not there. -/
def register (r : Registry) (t : MappedType) : Except SchemaError Found × Registry :=
  match r.peek t with
  | some found => (.ok found, r)
  | none =>
    match TableModel.ofDescriptor t.descriptor with
    | .ok m => (.ok ⟨r.size, m, true⟩, { models := r.models ++ [(t, m)], parses := r.parses + 1 })
    | .error e => (.error e, r)

/-- The model of a type, made and kept if it is not there yet. -/
def get (r : Registry) (t : MappedType) : Except SchemaError Found × Registry :=
  match r.peek t with
  | some found => (.ok found, r)
  | none => r.register t

end Registry

end EntityStore
