import EntityStore.Proofs.Model.Record

/-!
# Entities and the models of their types

In the model of an entity type the field at a position describes the field of the type at that
position (`Entity.mem_fields_iff`), and its name leads back to the position (`Entity.index?_name`).
So both ways to address a field, by name and by position, come to the position
(`Materializer.readField_eq`, `Materializer.writeField_eq`).
-/

namespace EntityStore

open TableModel (ofDescriptor fieldAt)

variable {t : EntityType} {m : TableModel} {f : Field}

namespace Entity

/-! ## Positions -/

theorem fields_of_model (h : ofDescriptor t.descriptor = .ok m) :
    m.fields = t.fields.mapIdx fun i s => fieldAt s.descriptor i := by
  obtain ⟨name, fields, hd, hf⟩ := TableModel.fields_of_ofDescriptor h
  cases hd
  rw [hf]
  exact List.ext_getElem (by simp) fun i _ _ => by simp

/-- The fields of the model of a type are those of the type, each at its position. -/
theorem mem_fields_iff (h : ofDescriptor t.descriptor = .ok m) :
    f ∈ m.fields ↔ ∃ s, t.fields[f.offset]? = some s ∧ f = fieldAt s.descriptor f.offset := by
  rw [fields_of_model h, List.mem_mapIdx]
  constructor
  · rintro ⟨i, hi, rfl⟩
    exact ⟨t.fields[i], List.getElem?_eq_getElem hi, rfl⟩
  · rintro ⟨s, hs, hf⟩
    obtain ⟨hi, rfl⟩ := List.getElem?_eq_some_iff.1 hs
    exact ⟨f.offset, hi, hf.symm⟩

theorem map_name_fields (h : ofDescriptor t.descriptor = .ok m) :
    m.fields.map (·.name) = t.fields.map (·.name) := by
  rw [fields_of_model h]
  exact List.ext_getElem (by simp) fun i _ _ => by simp [fieldAt, FieldSpec.descriptor]

/-- The name of a field leads to its position. -/
theorem index?_name (h : ofDescriptor t.descriptor = .ok m) (hf : f ∈ m.fields) :
    index? t f.name = some f.offset := by
  obtain ⟨s, hs, hfs⟩ := (mem_fields_iff h).1 hf
  obtain ⟨hi, rfl⟩ := List.getElem?_eq_some_iff.1 hs
  have hnames : (t.fields.map (·.name)).Nodup := by
    rw [← map_name_fields h]
    exact (TableModel.unambiguous_of_ofDescriptor h).names
  have hname : t.fields[f.offset].name = f.name := (congrArg Field.name hfs).symm
  refine List.findIdx?_eq_some_iff_getElem.2 ⟨hi, beq_iff_eq.2 hname, ?_⟩
  intro j hj hj'
  have hlt : f.offset < (t.fields.map (·.name)).length := by rwa [List.length_map]
  have hlt' : j < (t.fields.map (·.name)).length := Nat.lt_trans hj hlt
  have heq : (t.fields.map (·.name))[j] = (t.fields.map (·.name))[f.offset] := by
    simpa [hname] using hj'
  exact absurd ((List.Nodup.getElem_inj_iff hnames).1 heq) (by omega)

/-- An entity is filled iff it has a value for every field of its type. -/
theorem filled_iff {e : Entity t} : Record.Filled e ↔ t.fields.length ≤ e.values.length := by
  constructor
  · intro he
    by_contra hlt
    have hi : e.values.length < t.fields.length := by omega
    obtain ⟨v, hv⟩ := he _ (List.mem_mapIdx.2 ⟨e.values.length, hi, rfl⟩)
    have hnone : e.values[e.values.length]? = none := List.getElem?_eq_none (Nat.le_refl _)
    simp only [getAt, hnone] at hv
    split at hv
    · contradiction
    · cases hv
  · intro hle f hf
    obtain ⟨i, hi, rfl⟩ := List.mem_mapIdx.1 hf
    have hi' : i < e.values.length := by omega
    refine ⟨e.values[i], ?_⟩
    simp [getAt, hi, hi']

end Entity

/-! ## Reading and writing -/

namespace Materializer

/-- Either strategy reads a field at its position. -/
theorem readField_eq (h : ofDescriptor t.descriptor = .ok m) (hf : f ∈ m.fields)
    (k : Materializer) (e : Entity t) : k.readField e f = e.getAt f.offset := by
  rw [readField_eq_getAt (by rwa [Entity.record_descriptor]) hf, Entity.record_getAt]

/-- Either strategy writes a field at its position. -/
theorem writeField_eq (h : ofDescriptor t.descriptor = .ok m) (hf : f ∈ m.fields)
    (k : Materializer) (e : Entity t) (v : Value) : k.writeField e f v = e.setAt f.offset v := by
  rw [writeField_eq_setAt (by rwa [Entity.record_descriptor]) hf, Entity.record_setAt]

/-- A column is read iff the entity has a field of that name, and its value is that of the field. -/
theorem readColumn_eq_ok_iff (h : ofDescriptor t.descriptor = .ok m) {k : Materializer}
    {e : Entity t} {name : String} {v : Value} :
    k.readColumn m e name = .ok v ↔ e.get name = .ok v := by
  rw [readColumn_eq_ok_iff_get (by rwa [Entity.record_descriptor]), Entity.record_get]

end Materializer

/-! ## An example -/

/-- Orders of users, with a remark that may be missing. -/
def orderType : EntityType where
  name := "Order"
  fields := [
    { name := "user_id", type := .int .i64 },
    { name := "amount", type := .int .i32 },
    { name := "Remark", type := .optional .text, tag := some "note" }]

/-- The field that tells whose order it is. -/
def orderKey : Field := ⟨"user_id", "user_id", "user_id", .int, false, 0⟩

def orderModel : TableModel where
  table := "order"
  fields := [orderKey, ⟨"amount", "amount", "amount", .int, false, 1⟩,
    ⟨"Remark", "note", "remark", .text, true, 2⟩]

theorem ofDescriptor_orderType : ofDescriptor orderType.descriptor = .ok orderModel := by
  rfl

end EntityStore
