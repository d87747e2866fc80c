import EntityStore.Model.Materializer
import EntityStore.Proofs.Model.Table

/-!
# The two strategies agree

In the model of a record type the field at a position has the name of the record's field at that
position, and no two fields share a name. So the name and the position of a field of the model lead to
the same field of a record (`Record.exists_field`), and it makes no difference by which of them a
strategy addresses it (`Materializer.readField_eq_getAt`, `Materializer.writeField_eq_setAt`).

Before a value is written both strategies settle which fields of the model the columns stand for, in
the same way. Then they do the same writes in the same order, up to the same failure
(`Materializer.strategies_agree`).
-/

namespace EntityStore

open TableModel (ofDescriptor fieldAt)

variable {ρ : Type} [Record ρ] {m : TableModel} {f : Field}

namespace Record

/-! ## Names and positions -/

theorem fields_of_model (h : ofDescriptor (descriptor ρ) = .ok m) :
    m.fields = (fields : List (RecordField ρ)).mapIdx fun i s => fieldAt s.descriptor i := by
  obtain ⟨name, ds, hd, hf⟩ := TableModel.fields_of_ofDescriptor h
  cases hd
  rw [hf]
  exact List.ext_getElem (by simp) fun i _ _ => by simp

theorem map_name_fields (h : ofDescriptor (descriptor ρ) = .ok m) :
    m.fields.map (·.name) = (fields : List (RecordField ρ)).map (·.descriptor.name) := by
  rw [fields_of_model h]
  exact List.ext_getElem (by simp) fun i _ _ => by simp [fieldAt]

/-- Records and their model know the same names. -/
theorem field?_eq_none_iff (h : ofDescriptor (descriptor ρ) = .ok m) {name : String} :
    field? ρ name = none ↔ m.field? name = none := by
  rw [TableModel.field?_eq_none_iff, map_name_fields h]
  simp [field?, List.find?_eq_none]

/-- The name and the position of a field of the model lead to the same field of the records. -/
theorem exists_field (h : ofDescriptor (descriptor ρ) = .ok m) (hf : f ∈ m.fields) :
    ∃ s, (fields : List (RecordField ρ))[f.offset]? = some s ∧ field? ρ f.name = some s := by
  have hnames := (TableModel.unambiguous_of_ofDescriptor h).names
  rw [map_name_fields h] at hnames
  rw [fields_of_model h, List.mem_mapIdx] at hf
  obtain ⟨i, hi, rfl⟩ := hf
  exact ⟨_, List.getElem?_eq_getElem hi,
    (TableModel.find?_key_eq_some_iff hnames).2 ⟨List.getElem_mem hi, rfl⟩⟩

end Record

namespace Record

/-- Every field of a record can be read, as in a derived record type, whose fields are values. -/
def Filled (r : ρ) : Prop := ∀ f ∈ (fields : List (RecordField ρ)), ∃ v, f.get r = .ok v

end Record

namespace Materializer

/-- Either strategy reads a field at its position. -/
theorem readField_eq_getAt (h : ofDescriptor (Record.descriptor ρ) = .ok m) (hf : f ∈ m.fields)
    (k : Materializer) (r : ρ) : k.readField r f = Record.getAt r f.offset := by
  obtain ⟨s, hposition, hname⟩ := Record.exists_field h hf
  cases k with
  | reflective => simp only [readField, Record.get, hname, Record.getAt, hposition]
  | positional => rfl

/-- Of a filled record every field of the model can be read. -/
theorem exists_readField (h : ofDescriptor (Record.descriptor ρ) = .ok m) (hf : f ∈ m.fields)
    (k : Materializer) {r : ρ} (hr : Record.Filled r) : ∃ v, k.readField r f = .ok v := by
  obtain ⟨s, hposition, -⟩ := Record.exists_field h hf
  rw [readField_eq_getAt h hf, Record.getAt, hposition]
  exact hr s (List.mem_of_getElem? hposition)

/-- Either strategy writes a field at its position. -/
theorem writeField_eq_setAt (h : ofDescriptor (Record.descriptor ρ) = .ok m) (hf : f ∈ m.fields)
    (k : Materializer) (r : ρ) (v : Value) : k.writeField r f v = Record.setAt r f.offset v := by
  obtain ⟨s, hposition, hname⟩ := Record.exists_field h hf
  cases k with
  | reflective => simp only [writeField, Record.set, hname, Record.setAt, hposition]
  | positional => rfl

/-- A column is read iff the record has a field of that name, and its value is that of the field. -/
theorem readColumn_eq_ok_iff_get (h : ofDescriptor (Record.descriptor ρ) = .ok m)
    {k : Materializer} {r : ρ} {name : String} {v : Value} :
    k.readColumn m r name = .ok v ↔ Record.get r name = .ok v := by
  unfold readColumn
  cases hf : m.field? name with
  | none => simp [Record.get, (Record.field?_eq_none_iff h).2 hf]
  | some f =>
    obtain ⟨hmem, rfl⟩ := (TableModel.unambiguous_of_ofDescriptor h).field?_eq_some_iff.1 hf
    obtain ⟨s, hposition, hname⟩ := Record.exists_field h hmem
    simp only [readField_eq_getAt h hmem, Record.getAt, hposition, Record.get, hname]
    cases s.get r <;> simp

/-! ## Rows -/

theorem fieldForRowColumn?_mem {column : String} (h : m.fieldForRowColumn? column = some f) :
    f ∈ m.fields := by
  unfold TableModel.fieldForRowColumn? at h
  split at h
  · next hcolumn =>
    cases h
    exact List.mem_of_find?_eq_some hcolumn
  · exact TableModel.field?_mem h

/-- Columns stand for fields of the model. -/
theorem resolveColumns_subset {columns : List String} {fs : List Field}
    (h : resolveColumns m columns = .ok fs) : fs ⊆ m.fields := by
  induction columns generalizing fs with
  | nil =>
    cases h
    exact List.nil_subset _
  | cons c columns ih =>
    rw [resolveColumns] at h
    cases hc : m.fieldForRowColumn? c with
    | none => simp [hc] at h
    | some f =>
      cases hrest : resolveColumns m columns with
      | error e => simp [hc, hrest] at h
      | ok rest =>
        simp only [hc, hrest, Except.ok.injEq] at h
        subst h
        exact List.cons_subset.2 ⟨fieldForRowColumn?_mem hc, ih hrest⟩

theorem resolveRow_subset {columns : List String} {fs : List Field}
    (h : resolveRow m columns = .ok fs) : fs ⊆ m.fields := by
  unfold resolveRow at h
  split at h
  · cases h
  · exact resolveColumns_subset h

/-- Both strategies do the same writes, and stop at the same one. -/
theorem writeFields_eq (h : ofDescriptor (Record.descriptor ρ) = .ok m) (k l : Materializer)
    {writes : List (Field × Value)} (hwrites : ∀ w ∈ writes, w.1 ∈ m.fields) (r : ρ) :
    k.writeFields r writes = l.writeFields r writes := by
  induction writes generalizing r with
  | nil => rfl
  | cons w writes ih =>
    obtain ⟨hw, hrest⟩ := List.forall_mem_cons.1 hwrites
    rw [writeFields, writeFields, writeField_eq_setAt h hw, writeField_eq_setAt h hw]
    cases Record.setAt r w.1.offset w.2 with
    | error e => rfl
    | ok r' => exact ih hrest r'

/-- The two strategies copy every row alike, in what becomes of the record as in the failure, and read
every column alike. -/
theorem strategies_agree (h : ofDescriptor (Record.descriptor ρ) = .ok m) (columns : List String)
    (row : List Value) (name : String) (r : ρ) :
    reflective.copyRow m columns row r = positional.copyRow m columns row r ∧
      reflective.readColumn m r name = positional.readColumn m r name := by
  constructor
  · unfold copyRow
    cases hfields : resolveRow m columns with
    | error e => rfl
    | ok fs =>
      exact writeFields_eq h _ _ (fun w hw => resolveRow_subset hfields (List.of_mem_zip hw).1) r
  · unfold readColumn
    cases hf : m.field? name with
    | none => rfl
    | some f =>
      have hmem := TableModel.field?_mem hf
      simp only [readField_eq_getAt h hmem]

end Materializer

/-- A product with a rating of up to five stars. -/
structure Product where
  title : String
  stars : Fin 6
deriving DecidableEq

/-- Products as records; the rating is read from an integer. -/
instance : Record Product where
  typeName := "Product"
  fields := [
    { descriptor := ⟨"title", none, .text, false⟩
      get := fun p => .ok (.text p.title)
      set := fun p v =>
        match v.coerce .text with
        | .ok (.text s) => .ok { p with title := s }
        | .ok _ => .error (.unexpectedNull .text)
        | .error e => .error e },
    { descriptor := ⟨"StarCount", some "stars", .int, false⟩
      get := fun p => .ok (.int (Int64.ofNat p.stars))
      set := fun p v =>
        match v.coerce .int with
        | .ok (.int i) =>
          if h : i.toInt.toNat < 6 then .ok { p with stars := ⟨i.toInt.toNat, h⟩ }
          else .error (.outOfRange i .u8)
        | .ok _ => .error (.unexpectedNull .int)
        | .error e => .error e }]

def productModel : TableModel where
  table := "product"
  fields := [⟨"title", "title", "title", .text, false, 0⟩,
    ⟨"StarCount", "stars", "star_count", .int, false, 1⟩]

/-- A row with too many stars leaves its title behind, whichever way the fields are addressed. -/
theorem Materializer.strategies_agree_product :
    ofDescriptor (Record.descriptor Product) = .ok productModel ∧
      reflective.copyRow productModel ["title", "StarCount"] [.text "lamp", .int 9]
        (⟨"chair", 3⟩ : Product) = (⟨"lamp", 3⟩, some (.ofValue (.outOfRange 9 .u8))) ∧
      positional.copyRow productModel ["title", "StarCount"] [.text "lamp", .int 9]
        (⟨"chair", 3⟩ : Product) = (⟨"lamp", 3⟩, some (.ofValue (.outOfRange 9 .u8))) := by
  have hmodel : ofDescriptor (Record.descriptor Product) = .ok productModel := by rfl
  have hcopy : reflective.copyRow productModel ["title", "StarCount"] [.text "lamp", .int 9]
      (⟨"chair", 3⟩ : Product) = (⟨"lamp", 3⟩, some (.ofValue (.outOfRange 9 .u8))) := by rfl
  exact ⟨hmodel, hcopy, (strategies_agree hmodel ["title", "StarCount"] [.text "lamp", .int 9]
    "title" ⟨"chair", 3⟩).1 ▸ hcopy⟩

end EntityStore
