import EntityStore.Proofs.Model.Entity
import EntityStore.Proofs.Value.Binding
import Mathlib.Data.List.Perm.Subperm

/-!
# Copying rows into records

A record fits its type if it holds one value per field, each of the type of its field
(`Entity.Fits`), as a new record does and as a record that fits still does after it has been written
to (`Fits.set`).

If a row has what a store hands back of some fields of such a record, under their columns and in any
order, then either strategy makes of it the record with these fields, and with all others as a new
record has them, whatever new records are like (`Materializer.materialize_returned`).
-/

namespace EntityStore

open TableModel (ofDescriptor fieldAt)

variable {t : EntityType} {m : TableModel} {f : Field} {e : Entity t}

namespace Entity

/-! ## Records that fit their type -/

/-- The record holds one value per field, each of the type of its field. -/
def Fits (e : Entity t) : Prop :=
  List.Forall₂ (fun (s : FieldSpec) v => s.type.Holds v) t.fields e.values

def valueOf (e : Entity t) (f : Field) : Value := e.values.getD f.offset .null

/-- The record, with the fields that are not among `names` as another record has them. -/
def keeping (names : List String) (e other : Entity t) : Entity t :=
  ⟨List.zipWith (fun (s, v) w => if s.name ∈ names then v else w) (t.fields.zip e.values) other.values⟩

/-- Only which names there are matters, not their order. -/
theorem keeping_of_perm {names names' : List String} (h : names.Perm names') (e other : Entity t) :
    e.keeping names other = e.keeping names' other := by
  simp only [keeping, h.mem_iff]

theorem Fits.length_values (he : e.Fits) : e.values.length = t.fields.length :=
  (List.Forall₂.length_eq he).symm

theorem fits_initial (t : EntityType) : (initial t).Fits := by
  refine List.forall₂_iff_get.2 ⟨by simp, fun i hi hi' => ?_⟩
  simpa [initial] using (t.fields.get ⟨i, hi⟩).type.holds_initial

/-- Whatever is written to a record that fits, it still fits. -/
theorem Fits.setAt (he : e.Fits) {i : Nat} {v : Value} {e' : Entity t} (h : e.setAt i v = .ok e') :
    e'.Fits := by
  rw [Entity.setAt] at h
  cases hs : t.fields[i]? with
  | none => simp [hs] at h
  | some s =>
    cases hv : s.type.read v with
    | error err => simp [hs, hv] at h
    | ok w =>
      simp only [hs, hv, Except.ok.injEq] at h
      subst h
      obtain ⟨hi, rfl⟩ := List.getElem?_eq_some_iff.1 hs
      obtain ⟨hlength, hvalues⟩ := List.forall₂_iff_get.1 he
      refine List.forall₂_iff_get.2 ⟨by simpa using hlength, fun j hj hj' => ?_⟩
      by_cases hij : i = j
      · subst hij
        simpa using FieldType.holds_of_read hv
      · have hj'' : j < e.values.length := by simpa using hj'
        simpa [List.getElem_set_ne hij] using hvalues j hj hj''

theorem Fits.set (he : e.Fits) {name : String} {v : Value} {e' : Entity t}
    (h : e.set name v = .ok e') : e'.Fits := by
  rw [Entity.set] at h
  cases hi : index? t name with
  | none => simp [hi] at h
  | some i =>
    rw [hi] at h
    exact he.setAt h

/-- A record that fits has a value at the position of each field of the model. -/
theorem Fits.getElem?_values (h : ofDescriptor t.descriptor = .ok m) (hf : f ∈ m.fields)
    (he : e.Fits) : ∃ s, t.fields[f.offset]? = some s ∧ e.values[f.offset]? = some (e.valueOf f) ∧
      s.type.Holds (e.valueOf f) := by
  obtain ⟨s, hs, -⟩ := (mem_fields_iff h).1 hf
  obtain ⟨hi, rfl⟩ := List.getElem?_eq_some_iff.1 hs
  have hi' : f.offset < e.values.length := by rwa [he.length_values]
  have hvalue : e.valueOf f = e.values[f.offset] := by simp [valueOf, hi']
  refine ⟨_, hs, ?_, ?_⟩
  · rw [hvalue, List.getElem?_eq_getElem hi']
  · rw [hvalue]
    exact (List.forall₂_iff_get.1 he).2 f.offset hi hi'

theorem get_name (h : ofDescriptor t.descriptor = .ok m) (hf : f ∈ m.fields) (he : e.Fits) :
    e.get f.name = .ok (e.valueOf f) := by
  obtain ⟨s, hs, hv, -⟩ := he.getElem?_values h hf
  rw [get, index?_name h hf]
  simp only [getAt, hs, hv]

/-- Writing what a store hands back of a field writes the value of the field. -/
theorem setAt_returned (h : ofDescriptor t.descriptor = .ok m) (hf : f ∈ m.fields) (he : e.Fits)
    (dest : Entity t) : dest.setAt f.offset (e.valueOf f).returned =
      .ok ⟨dest.values.set f.offset (e.valueOf f)⟩ := by
  obtain ⟨s, hs, -, hholds⟩ := he.getElem?_values h hf
  simp only [setAt, hs, FieldType.read_returned hholds]

end Entity

namespace Materializer

/-! ## Columns -/

theorem fieldForRowColumn?_column (h : ofDescriptor t.descriptor = .ok m) (hf : f ∈ m.fields) :
    m.fieldForRowColumn? f.column = some f := by
  have hcolumn := (TableModel.unambiguous_of_ofDescriptor h).fieldByColumn?_eq_some_iff.2 ⟨hf, rfl⟩
  rw [TableModel.fieldForRowColumn?, hcolumn]

theorem resolveColumns_map_column (h : ofDescriptor t.descriptor = .ok m) {fs : List Field}
    (hfs : fs ⊆ m.fields) : resolveColumns m (fs.map (·.column)) = .ok fs := by
  induction fs with
  | nil => rfl
  | cons f fs ih =>
    obtain ⟨hf, htail⟩ := List.cons_subset.1 hfs
    rw [List.map_cons, resolveColumns, fieldForRowColumn?_column h hf]
    simp only [ih htail]

theorem resolveRow_map_column (h : ofDescriptor t.descriptor = .ok m) {fs : List Field}
    (hfs : fs ⊆ m.fields) (hnodup : fs.Nodup) : resolveRow m (fs.map (·.column)) = .ok fs := by
  have hlength : ¬ m.columnCount < fs.length :=
    Nat.not_lt.2 (List.subperm_of_subset hnodup hfs).length_le
  rw [resolveRow, List.length_map, if_neg hlength, resolveColumns_map_column h hfs]

/-! ## Values -/

/-- After some fields have been written, these are those of the record `e`, and all others are as
they were. -/
theorem writeFields_returned (h : ofDescriptor t.descriptor = .ok m) (he : e.Fits)
    (k : Materializer) {fs : List Field} (hfs : fs ⊆ m.fields) (dest : Entity t)
    (hdest : dest.values.length = t.fields.length) :
    ∃ dest' : Entity t,
      k.writeFields dest (fs.map fun f => (f, (e.valueOf f).returned)) = (dest', none) ∧
      ∀ j : Nat, dest'.values[j]? =
        if j ∈ fs.map (·.offset) then e.values[j]? else dest.values[j]? := by
  induction fs generalizing dest with
  | nil => exact ⟨dest, rfl, fun j => by simp⟩
  | cons f fs ih =>
    obtain ⟨hf, htail⟩ := List.cons_subset.1 hfs
    obtain ⟨s, hs, hv, -⟩ := he.getElem?_values h hf
    obtain ⟨hi, -⟩ := List.getElem?_eq_some_iff.1 hs
    obtain ⟨dest', hwrite, hvalues⟩ := ih htail ⟨dest.values.set f.offset (e.valueOf f)⟩
      (by simpa using hdest)
    refine ⟨dest', ?_, fun j => ?_⟩
    · rw [List.map_cons, writeFields, writeField_eq h hf, Entity.setAt_returned h hf he]
      exact hwrite
    · rw [hvalues, List.map_cons]
      by_cases hj : j ∈ fs.map (·.offset)
      · rw [if_pos hj, if_pos (List.mem_cons_of_mem _ hj)]
      · rw [if_neg hj]
        by_cases hjf : j = f.offset
        · subst hjf
          rw [if_pos List.mem_cons_self, hv, List.getElem?_set_self (by omega)]
        · rw [if_neg (List.not_mem_cons_of_ne_of_not_mem hjf hj),
            List.getElem?_set_ne (Ne.symm hjf)]

/-- A field is told by its position as by its name. -/
theorem mem_map_offset_iff (h : ofDescriptor t.descriptor = .ok m) {fs : List Field}
    (hfs : fs ⊆ m.fields) {j : Nat} {s : FieldSpec} (hs : t.fields[j]? = some s) :
    j ∈ fs.map (·.offset) ↔ s.name ∈ fs.map (·.name) := by
  have hj : fieldAt s.descriptor j ∈ m.fields := (Entity.mem_fields_iff h).2 ⟨s, hs, rfl⟩
  simp only [List.mem_map]
  constructor
  · rintro ⟨f, hf, rfl⟩
    obtain ⟨s', hs', hfield⟩ := (Entity.mem_fields_iff h).1 (hfs hf)
    rw [hs] at hs'
    cases hs'
    exact ⟨f, hf, congrArg Field.name hfield⟩
  · rintro ⟨f, hf, hname⟩
    have hindex := Entity.index?_name h (hfs hf)
    have hindex' : Entity.index? t s.name = some j := Entity.index?_name h hj
    rw [hname, hindex'] at hindex
    exact ⟨f, hf, (Option.some.inj hindex).symm⟩

/-- Of a row that has what a store hands back of some fields of a record, either strategy makes the
record with these fields. -/
theorem materialize_returned [Inhabited (Entity t)] (h : ofDescriptor t.descriptor = .ok m)
    (hdefault : (default : Entity t).Fits) (he : e.Fits) (k : Materializer) {fs : List Field}
    (hfs : fs ⊆ m.fields) (hnodup : fs.Nodup) :
    k.materialize t m (fs.map (·.column)) (fs.map fun f => (e.valueOf f).returned) =
      .ok (e.keeping (fs.map (·.name)) default) := by
  obtain ⟨dest, hwrite, hvalues⟩ := writeFields_returned h he k hfs default hdefault.length_values
  have hdest : dest = e.keeping (fs.map (·.name)) default := by
    obtain ⟨values⟩ := dest
    refine congrArg Entity.mk (List.ext_getElem? fun j => ?_)
    rw [hvalues, List.getElem?_zipWith, List.zip, List.getElem?_zipWith]
    cases hs : t.fields[j]? with
    | none =>
      have hlength : t.fields.length ≤ j := List.getElem?_eq_none_iff.1 hs
      rw [List.getElem?_eq_none (by rw [he.length_values]; exact hlength),
        List.getElem?_eq_none (by rw [hdefault.length_values]; exact hlength), ite_self]
    | some s =>
      obtain ⟨hj, -⟩ := List.getElem?_eq_some_iff.1 hs
      have hj' : j < e.values.length := by rwa [he.length_values]
      have hj'' : j < (default : Entity t).values.length := by rwa [hdefault.length_values]
      simp only [mem_map_offset_iff h hfs hs, List.getElem?_eq_getElem hj',
        List.getElem?_eq_getElem hj'']
      split <;> rfl
  have hzip : fs.zip (fs.map fun f => (e.valueOf f).returned) =
      fs.map fun f => (f, (e.valueOf f).returned) := List.map_prod_left_eq_zip.symm
  rw [materialize, copyRow, resolveRow_map_column h hfs hnodup]
  simp only [hzip, hwrite, hdest]

/-- If a record is made of each row, a list of records is made of all rows. -/
theorem materializeRows_map [Inhabited (Entity t)] {α : Type} {k : Materializer} {columns : List String}
    {row : α → List Value} {record : α → Entity t} {xs : List α}
    (hrows : ∀ x ∈ xs, k.materialize t m columns (row x) = .ok (record x)) :
    k.materializeRows t m columns (xs.map row) = .ok (xs.map record) := by
  induction xs with
  | nil => rfl
  | cons x xs ih =>
    obtain ⟨hx, htail⟩ := List.forall_mem_cons.1 hrows
    rw [List.map_cons, materializeRows, hx]
    simp only [ih htail, List.map_cons]

end Materializer

end EntityStore
