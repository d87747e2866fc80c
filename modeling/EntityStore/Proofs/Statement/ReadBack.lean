import EntityStore.Proofs.Model.Copying
import EntityStore.Proofs.Statement.Arguments

/-!
# What an insert writes is read back

The arguments of an insert, cut into rows, sent through a store that keeps what it is given, and
read under the columns of the insert in any order, give its records again, with the fields that were
not written as new records have them (`Insert.read_back`), whatever these are like.
-/

namespace EntityStore

open TableModel (ofDescriptor)

/-! ## Rows and columns -/

section Lists

variable {α β : Type}

/-- The items of a list at the given positions. -/
def arranged (order : List Nat) (xs : List α) : List α := order.filterMap (xs[·]?)

theorem arranged_map (order : List Nat) (g : α → β) (xs : List α) :
    arranged order (xs.map g) = (arranged order xs).map g := by
  simp [arranged, List.map_filterMap]

theorem arranged_range (xs : List α) : arranged (List.range xs.length) xs = xs := by
  induction xs with
  | nil => rfl
  | cons x xs ih =>
    rw [arranged, List.length_cons, List.range_succ_eq_map,
      List.filterMap_cons_some List.getElem?_cons_zero, List.filterMap_map]
    refine congrArg (x :: ·) (Eq.trans ?_ ih)
    show List.filterMap _ _ = List.filterMap _ _
    congr 1

/-- An order of all positions only permutes the items. -/
theorem arranged_perm {order : List Nat} {xs : List α}
    (horder : order.Perm (List.range xs.length)) : (arranged order xs).Perm xs := by
  have hperm := horder.filterMap (xs[·]?)
  rwa [← arranged, ← arranged, arranged_range] at hperm

/-- The first `count` rows of `size` items each. -/
def cut (size : Nat) : Nat → List α → List (List α)
  | 0, _ => []
  | count + 1, xs => xs.take size :: cut size count (xs.drop size)

/-- Rows of one size are cut out of what they are part of. -/
theorem cut_flatMap_append {size : Nat} {e : β → List α} {rows : List β}
    (hsize : ∀ row ∈ rows, (e row).length = size) (more : List α) :
    cut size rows.length (rows.flatMap e ++ more) = rows.map e := by
  induction rows with
  | nil => rfl
  | cons row rows ih =>
    have hrow : (e row).length = size := hsize row List.mem_cons_self
    rw [List.length_cons, cut, List.flatMap_cons, List.append_assoc, List.take_left' hrow,
      List.drop_left' hrow, ih fun row hmem => hsize row (List.mem_cons_of_mem _ hmem),
      List.map_cons]

end Lists

variable {t : EntityType} {m : TableModel}

namespace TableModel

/-- The fields with given names, as far as there are any. -/
def fieldsNamed (m : TableModel) (names : List String) : List Field := names.filterMap m.field?

theorem fieldsNamed_subset (m : TableModel) (names : List String) :
    m.fieldsNamed names ⊆ m.fields := by
  intro f hf
  obtain ⟨name, -, hname⟩ := List.mem_filterMap.1 hf
  exact field?_mem hname

/-- If all names are known, their fields have these names. -/
theorem map_name_fieldsNamed {names : List String}
    (hnames : ∀ name ∈ names, ∃ f, m.field? name = some f) :
    (m.fieldsNamed names).map (·.name) = names := by
  induction names with
  | nil => rfl
  | cons name names ih =>
    obtain ⟨hname, htail⟩ := List.forall_mem_cons.1 hnames
    obtain ⟨f, hf⟩ := hname
    rw [fieldsNamed, List.filterMap_cons_some hf, List.map_cons, field?_name hf]
    exact congrArg (name :: ·) (ih htail)

end TableModel

namespace Insert

/-! ## What an insert writes -/

def modelFields (i : Insert t) (m : TableModel) : List Field := m.fieldsNamed (i.writtenFields m)

/-- The columns an insert writes. -/
def columns (i : Insert t) (m : TableModel) : List String := (i.modelFields m).map (·.column)

theorem modelFields_subset (i : Insert t) (m : TableModel) : i.modelFields m ⊆ m.fields :=
  m.fieldsNamed_subset _

theorem exists_field_of_mem_names (h : ofDescriptor t.descriptor = .ok m) {name : String}
    (hname : name ∈ t.fields.map (·.name)) : ∃ f, m.field? name = some f := by
  cases hf : m.field? name with
  | some f => exact ⟨f, rfl⟩
  | none =>
    rw [TableModel.field?_eq_none_iff, Entity.map_name_fields h] at hf
    exact absurd hname hf

theorem nodup_writtenFields (h : ofDescriptor t.descriptor = .ok m) {i : Insert t}
    (hnodup : i.fields.Nodup) : (i.writtenFields m).Nodup := by
  rw [writtenFields]
  split
  · exact (TableModel.unambiguous_of_ofDescriptor h).names
  · exact hnodup

section Known

variable {i : Insert t} {d : Dialect} {k : Materializer}
  (h : ofDescriptor t.descriptor = .ok m) (hknown : i.fields ⊆ t.fields.map (·.name))

include h hknown

theorem exists_field_of_mem_writtenFields :
    ∀ name ∈ i.writtenFields m, ∃ f, m.field? name = some f := by
  intro name hname
  refine exists_field_of_mem_names h ?_
  rw [writtenFields] at hname
  split at hname
  · rwa [Entity.map_name_fields h] at hname
  · exact hknown hname

theorem map_name_modelFields : (i.modelFields m).map (·.name) = i.writtenFields m :=
  TableModel.map_name_fieldsNamed (exists_field_of_mem_writtenFields h hknown)

theorem length_modelFields : (i.modelFields m).length = (i.writtenFields m).length := by
  rw [← List.length_map (·.name), map_name_modelFields h hknown]

theorem nodup_modelFields (hnodup : i.fields.Nodup) : (i.modelFields m).Nodup := by
  refine List.Nodup.of_map (·.name) ?_
  rw [map_name_modelFields h hknown]
  exact nodup_writtenFields h hnodup

variable (hrows : ∀ e ∈ i.rows, e.Fits)

include hrows

/-- An insert of records that fit can be written. -/
theorem failure?_template_of_fits
    (hupsert : ∀ as ∈ i.upsert, ∀ a ∈ as, a.field ∈ t.fields.map (·.name)) :
    (i.template d k m).failure? m = none := by
  have hnames := exists_field_of_mem_writtenFields h hknown
  refine failure?_template_eq_none_iff.2 ⟨hnames, fun e he name hname => ?_,
    fun as has a ha => exists_field_of_mem_names h (hupsert as has a ha)⟩
  obtain ⟨f, hf⟩ := hnames name hname
  rw [← TableModel.field?_name hf]
  exact ⟨_, (Materializer.readColumn_eq_ok_iff h).2
    (Entity.get_name h (TableModel.field?_mem hf) (hrows e he))⟩

/-- The cells of an insert are the values of its fields, record by record. -/
theorem cells_eq (hwritten : (i.template d k m).failure? m = none) :
    i.cells k m = i.rows.flatMap fun e => (i.modelFields m).map e.valueOf := by
  have hget : ∀ e ∈ i.rows, (i.writtenFields m).map e.get =
      ((i.modelFields m).map e.valueOf).map .ok := by
    intro e he
    rw [List.map_map, ← map_name_modelFields h hknown, List.map_map]
    exact List.map_congr_left fun f hf => Entity.get_name h (i.modelFields_subset m hf) (hrows e he)
  have hok := map_ok_cells (fun e f v hv => (Materializer.readColumn_eq_ok_iff h).1 hv) hwritten
  rw [List.flatMap_congr hget, ← List.map_flatMap] at hok
  exact List.map_injective_iff.2 (fun v w => Except.ok.inj) hok

/-- Cut into rows, the arguments of an insert are the values of its fields, a row per record. -/
theorem cut_args_template (hwritten : (i.template d k m).failure? m = none) :
    cut (i.writtenFields m).length i.rows.length (i.template d k m).args =
      i.rows.map fun e => (i.modelFields m).map e.valueOf := by
  rw [args_template, cells_eq h hknown hrows hwritten]
  refine cut_flatMap_append (fun e _ => ?_) _
  rw [List.length_map, length_modelFields h hknown]

omit hrows in
/-- A row of a record, its columns in some order, makes the record without what was not written. -/
theorem materialize_arranged [Inhabited (Entity t)] (hdefault : (default : Entity t).Fits)
    (hnodup : i.fields.Nodup) {e : Entity t} (he : e.Fits)
    {order : List Nat} (horder : order.Perm (List.range (i.writtenFields m).length)) :
    k.materialize t m (arranged order (i.columns m))
        (arranged order (((i.modelFields m).map e.valueOf).map Value.returned)) =
      .ok (e.keeping (i.writtenFields m) default) := by
  rw [← length_modelFields h hknown] at horder
  have hperm := arranged_perm horder
  have hkeeping := Materializer.materialize_returned h hdefault he k
    (fun f hf => i.modelFields_subset m (hperm.mem_iff.1 hf))
    (hperm.nodup_iff.2 (nodup_modelFields h hknown hnodup))
  rw [Entity.keeping_of_perm (hperm.map (·.name)), map_name_modelFields h hknown] at hkeeping
  rw [columns, arranged_map, List.map_map, arranged_map]
  exact hkeeping

end Known

/-- What an insert writes is read back. If the arguments of an insert are cut into rows, and a store
that keeps what it is given hands them back under the columns of the insert, in any order, then
either strategy makes of them the records of the insert, with the fields that were not written as
new records have them. A new record is any that fits its type. -/
theorem read_back [Inhabited (Entity t)] (h : ofDescriptor t.descriptor = .ok m)
    (hdefault : (default : Entity t).Fits) (i : Insert t)
    (hrows : ∀ e ∈ i.rows, e.Fits) (hnodup : i.fields.Nodup)
    (hknown : i.fields ⊆ t.fields.map (·.name))
    (hupsert : ∀ as ∈ i.upsert, ∀ a ∈ as, a.field ∈ t.fields.map (·.name)) (d : Dialect)
    (k : Materializer) :
    ∃ q, i.query d k m = .ok q ∧
      ∀ (l : Materializer) (order : List Nat),
        order.Perm (List.range (i.writtenFields m).length) →
          l.materializeAll t m ⟨arranged order (i.columns m),
            (cut (i.writtenFields m).length i.rows.length q.args).map fun row =>
              arranged order (row.map Value.returned)⟩ =
            .ok (i.rows.map fun e => e.keeping (i.writtenFields m) default) := by
  have hwritten : (i.template d k m).failure? m = none :=
    failure?_template_of_fits h hknown hrows hupsert
  refine ⟨⟨String.ofList ((i.template d k m).chars m), (i.template d k m).args⟩,
    Template.toQuery_eq_ok_iff.2 ⟨hwritten, String.toList_ofList, rfl⟩, fun l order horder => ?_⟩
  rw [Materializer.materializeAll, cut_args_template h hknown hrows hwritten, List.map_map]
  exact Materializer.materializeRows_map fun e he =>
    materialize_arranged h hknown hdefault hnodup (hrows e he) horder

/-! ## An example -/

/-- Users, with a remark that may be missing. -/
def userType : EntityType where
  name := "User"
  fields := [
    { name := "Active", type := .bool },
    { name := "score", type := .single },
    { name := "remark", type := .optional .text }]

def userModel : TableModel where
  table := "user"
  fields := [⟨"Active", "Active", "active", .bool, false, 0⟩,
    ⟨"score", "score", "score", .float, false, 1⟩, ⟨"remark", "remark", "remark", .text, true, 2⟩]

/-- Two users without their scores. -/
def userInsert : Insert userType where
  rows := [⟨[.bool true, .float ⟨0x3ff8000000000000⟩, .null]⟩,
    ⟨[.bool false, .float ⟨0x3ff8000000000000⟩, .text "é"]⟩]
  fields := ["remark", "Active"]
  upsert := some [.value "score" (.int 0)]

theorem read_back_users :
    (∀ e ∈ userInsert.rows, e.Fits) ∧ userInsert.fields.Nodup ∧
    ∃ q, userInsert.query .sqlite .reflective userModel = .ok q ∧
      Materializer.positional.materializeAll userType userModel
        ⟨["active", "remark"],
          (cut 2 2 q.args).map fun row => arranged [1, 0] (row.map Value.returned)⟩ =
      .ok [⟨[.bool true, .float (Double.zero false), .null]⟩,
        ⟨[.bool false, .float (Double.zero false), .text "é"]⟩] := by
  have hsingle : ∃ y : Double, y.toSingle = ⟨0x3ff8000000000000⟩ :=
    ⟨⟨0x3ff8000000000000⟩, by decide +kernel⟩
  have hfits : ∀ e ∈ userInsert.rows, e.Fits := by
    have hrow : ∀ (b : Bool) (v : Value), v = .null ∨ (∃ s, v = .text s) →
        (⟨[.bool b, .float ⟨0x3ff8000000000000⟩, v]⟩ : Entity userType).Fits := by
      rintro b v (rfl | ⟨s, rfl⟩)
      · exact .cons trivial (.cons hsingle (.cons (Or.inl rfl) .nil))
      · exact .cons trivial (.cons hsingle (.cons (Or.inr trivial) .nil))
    rw [userInsert, List.forall_mem_cons, List.forall_mem_singleton]
    exact ⟨hrow true .null (Or.inl rfl), hrow false (.text "é") (Or.inr ⟨_, rfl⟩)⟩
  obtain ⟨q, hquery, hread⟩ := read_back (m := userModel) rfl (Entity.fits_initial userType) userInsert
    hfits (by decide) (by decide) (by decide) .sqlite .reflective
  exact ⟨hfits, by decide, q, hquery, hread .positional [1, 0] (by decide)⟩

end Insert

end EntityStore
