import Mathlib.Data.List.Nodup
import EntityStore.Model.Table

/-!
# Models are unambiguous

Fields are added to a model one after the other. While none repeats a column or a mapping key of those
before it (`TableModel.Repeats`), the model has the described fields, in order and each at its position
(`addFields_eq_ok_iff`), and the first one that does is the error (`addFields_eq_error_iff`). So a type
has a model iff there is a record behind all pointers whose fields are apart
(`ofDescriptor_eq_ok_iff`). No two fields of a model share a column, a mapping key or a name
(`TableModel.Unambiguous`), since fields of one name would have one column. A look-up therefore finds a
field iff it is the only one of the model with what is looked for
(`TableModel.model_iff_unambiguous`).
-/

namespace EntityStore

namespace TableModel

/-! ## Names of a model -/

/-- No name that a model writes into a statement has a given character. -/
structure FreeOf (m : TableModel) (c : Char) : Prop where
  table : c ∉ m.table.toList
  columns : ∀ f ∈ m.fields, c ∉ f.column.toList

/-- No two fields share a column, a mapping key or a name. -/
structure Unambiguous (m : TableModel) : Prop where
  columns : (m.fields.map (·.column)).Nodup
  keys : (m.fields.map (·.key)).Nodup
  names : (m.fields.map (·.name)).Nodup

theorem field?_eq_none_iff {m : TableModel} {name : String} :
    m.field? name = none ↔ name ∉ m.fields.map (·.name) := by
  simp [field?, List.find?_eq_none]

theorem fieldByColumn?_eq_none_iff {m : TableModel} {column : String} :
    m.fieldByColumn? column = none ↔ column ∉ m.fields.map (·.column) := by
  simp [fieldByColumn?, List.find?_eq_none]

theorem fieldByKey?_eq_none_iff {m : TableModel} {key : String} :
    m.fieldByKey? key = none ↔ key ∉ m.fields.map (·.key) := by
  simp [fieldByKey?, List.find?_eq_none]

/-! ## Described fields -/

@[simp] theorem column_fieldAt (d : FieldDescriptor) (i : Nat) :
    (fieldAt d i).column = underscoreName d.name := rfl

/-- The model with the described fields, each at its position. -/
def described (table : String) (ds : List FieldDescriptor) : TableModel :=
  ⟨table, ds.mapIdx fun i d => fieldAt d i⟩

/-- The columns of described fields. -/
def columnsOf (ds : List FieldDescriptor) : List String := ds.map fun d => underscoreName d.name

/-- The mapping keys of described fields. -/
def keysOf (ds : List FieldDescriptor) : List String := ds.map (·.key)

/-- No two of the described fields share a column or a mapping key. -/
structure Apart (ds : List FieldDescriptor) : Prop where
  columns : (columnsOf ds).Nodup
  keys : (keysOf ds).Nodup

/-- How a field repeats what stands before it: its column, or only its mapping key. -/
inductive Repeats (table : String) (before : List FieldDescriptor) (d : FieldDescriptor) :
    SchemaError → Prop where
  | column : underscoreName d.name ∈ columnsOf before →
      Repeats table before d (.duplicateColumn table (underscoreName d.name))
  | key : underscoreName d.name ∉ columnsOf before → d.key ∈ keysOf before →
      Repeats table before d (.duplicateTag table d.key)

section

variable {table : String} {done before ds rest : List FieldDescriptor} {d : FieldDescriptor}
  {e e' : SchemaError} {m : TableModel}

theorem map_fields_described {α : Type} {g : Field → α} {f : FieldDescriptor → α}
    (hg : ∀ d i, g (fieldAt d i) = f d) : (described table ds).fields.map g = ds.map f := by
  refine List.ext_getElem? fun i => ?_
  rw [described, List.getElem?_map, List.getElem?_mapIdx, List.getElem?_map]
  cases ds[i]? with
  | none => rfl
  | some d => exact congrArg some (hg d i)

theorem map_column_described : (described table ds).fields.map (·.column) = columnsOf ds :=
  map_fields_described fun _ _ => rfl

theorem map_key_described : (described table ds).fields.map (·.key) = keysOf ds :=
  map_fields_described fun _ _ => rfl

theorem apart_nil : Apart [] := ⟨List.nodup_nil, List.nodup_nil⟩

theorem Apart.of_append (h : Apart (ds ++ rest)) : Apart ds := by
  have hc := h.columns
  have hk := h.keys
  rw [columnsOf, List.map_append] at hc
  rw [keysOf, List.map_append] at hk
  exact ⟨hc.of_append_left, hk.of_append_left⟩

theorem Repeats.unique (h : Repeats table before d e) (h' : Repeats table before d e') : e = e' := by
  cases h with
  | column hc =>
    cases h' with
    | column => rfl
    | key hc' => exact absurd hc hc'
  | key hc =>
    cases h' with
    | column hc' => exact absurd hc' hc
    | key => rfl

/-- A field can follow others iff it repeats nothing of them. -/
theorem apart_concat_iff :
    Apart (done ++ [d]) ↔ Apart done ∧ ∀ e, ¬ Repeats table done d e := by
  have hcolumns : (columnsOf (done ++ [d])).Nodup ↔
      underscoreName d.name ∉ columnsOf done ∧ (columnsOf done).Nodup := by
    rw [columnsOf, List.map_append, List.nodup_append_comm]
    exact List.nodup_cons
  have hkeys : (keysOf (done ++ [d])).Nodup ↔ d.key ∉ keysOf done ∧ (keysOf done).Nodup := by
    rw [keysOf, List.map_append, List.nodup_append_comm]
    exact List.nodup_cons
  constructor
  · rintro ⟨hc, hk⟩
    obtain ⟨hcol, hc⟩ := hcolumns.1 hc
    obtain ⟨hkey, hk⟩ := hkeys.1 hk
    refine ⟨⟨hc, hk⟩, ?_⟩
    rintro e (h | ⟨-, h⟩)
    · exact hcol h
    · exact hkey h
  · rintro ⟨⟨hc, hk⟩, hno⟩
    have hcol : underscoreName d.name ∉ columnsOf done := fun h => hno _ (.column h)
    exact ⟨hcolumns.2 ⟨hcol, hc⟩, hkeys.2 ⟨fun h => hno _ (.key hcol h), hk⟩⟩

/-! ## Adding fields -/

/-- The described fields that are there are looked through, and the next one is added if it repeats
nothing of them. -/
theorem addFields_described_cons : addFields (described table done) (d :: rest) =
    if underscoreName d.name ∈ columnsOf done then
      .error (.duplicateColumn table (underscoreName d.name))
    else if d.key ∈ keysOf done then .error (.duplicateTag table d.key)
    else addFields (described table (done ++ [d])) rest := by
  have hcolumn : ((described table done).fieldByColumn? (underscoreName d.name)).isSome ↔
      underscoreName d.name ∈ columnsOf done := by
    rw [← Option.ne_none_iff_isSome, ne_eq, fieldByColumn?_eq_none_iff, map_column_described,
      not_not]
  have hkey : ((described table done).fieldByKey? d.key).isSome ↔ d.key ∈ keysOf done := by
    rw [← Option.ne_none_iff_isSome, ne_eq, fieldByKey?_eq_none_iff, map_key_described, not_not]
  have hadded : { described table done with
      fields := (described table done).fields ++ [fieldAt d (described table done).fields.length] } =
        described table (done ++ [d]) := by
    simp [described, List.mapIdx_concat]
  rw [addFields, hadded]
  exact if_congr hcolumn rfl (if_congr hkey rfl rfl)

theorem addFields_of_repeats (h : Repeats table done d e) :
    addFields (described table done) (d :: rest) = .error e := by
  rw [addFields_described_cons]
  cases h with
  | column hc => rw [if_pos hc]
  | key hc hk => rw [if_neg hc, if_pos hk]

theorem addFields_of_not_repeats (h : ∀ e, ¬ Repeats table done d e) :
    addFields (described table done) (d :: rest) =
      addFields (described table (done ++ [d])) rest := by
  have hc : underscoreName d.name ∉ columnsOf done := fun hc => h _ (.column hc)
  rw [addFields_described_cons, if_neg hc, if_neg fun hk => h _ (.key hc hk)]

/-- Fields can be added iff none of them repeats a column or a mapping key. -/
theorem addFields_eq_ok_iff (hdone : Apart done) : addFields (described table done) ds = .ok m ↔
    Apart (done ++ ds) ∧ m = described table (done ++ ds) := by
  induction ds generalizing done with
  | nil => simp [addFields, hdone, eq_comm]
  | cons d rest ih =>
    rw [List.append_cons]
    by_cases h : ∀ e, ¬ Repeats table done d e
    · rw [addFields_of_not_repeats h, ih (apart_concat_iff.2 ⟨hdone, h⟩)]
    · obtain ⟨e, he⟩ := not_forall_not.1 h
      rw [addFields_of_repeats he]
      exact ⟨nofun, fun hall => absurd he ((apart_concat_iff.1 hall.1.of_append).2 e)⟩

/-- The error is that of the first field that repeats something before it. -/
theorem addFields_eq_error_iff (hdone : Apart done) :
    addFields (described table done) ds = .error e ↔ ∃ before d after, ds = before ++ d :: after ∧
      Apart (done ++ before) ∧ Repeats table (done ++ before) d e := by
  induction ds generalizing done with
  | nil => simp [addFields]
  | cons d rest ih =>
    by_cases h : ∀ e, ¬ Repeats table done d e
    · rw [addFields_of_not_repeats h, ih (apart_concat_iff.2 ⟨hdone, h⟩)]
      constructor
      · rintro ⟨before, d', after, rfl, hapart, hrep⟩
        rw [← List.append_cons] at hapart hrep
        exact ⟨d :: before, d', after, rfl, hapart, hrep⟩
      · rintro ⟨before, d', after, heq, hapart, hrep⟩
        cases before with
        | nil =>
          cases heq
          rw [List.append_nil] at hrep
          exact absurd hrep (h e)
        | cons b before =>
          cases heq
          rw [List.append_cons] at hapart hrep
          exact ⟨before, d', after, rfl, hapart, hrep⟩
    · obtain ⟨e', he'⟩ := not_forall_not.1 h
      rw [addFields_of_repeats he']
      constructor
      · rintro ⟨⟩
        refine ⟨[], d, rest, rfl, ?_, ?_⟩
        · rwa [List.append_nil]
        · rwa [List.append_nil]
      · rintro ⟨before, d', after, heq, hapart, hrep⟩
        cases before with
        | nil =>
          cases heq
          rw [List.append_nil] at hrep
          rw [he'.unique hrep]
        | cons b before =>
          cases heq
          rw [List.append_cons] at hapart
          exact absurd he' ((apart_concat_iff.1 hapart.of_append).2 e')

end

/-! ## Models of descriptions -/

section

variable {d : TypeDescriptor} {m : TableModel}

/-- A type has a model iff there is a record behind all pointers, no two fields of which share a
column or a mapping key. -/
theorem ofDescriptor_eq_ok_iff : ofDescriptor d = .ok m ↔ ∃ name ds,
    d.resolve = .record name ds ∧ Apart ds ∧ m = described (underscoreName name) ds := by
  unfold ofDescriptor
  split
  · next name ds hd =>
    refine (addFields_eq_ok_iff apart_nil).trans ⟨fun h => ⟨name, ds, hd, h⟩, ?_⟩
    rintro ⟨name', ds', hd', h⟩
    cases hd.symm.trans hd'
    exact h
  · next hd =>
    refine ⟨nofun, ?_⟩
    rintro ⟨name, ds, h, -⟩
    exact absurd h (hd name ds)

/-- A type without a model is refused as what stands behind all pointers, or for the first field that
repeats something before it. -/
theorem ofDescriptor_eq_error_iff {e : SchemaError} : ofDescriptor d = .error e ↔
    ((∀ name ds, d.resolve ≠ .record name ds) ∧ e = .unsupportedType d.resolve.typeName) ∨
    ∃ name before f after, d.resolve = .record name (before ++ f :: after) ∧ Apart before ∧
      Repeats (underscoreName name) before f e := by
  unfold ofDescriptor
  split
  · next name ds hd =>
    refine (addFields_eq_error_iff apart_nil).trans ⟨?_, ?_⟩
    · rintro ⟨before, f, after, rfl, h⟩
      exact .inr ⟨name, before, f, after, hd, h⟩
    · rintro (⟨hne, -⟩ | ⟨name', before, f, after, hd', h⟩)
      · exact absurd hd (hne name ds)
      · cases hd.symm.trans hd'
        exact ⟨before, f, after, rfl, h⟩
  · next hd =>
    constructor
    · rintro ⟨⟩
      exact .inl ⟨hd, rfl⟩
    · rintro (⟨-, rfl⟩ | ⟨name, before, f, after, h, -⟩)
      · rfl
      · exact absurd h (hd name _)

/-- A model has the described fields, each at its position. -/
theorem fields_of_ofDescriptor (h : ofDescriptor d = .ok m) :
    ∃ name fields, d.resolve = .record name fields ∧
      m.fields = fields.mapIdx fun i d => fieldAt d i := by
  obtain ⟨name, ds, hd, -, rfl⟩ := ofDescriptor_eq_ok_iff.1 h
  exact ⟨name, ds, hd, rfl⟩

/-- The column of a field is its name in lower case. -/
theorem column_of_mem_fields (h : ofDescriptor d = .ok m) {f : Field} (hf : f ∈ m.fields) :
    f.column = underscoreName f.name := by
  obtain ⟨name, fields, -, hfields⟩ := fields_of_ofDescriptor h
  rw [hfields] at hf
  obtain ⟨i, hi, rfl⟩ := List.mem_mapIdx.1 hf
  rfl

/-- No two fields of a model share a column, a mapping key or a name. -/
theorem unambiguous_of_ofDescriptor (h : ofDescriptor d = .ok m) : m.Unambiguous := by
  obtain ⟨name, ds, -, hapart, rfl⟩ := ofDescriptor_eq_ok_iff.1 h
  refine ⟨map_column_described ▸ hapart.columns, map_key_described ▸ hapart.keys, ?_⟩
  -- fields of one name would have one column
  have hcolumns : (ds.map (·.name)).map underscoreName = columnsOf ds := List.map_map
  rw [map_fields_described (f := (·.name)) fun _ _ => rfl]
  exact List.Nodup.of_map underscoreName (hcolumns ▸ hapart.columns)

end

/-! ## Look-ups -/

/-- Looking for a key that no two entries share finds the entry of that key. -/
theorem find?_key_eq_some_iff {α : Type} {key : α → String} {l : List α} (h : (l.map key).Nodup)
    {k : String} {x : α} : l.find? (key · == k) = some x ↔ x ∈ l ∧ key x = k := by
  constructor
  · intro hx
    exact ⟨List.mem_of_find?_eq_some hx, by simpa using List.find?_some hx⟩
  · rintro ⟨hx, rfl⟩
    cases hy : l.find? (key · == key x) with
    | none => exact absurd (List.find?_eq_none.1 hy x hx) (by simp)
    | some y =>
      have hkey : key y = key x := by simpa using List.find?_some hy
      rw [List.inj_on_of_nodup_map h (List.mem_of_find?_eq_some hy) hx hkey]

namespace Unambiguous

variable {m : TableModel}

theorem field?_eq_some_iff (h : m.Unambiguous) {name : String} {f : Field} :
    m.field? name = some f ↔ f ∈ m.fields ∧ f.name = name :=
  find?_key_eq_some_iff h.names

theorem fieldByColumn?_eq_some_iff (h : m.Unambiguous) {column : String} {f : Field} :
    m.fieldByColumn? column = some f ↔ f ∈ m.fields ∧ f.column = column :=
  find?_key_eq_some_iff h.columns

theorem fieldByKey?_eq_some_iff (h : m.Unambiguous) {key : String} {f : Field} :
    m.fieldByKey? key = some f ↔ f ∈ m.fields ∧ f.key = key :=
  find?_key_eq_some_iff h.keys

/-- A field is known by its column. -/
theorem eq_of_column_eq (h : m.Unambiguous) {f g : Field} (hf : f ∈ m.fields) (hg : g ∈ m.fields)
    (hc : f.column = g.column) : f = g :=
  List.inj_on_of_nodup_map h.columns hf hg hc

end Unambiguous

/-! ## Which types have a model -/

/-- `f` is the only field of a model for which `label` is `k`. -/
structure IsOnly (m : TableModel) (label : Field → String) (k : String) (f : Field) : Prop where
  mem : f ∈ m.fields
  label_eq : label f = k
  only : ∀ g ∈ m.fields, label g = k → g = f

theorem isOnly_iff_of_nodup {m : TableModel} {label : Field → String} {k : String} {f : Field}
    (h : (m.fields.map label).Nodup) : m.IsOnly label k f ↔ f ∈ m.fields ∧ label f = k := by
  refine ⟨fun hf => ⟨hf.mem, hf.label_eq⟩, ?_⟩
  rintro ⟨hf, rfl⟩
  exact ⟨hf, rfl, fun g hg hlabel => List.inj_on_of_nodup_map h hg hf hlabel⟩

/-- A type has a model iff behind all its pointers is a record whose fields share neither a column nor
a mapping key. Any other type is refused: if there is no record, by the name of what there is; else for
the first field that repeats something before it, for its column if that is repeated, and for its
mapping key if only that is. A model has the fields in the order of their declaration, each with its
position and no two of one name, and each look-up finds the only field with what is looked for. -/
theorem model_iff_unambiguous (d : TypeDescriptor) :
    (∀ m, ofDescriptor d = .ok m ↔ ∃ name ds, d.resolve = .record name ds ∧ Apart ds ∧
      m = described (underscoreName name) ds) ∧
    (∀ e, ofDescriptor d = .error e ↔
      ((∀ name ds, d.resolve ≠ .record name ds) ∧ e = .unsupportedType d.resolve.typeName) ∨
      ∃ name before f after, d.resolve = .record name (before ++ f :: after) ∧ Apart before ∧
        Repeats (underscoreName name) before f e) ∧
    ∀ m, ofDescriptor d = .ok m →
      (∀ (i : Nat) (f : Field), m.fields[i]? = some f → f.offset = i) ∧ (m.fields.map (·.name)).Nodup ∧
      ∀ k f, (m.field? k = some f ↔ m.IsOnly (·.name) k f) ∧
        (m.fieldByKey? k = some f ↔ m.IsOnly (·.key) k f) ∧
        (m.fieldByColumn? k = some f ↔ m.IsOnly (·.column) k f) := by
  refine ⟨fun m => ofDescriptor_eq_ok_iff, fun e => ofDescriptor_eq_error_iff, fun m h => ?_⟩
  have hm := unambiguous_of_ofDescriptor h
  refine ⟨fun i f hf => ?_, hm.names, fun k f => ⟨?_, ?_, ?_⟩⟩
  · obtain ⟨name, ds, -, hfields⟩ := fields_of_ofDescriptor h
    rw [hfields, List.getElem?_mapIdx] at hf
    obtain ⟨d, -, rfl⟩ := Option.map_eq_some_iff.1 hf
    rfl
  · exact hm.field?_eq_some_iff.trans (isOnly_iff_of_nodup hm.names).symm
  · exact hm.fieldByKey?_eq_some_iff.trans (isOnly_iff_of_nodup hm.keys).symm
  · exact hm.fieldByColumn?_eq_some_iff.trans (isOnly_iff_of_nodup hm.columns).symm

/-- A field with its mapping key. -/
def keyed (name : String) (tag : Option String) : FieldDescriptor := ⟨name, tag, .int, false⟩

/-- Two fields may exchange their names as mapping keys. A field that repeats the column of one before
it, and its mapping key as well, is refused for its column. -/
theorem model_iff_unambiguous_exchanged :
    (∃ m, ofDescriptor (.indirect (.record "Pair" [keyed "left" "right", keyed "right" "left"])) =
        .ok m ∧ m.fieldByKey? "right" = m.field? "left" ∧ (m.field? "left").isSome) ∧
    ofDescriptor (.indirect (.record "Clash" [keyed "userId" none, keyed "user_id" "userId"])) =
      .error (.duplicateColumn "clash" "user_id") := by
  constructor
  · obtain ⟨hok, -, hlookups⟩ := model_iff_unambiguous
      (.indirect (.record "Pair" [keyed "left" "right", keyed "right" "left"]))
    have hmodel := (hok _).2 ⟨"Pair", _, rfl, ⟨by decide +kernel, by decide +kernel⟩, rfl⟩
    obtain ⟨-, -, hfind⟩ := hlookups _ hmodel
    have hleft := (hfind "left" ⟨"left", "right", "left", .int, false, 0⟩).1.2
      ⟨by decide +kernel, rfl, by decide +kernel⟩
    have hright := (hfind "right" ⟨"left", "right", "left", .int, false, 0⟩).2.1.2
      ⟨by decide +kernel, rfl, by decide +kernel⟩
    exact ⟨_, hmodel, hright.trans hleft.symm, by rw [hleft]; rfl⟩
  · refine ((model_iff_unambiguous _).2.1 _).2 (.inr ⟨"Clash", [keyed "userId" none], _, [], rfl,
      ⟨by decide +kernel, by decide +kernel⟩, ?_⟩)
    have hcolumn : underscoreName "user_id" = "user_id" := by decide +kernel
    have htable : underscoreName "Clash" = "clash" := by decide +kernel
    have hrepeats : Repeats "clash" [keyed "userId" none] (keyed "user_id" "userId")
        (.duplicateColumn "clash" (underscoreName "user_id")) := .column (by decide +kernel)
    rwa [hcolumn, ← htable] at hrepeats

end TableModel

end EntityStore
