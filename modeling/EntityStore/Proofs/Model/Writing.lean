import EntityStore.Proofs.Model.Entity

/-!
# What copying a row writes

A column of a row stands for the field with that column, or else for the field of that name
(`TableModel.StandsFor`); if no field has either, nothing is written
(`Materializer.resolveColumns_eq_error`).

Writing a field of a derived record type reads a value as the type of the field and puts what was read
in its place, which leaves every other field alone (`Record.Layout`). So a sequence of writes leaves
in every field what the last write to it says (`Record.Layout.Written`). It ends at the first value
that does not fit its field (`Materializer.exists_written`).

Both together say what becomes of a record that a row is copied into, and which failure is told
(`Materializer.copyRow_writes`).
-/

namespace EntityStore

open TableModel (ofDescriptor fieldAt)

/-! ## Columns and fields -/

namespace TableModel

variable {m : TableModel} {c : String} {f : Field}

/-- A column or the name of a field. -/
def Knows (m : TableModel) (c : String) : Prop := ∃ f ∈ m.fields, f.column = c ∨ f.name = c

/-- A row's column stands for the field with that column, or else for the field of that name. -/
def StandsFor (m : TableModel) (c : String) (f : Field) : Prop :=
  f ∈ m.fields ∧ (f.column = c ∨ f.name = c ∧ ∀ g ∈ m.fields, g.column ≠ c)

theorem fieldForRowColumn?_eq_none_iff : m.fieldForRowColumn? c = none ↔ ¬ m.Knows c := by
  unfold fieldForRowColumn?
  cases hcolumn : m.fieldByColumn? c with
  | none =>
    have hne : ∀ f ∈ m.fields, f.column ≠ c := by
      simpa using fieldByColumn?_eq_none_iff.1 hcolumn
    simp only [field?_eq_none_iff, List.mem_map, not_exists, not_and, Knows, not_or]
    exact ⟨fun h f hf => ⟨hne f hf, h f hf⟩, fun h f hf => (h f hf).2⟩
  | some f =>
    simp only [reduceCtorEq, false_iff, not_not]
    have hf := List.find?_some hcolumn
    exact ⟨f, List.mem_of_find?_eq_some hcolumn, .inl (beq_iff_eq.1 hf)⟩

theorem Unambiguous.fieldForRowColumn?_eq_some_iff (h : m.Unambiguous) :
    m.fieldForRowColumn? c = some f ↔ m.StandsFor c f := by
  unfold fieldForRowColumn? StandsFor
  cases hcolumn : m.fieldByColumn? c with
  | none =>
    have hne : ∀ f ∈ m.fields, f.column ≠ c := by
      simpa using fieldByColumn?_eq_none_iff.1 hcolumn
    rw [h.field?_eq_some_iff]
    refine and_congr_right fun hf => ?_
    simp only [hne f hf, false_or, iff_self_and]
    exact fun _ => hne
  | some g =>
    obtain ⟨hg, hgc⟩ := h.fieldByColumn?_eq_some_iff.1 hcolumn
    rw [Option.some.injEq]
    constructor
    · rintro rfl
      exact ⟨hg, .inl hgc⟩
    · rintro ⟨hf, hfc | ⟨-, hno⟩⟩
      · exact h.eq_of_column_eq hg hf (hgc.trans hfc.symm)
      · exact absurd hgc (hno g hg)

end TableModel

namespace Materializer

variable {m : TableModel} {columns : List String}

/-- Columns are resolved iff each stands for a field. -/
theorem resolveColumns_eq_ok_iff (h : m.Unambiguous) {fs : List Field} :
    resolveColumns m columns = .ok fs ↔ List.Forall₂ m.StandsFor columns fs := by
  induction columns generalizing fs with
  | nil => simp [resolveColumns, eq_comm]
  | cons c columns ih =>
    rw [resolveColumns]
    cases hc : m.fieldForRowColumn? c with
    | none =>
      refine iff_of_false (by simp) fun hfs => ?_
      cases hfs with
      | cons hf _ => simp [h.fieldForRowColumn?_eq_some_iff.2 hf] at hc
    | some f =>
      constructor
      · intro hfs
        cases hrest : resolveColumns m columns with
        | error e => simp [hrest] at hfs
        | ok rest =>
          simp only [hrest, Except.ok.injEq] at hfs
          subst hfs
          exact .cons (h.fieldForRowColumn?_eq_some_iff.1 hc) (ih.1 hrest)
      · intro hfs
        cases hfs with
        | cons hf hrest =>
          rw [h.fieldForRowColumn?_eq_some_iff.2 hf, Option.some.injEq] at hc
          simp only [ih.2 hrest, hc]

/-- Otherwise the first column that stands for none is told. -/
theorem resolveColumns_eq_error {before after : List String} {c : String}
    (hbefore : ∀ x ∈ before, m.Knows x) (hc : ¬ m.Knows c) :
    resolveColumns m (before ++ c :: after) = .error (.result (.columnNotInSchema c)) := by
  induction before with
  | nil => rw [List.nil_append, resolveColumns, TableModel.fieldForRowColumn?_eq_none_iff.2 hc]
  | cons x before ih =>
    obtain ⟨hx, hrest⟩ := List.forall_mem_cons.1 hbefore
    obtain ⟨f, hf⟩ := Option.ne_none_iff_exists'.1
      (fun hnone => TableModel.fieldForRowColumn?_eq_none_iff.1 hnone hx)
    rw [List.cons_append, resolveColumns, hf, ih hrest]

/-- If every column is known, each stands for a field. -/
theorem exists_standsFor (h : m.Unambiguous) (hcolumns : ∀ c ∈ columns, m.Knows c) :
    ∃ fs, List.Forall₂ m.StandsFor columns fs := by
  induction columns with
  | nil => exact ⟨[], .nil⟩
  | cons c columns ih =>
    obtain ⟨hc, hrest⟩ := List.forall_mem_cons.1 hcolumns
    obtain ⟨f, hf⟩ := Option.ne_none_iff_exists'.1
      (fun hnone => TableModel.fieldForRowColumn?_eq_none_iff.1 hnone hc)
    obtain ⟨fs, hfs⟩ := ih hrest
    exact ⟨f :: fs, .cons (h.fieldForRowColumn?_eq_some_iff.1 hf) hfs⟩

end Materializer

/-! ## Fields and their contents -/

/-- How the records of a type are made up of their fields. Every field has a type of its own; writing
it reads a value as that type and puts what was read in place of what the field held. -/
structure Record.Layout (ρ : Type) [Record ρ] where
  /-- What the field at a position can hold. -/
  Content : Nat → Type
  /-- What the field at a position holds. -/
  content : (i : Nat) → ρ → Content i
  /-- The record with something else in the field at a position. -/
  put : (i : Nat) → Content i → ρ → ρ
  /-- Reads a value as what the field at a position can hold. -/
  read : (i : Nat) → Value → Except ValueError (Content i)
  /-- The record has all its fields. -/
  Whole : ρ → Prop
  set_eq : ∀ {i : Nat} {s : RecordField ρ}, fields[i]? = some s → ∀ (r : ρ) (v : Value),
    s.set r v = (read i v).map (put i · r)
  put_whole : ∀ {i : Nat} {r : ρ} (c : Content i), Whole r → Whole (put i c r)
  content_put : ∀ {i : Nat} {r : ρ} (c : Content i), i < (fields : List (RecordField ρ)).length →
    Whole r → content i (put i c r) = c
  content_put_of_ne : ∀ {i j : Nat} {r : ρ} (c : Content i), j ≠ i → content j (put i c r) = content j r

namespace Record.Layout

variable {ρ : Type} [Record ρ] {m : TableModel} {L : Layout ρ} {r r' : ρ}

/-- The record `r'` is what `r` becomes of some writes: a field holds what the last write to it says,
and a field without a write what it held before. -/
structure Written (L : Layout ρ) (m : TableModel) (writes : List (Field × Value)) (r r' : ρ) :
    Prop where
  last : ∀ {before f v after}, writes = before ++ (f, v) :: after → (∀ w ∈ after, w.1 ≠ f) →
    L.read f.offset v = .ok (L.content f.offset r')
  others : ∀ f ∈ m.fields, (∀ w ∈ writes, w.1 ≠ f) → L.content f.offset r' = L.content f.offset r

theorem written_nil (L : Layout ρ) (m : TableModel) (r : ρ) : L.Written m [] r r :=
  ⟨fun h => by simp at h, fun _ _ _ => rfl⟩

end Record.Layout

namespace Record

variable {ρ : Type} [Record ρ] {m : TableModel} {f g : Field}

/-- Fields of a model are told apart by their positions. -/
theorem eq_of_offset_eq (h : ofDescriptor (descriptor ρ) = .ok m) (hf : f ∈ m.fields)
    (hg : g ∈ m.fields) (hoffset : f.offset = g.offset) : f = g := by
  rw [fields_of_model h, List.mem_mapIdx] at hf hg
  obtain ⟨i, _, rfl⟩ := hf
  obtain ⟨j, _, rfl⟩ := hg
  obtain rfl : i = j := hoffset
  rfl

theorem offset_lt (h : ofDescriptor (descriptor ρ) = .ok m) (hf : f ∈ m.fields) :
    f.offset < (fields : List (RecordField ρ)).length := by
  obtain ⟨s, hs, -⟩ := exists_field h hf
  exact (List.getElem?_eq_some_iff.1 hs).1

/-- A first write comes in front of writes that leave its field alone, or is overwritten. -/
theorem Layout.Written.cons {L : Layout ρ} {r r' : ρ} {v : Value} {c : L.Content f.offset}
    {writes : List (Field × Value)} (h : ofDescriptor (descriptor ρ) = .ok m) (hf : f ∈ m.fields)
    (hwrites : ∀ w ∈ writes, w.1 ∈ m.fields) (hr : L.Whole r) (hread : L.read f.offset v = .ok c)
    (hrest : L.Written m writes (L.put f.offset c r) r') : L.Written m ((f, v) :: writes) r r' := by
  constructor
  · intro before g w after heq hlast
    cases before with
    | nil =>
      cases heq
      rw [hrest.others f hf hlast, L.content_put c (offset_lt h hf) hr, hread]
    | cons _ before =>
      cases heq
      exact hrest.last rfl hlast
  · intro g hg hother
    obtain ⟨hne, hothers⟩ := List.forall_mem_cons.1 hother
    have hoffset : g.offset ≠ f.offset := fun heq => hne (eq_of_offset_eq h hf hg heq.symm)
    rw [hrest.others g hg hothers, L.content_put_of_ne c hoffset]

end Record

namespace Materializer

variable {ρ : Type} [Record ρ] {m : TableModel} {f : Field}

/-- Writing a field of a model puts what was read of the value in its place. -/
theorem writeField_eq_put (h : ofDescriptor (Record.descriptor ρ) = .ok m) (L : Record.Layout ρ)
    (hf : f ∈ m.fields) (k : Materializer) (r : ρ) (v : Value) :
    k.writeField r f v = (L.read f.offset v).map (L.put f.offset · r) := by
  obtain ⟨s, hs, -⟩ := Record.exists_field h hf
  rw [writeField_eq_setAt h hf, Record.setAt, hs]
  exact L.set_eq hs r v

/-- Writes are done up to the first value that does not fit its field. -/
theorem exists_written (h : ofDescriptor (Record.descriptor ρ) = .ok m) (L : Record.Layout ρ)
    (k : Materializer) {writes : List (Field × Value)} (hwrites : ∀ w ∈ writes, w.1 ∈ m.fields)
    {r : ρ} (hr : L.Whole r) :
    ∃ done rest r', writes = done ++ rest ∧ L.Written m done r r' ∧
      (∀ w ∈ done, ∃ c, L.read w.1.offset w.2 = .ok c) ∧
      (rest = [] ∧ k.writeFields r writes = (r', none) ∨
        ∃ f v after err, rest = (f, v) :: after ∧ L.read f.offset v = .error err ∧
          k.writeFields r writes = (r', some (.ofValue err))) := by
  induction writes generalizing r with
  | nil => exact ⟨[], [], r, rfl, L.written_nil m r, nofun, .inl ⟨rfl, rfl⟩⟩
  | cons w writes ih =>
    obtain ⟨f, v⟩ := w
    obtain ⟨hf, htail⟩ := List.forall_mem_cons.1 hwrites
    have hstep := writeField_eq_put h L hf k r v
    cases hread : L.read f.offset v with
    | error err =>
      rw [hread] at hstep
      refine ⟨[], (f, v) :: writes, r, rfl, L.written_nil m r, nofun,
        .inr ⟨f, v, writes, err, rfl, hread, ?_⟩⟩
      rw [writeFields, hstep]
      rfl
    | ok c =>
      rw [hread] at hstep
      have hgo : k.writeFields r ((f, v) :: writes) = k.writeFields (L.put f.offset c r) writes := by
        rw [writeFields, hstep]
        rfl
      obtain ⟨done, rest, r', rfl, hdone, hreads, hend⟩ := ih htail (L.put_whole c hr)
      have hfields : ∀ w ∈ done, w.1 ∈ m.fields := fun w hw => htail w (List.mem_append_left _ hw)
      refine ⟨(f, v) :: done, rest, r', rfl, .cons h hf hfields hr hread hdone, ?_, hgo ▸ hend⟩
      exact List.forall_mem_cons.2 ⟨⟨c, hread⟩, hreads⟩

/-- Copying a row with too many columns, or with a column that stands for no field, says so and leaves
the record as it was. Otherwise each column has its field, and values are written from left to right,
as many as there are of columns and values, up to the first that does not fit; its failure is told, and
the record is as the writes before it leave it. -/
theorem copyRow_writes (h : ofDescriptor (Record.descriptor ρ) = .ok m) (L : Record.Layout ρ)
    (k : Materializer) (columns : List String) (row : List Value) {r : ρ} (hr : L.Whole r) :
    (m.columnCount < columns.length →
      k.copyRow m columns row r =
        (r, some (.result (.columnCountMismatch m.columnCount columns.length)))) ∧
    (columns.length ≤ m.columnCount → ∀ before c after, columns = before ++ c :: after →
      (∀ x ∈ before, m.Knows x) → ¬ m.Knows c →
        k.copyRow m columns row r = (r, some (.result (.columnNotInSchema c)))) ∧
    (columns.length ≤ m.columnCount → (∀ c ∈ columns, m.Knows c) →
      ∃ fs, List.Forall₂ m.StandsFor columns fs ∧
        ∃ done rest r', fs.zip row = done ++ rest ∧ L.Written m done r r' ∧
          (∀ w ∈ done, ∃ c, L.read w.1.offset w.2 = .ok c) ∧
          (rest = [] ∧ k.copyRow m columns row r = (r', none) ∨
            ∃ f v after err, rest = (f, v) :: after ∧ L.read f.offset v = .error err ∧
              k.copyRow m columns row r = (r', some (.ofValue err)))) := by
  refine ⟨fun hcount => ?_, fun hcount before c after hcolumns hbefore hc => ?_,
    fun hcount hknown => ?_⟩
  · rw [copyRow, resolveRow, if_pos hcount]
  · rw [copyRow, resolveRow, if_neg (Nat.not_lt.2 hcount), hcolumns,
      resolveColumns_eq_error hbefore hc]
  · have hm := TableModel.unambiguous_of_ofDescriptor h
    obtain ⟨fs, hfs⟩ := exists_standsFor hm hknown
    have hresolve := (resolveColumns_eq_ok_iff hm).2 hfs
    have hcopy : k.copyRow m columns row r = k.writeFields r (fs.zip row) := by
      rw [copyRow, resolveRow, if_neg (Nat.not_lt.2 hcount), hresolve]
    have hwrites : ∀ w ∈ fs.zip row, w.1 ∈ m.fields := fun w hw =>
      resolveColumns_subset hresolve (List.of_mem_zip hw).1
    rw [hcopy]
    exact ⟨fs, hfs, exists_written h L k hwrites hr⟩

end Materializer

/-! ## Entities -/

namespace Entity

variable {t : EntityType} {i j : Nat}

/-- Reads a value as what the field at a position can hold. -/
def readAt (t : EntityType) (i : Nat) (v : Value) : Except ValueError Value :=
  t.fields[i]?.elim (.error (.unknownField (toString i))) (·.type.read v)

theorem set_eq_readAt {s : RecordField (Entity t)} (hs : Record.fields[i]? = some s) (e : Entity t)
    (v : Value) : s.set e v = (readAt t i v).map fun c => ⟨e.values.set i c⟩ := by
  simp only [Record.fields, List.getElem?_mapIdx, Option.map_eq_some_iff] at hs
  obtain ⟨spec, hspec, rfl⟩ := hs
  simp only [setAt, readAt, hspec, Option.elim_some]
  cases spec.type.read v <;> rfl

theorem le_length_set {e : Entity t} (c : Value) (he : t.fields.length ≤ e.values.length) :
    t.fields.length ≤ (e.values.set i c).length := by
  simpa using he

theorem getD_set_self {e : Entity t} (c : Value)
    (hi : i < (Record.fields : List (RecordField (Entity t))).length)
    (he : t.fields.length ≤ e.values.length) : (e.values.set i c).getD i .null = c := by
  have hlength : (Record.fields : List (RecordField (Entity t))).length = t.fields.length := by
    simp [Record.fields]
  simp [Nat.lt_of_lt_of_le (hlength ▸ hi) he]

theorem getD_set_of_ne {e : Entity t} (c : Value) (h : j ≠ i) :
    (e.values.set i c).getD j .null = e.values.getD j .null := by
  simp [List.getD_eq_getElem?_getD, List.getElem?_set_ne h.symm]

/-- An entity holds a value per field. -/
def layout (t : EntityType) : Record.Layout (Entity t) where
  Content _ := Value
  content i e := e.values.getD i .null
  put i c e := ⟨e.values.set i c⟩
  read := readAt t
  Whole e := t.fields.length ≤ e.values.length
  set_eq := set_eq_readAt
  put_whole := le_length_set
  content_put := getD_set_self
  content_put_of_ne := getD_set_of_ne

end Entity

/-- A second amount that is no number leaves the first amount and the remark behind. -/
theorem Materializer.copyRow_writes_order :
    ∃ fs, List.Forall₂ orderModel.StandsFor ["amount", "Remark", "amount"] fs ∧
      ∃ done rest, fs.zip [.int 5, .text "gift", .text "many"] = done ++ rest ∧ rest ≠ [] ∧
        (Entity.layout orderType).Written orderModel done (Entity.initial orderType)
          ⟨[.int 0, .int 5, .text "gift"]⟩ ∧
        positional.copyRow orderModel ["amount", "Remark", "amount"]
            [.int 5, .text "gift", .text "many"] (Entity.initial orderType) =
          (⟨[.int 0, .int 5, .text "gift"]⟩, some (.ofValue (.typeMismatch .int .text))) := by
  have hmodel : ofDescriptor (Record.descriptor (Entity orderType)) = .ok orderModel := by rfl
  have hcopy : positional.copyRow orderModel ["amount", "Remark", "amount"]
      [.int 5, .text "gift", .text "many"] (Entity.initial orderType) =
        (⟨[.int 0, .int 5, .text "gift"]⟩, some (.ofValue (.typeMismatch .int .text))) := by rfl
  have hknown : ∀ c ∈ ["amount", "Remark", "amount"], orderModel.Knows c := by
    simp [TableModel.Knows, orderModel]
  obtain ⟨-, -, hwrites⟩ := copyRow_writes hmodel (Entity.layout orderType) positional
    ["amount", "Remark", "amount"] [.int 5, .text "gift", .text "many"]
    (r := Entity.initial orderType) (by simp [Entity.layout])
  obtain ⟨fs, hfs, done, rest, r', hzip, hdone, -, hend⟩ := hwrites (by decide) hknown
  rw [hcopy] at hend
  rcases hend with ⟨-, hend⟩ | ⟨f, v, after, err, hrest, -, hend⟩
  · simp at hend
  · obtain rfl : _ = r' := congrArg Prod.fst hend
    exact ⟨fs, hfs, done, rest, hzip, by simp [hrest], hdone, hcopy⟩

end EntityStore
