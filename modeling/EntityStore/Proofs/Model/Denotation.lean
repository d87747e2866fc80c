import EntityStore.Proofs.Model.Table
import EntityStore.Proofs.Text.Case

/-!
# What a name denotes

A field goes by two names, its own and that of its column (`TableModel.Denotes`), and both are looked
for in the same texts: in conditions and in the columns of results.

Writing a name with underscores leaves no upper-case letter in it, provided that its letters can be
lowered, so doing it again changes nothing (`underscoreName_underscoreName`). Whichever of its two
names a field is denoted by, its column is therefore that name with underscores
(`TableModel.column_of_denotes`), and no two fields share a column. So a name denotes one field at
most (`TableModel.clear_of_ofDescriptor`), and it does not matter among which names it is looked up
(`TableModel.Clear.fieldForRowColumn?_of_field?`).
-/

namespace EntityStore

/-! ## Names with underscores -/

section

variable {s : List Char} {name : String}

/-- Each character is written in lower case, behind an underscore if it is an upper-case letter that
does not lead the name. -/
theorem underscoreChars_cons (leading : Bool) (c : Char) (rest : List Char) :
    underscoreChars leading (c :: rest) =
      (if Text.isUpper c && !leading then ['_'] else []) ++
        (Text.lower c ++ underscoreChars false rest) := by
  cases hc : Text.isUpper c with
  | true => cases leading <;> simp [underscoreChars, hc]
  | false => simp [underscoreChars, hc, Text.lower_of_not_upper hc]

/-- No upper-case letter is left in a name written with underscores. -/
theorem isUpper_of_mem_underscoreChars (h : Text.Lowers s) {leading : Bool} {l : Char}
    (hl : l ∈ underscoreChars leading s) : Text.isUpper l = false := by
  induction s generalizing leading with
  | nil => cases hl
  | cons c rest ih =>
    rw [underscoreChars_cons, List.mem_append, List.mem_append] at hl
    -- an underscore, a letter of the lower-case form, or something further on
    rcases hl with hmark | hletter | hrest
    · have hunderscore : l = '_' := by
        split at hmark
        · exact List.mem_singleton.1 hmark
        · cases hmark
      rw [hunderscore, Text.isUpper_of_ascii (by decide)]
      rfl
    · exact h.isUpper_eq_false List.mem_cons_self hletter
    · exact ih h.of_cons hrest

/-- A name written with underscores is written so already. -/
theorem underscoreName_underscoreName (h : Text.Lowers name.toList) :
    underscoreName (underscoreName name) = underscoreName name := by
  have hlower : ∀ l ∈ underscoreChars true name.toList, Text.isUpper l = false :=
    fun l hl => isUpper_of_mem_underscoreChars h hl
  rw [underscoreName, underscoreName, String.toList_ofList, underscoreChars_of_lower true _ hlower]

end

/-! ## Fields and their names -/

namespace TableModel

variable {d : TypeDescriptor} {m : TableModel} {k : String} {f g : Field}

/-- A name denotes the field that has it and the field whose column has it. -/
def Denotes (m : TableModel) (k : String) (f : Field) : Prop :=
  f ∈ m.fields ∧ (f.name = k ∨ f.column = k)

/-- No name denotes two fields. -/
def Clear (m : TableModel) : Prop := ∀ {k f g}, m.Denotes k f → m.Denotes k g → f = g

theorem denotes_of_field? (h : m.field? k = some f) : m.Denotes k f :=
  ⟨field?_mem h, .inl (field?_name h)⟩

theorem denotes_of_fieldByColumn? (h : m.fieldByColumn? k = some f) : m.Denotes k f := by
  have hcolumn := List.find?_some h
  exact ⟨List.mem_of_find?_eq_some h, .inr (beq_iff_eq.1 hcolumn)⟩

/-- The names of a model are those of the described fields. -/
theorem exists_described_of_mem {name : String} {ds : List FieldDescriptor}
    (hd : d.resolve = .record name ds) (h : ofDescriptor d = .ok m) (hf : f ∈ m.fields) :
    ∃ x ∈ ds, x.name = f.name := by
  obtain ⟨name', ds', hd', hfields⟩ := fields_of_ofDescriptor h
  cases hd.symm.trans hd'
  rw [hfields] at hf
  obtain ⟨i, hi, rfl⟩ := List.mem_mapIdx.1 hf
  exact ⟨ds[i], List.getElem_mem hi, rfl⟩

/-- The column of a field is the name that denotes it, written with underscores. -/
theorem column_of_denotes (h : ofDescriptor d = .ok m)
    (hlowers : ∀ f ∈ m.fields, Text.Lowers f.name.toList) (hf : m.Denotes k f) :
    f.column = underscoreName k := by
  obtain ⟨hmem, hname | hcolumn⟩ := hf
  · rw [column_of_mem_fields h hmem, hname]
  · -- the column is written with underscores, so writing it so again leaves it as it is
    have hfixed := underscoreName_underscoreName (hlowers f hmem)
    rw [← column_of_mem_fields h hmem, hcolumn] at hfixed
    exact hcolumn.trans hfixed.symm

/-- If the names of its fields can be lowered, no name denotes two fields of a model. -/
theorem clear_of_ofDescriptor (h : ofDescriptor d = .ok m)
    (hlowers : ∀ f ∈ m.fields, Text.Lowers f.name.toList) : m.Clear := by
  intro k f g hf hg
  refine (unambiguous_of_ofDescriptor h).eq_of_column_eq hf.1 hg.1 ?_
  rw [column_of_denotes h hlowers hf, column_of_denotes h hlowers hg]

/-- The field of a name is found also where columns are looked for first. -/
theorem Clear.fieldForRowColumn?_of_field? (h : m.Clear) (hf : m.field? k = some f) :
    m.fieldForRowColumn? k = some f := by
  unfold fieldForRowColumn?
  cases hg : m.fieldByColumn? k with
  | none => exact hf
  | some g =>
    have hgf : g = f := h (denotes_of_fieldByColumn? hg) (denotes_of_field? hf)
    exact congrArg some hgf

end TableModel

end EntityStore
