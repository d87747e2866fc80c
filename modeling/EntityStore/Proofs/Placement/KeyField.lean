import EntityStore.Proofs.Model.Denotation
import EntityStore.Proofs.Placement.Pruning

/-!
# The field a placement splits by

A placement names its key, and both the field with that name and the field whose column has it count
as the key. In a model in which no name denotes two fields these are one field
(`Placement.eq_of_isKey`), and only its comparisons concern fewer than all targets
(`Placement.targets_eq_broadcast`). Rows can then be looked for by it
(`HashScheme.place_mem_of_isKey`).

Every model of a record whose names can be lowered is such a model
(`TableModel.name_denotes_one`). Other names may belong to two fields.
-/

namespace EntityStore

open TableModel (ofDescriptor keyed)

/-! ## Key fields -/

namespace Placement

variable {a : Placement} {m : TableModel} {f g : Field}

theorem isKey_iff : a.isKey f = true ↔ f.name = a.key ∨ f.column = a.key := by
  simp [isKey]

theorem denotes_key (hf : f ∈ m.fields) (hk : a.isKey f = true) : m.Denotes a.key f :=
  ⟨hf, isKey_iff.1 hk⟩

/-- No two fields count as the key. -/
theorem eq_of_isKey (hm : m.Clear) (hf : f ∈ m.fields) (hg : g ∈ m.fields)
    (hkf : a.isKey f = true) (hkg : a.isKey g = true) : f = g :=
  hm (denotes_key hf hkf) (denotes_key hg hkg)

/-- A comparison of any other field than the key concerns all targets. -/
theorem targets_eq_broadcast (hm : m.Clear) (hf : f ∈ m.fields) (hk : a.isKey f = true)
    {column : String} (hne : column ≠ f.name) {op : Comparison} {v : Value} {targets : TargetSet}
    (h : a.routePredicate m (.compare (.column column) op (.value v)) = .ok targets) :
    targets = a.broadcast () := by
  obtain ⟨name, g, ⟨⟩, hg, hall | ⟨hkg, -⟩⟩ := routeCompare_some_eq_ok h
  · exact hall
  · have hfg : f = g := eq_of_isKey hm hf (TableModel.field?_mem hg) hk hkg
    rw [hfg, TableModel.field?_name hg] at hne
    exact absurd rfl hne

end Placement

namespace HashScheme

variable {s : HashScheme} {m : TableModel} {f : Field}

/-- A field that counts as the key of a scheme is the only one. -/
theorem isKeyOf_iff (hm : m.Clear) : s.IsKeyOf m f ↔ f ∈ m.fields ∧ s.isKey f = true := by
  refine ⟨fun h => ⟨h.mem, h.isKey⟩, ?_⟩
  rintro ⟨hf, hk⟩
  exact ⟨hf, hk, fun g hg hkg => Placement.eq_of_isKey hm hg hf hkg hk⟩

/-- No row is lost to a field that is taken for the key. -/
theorem place_mem_of_isKey (hm : m.Clear) (hf : f ∈ m.fields) (hk : s.isKey f = true)
    {row : StoredRow} (hrow : row.Faithful m f) {p : Predicate} {targets : TargetSet}
    (h : s.routePredicate m p = .ok targets) (ht : p.truth row.reading = some true) :
    s.place row.key ∈ targets :=
  place_mem_routePredicate ((isKeyOf_iff hm).2 ⟨hf, hk⟩) hrow p h ht

end HashScheme

/-! ## One field for each name -/

namespace TableModel

/-- A name never denotes two fields of a model of a record whose names can be lowered, as all ASCII
names can: names with underscores keep them, and the field of a column and the field of a name are one
if column and name are. So a placement has one key at most, whose comparisons alone concern fewer than
all targets, and the field of a name is also the one that a result's column of that name stands for. -/
theorem name_denotes_one :
    (∀ s : String, (∀ c ∈ s.toList, c.toNat < 128) → Text.Lowers s.toList) ∧
    ∀ {d : TypeDescriptor} {name : String} {ds : List FieldDescriptor} {m : TableModel},
      d.resolve = .record name ds → (∀ x ∈ ds, Text.Lowers x.name.toList) → ofDescriptor d = .ok m →
        (∀ x ∈ ds, underscoreName (underscoreName x.name) = underscoreName x.name) ∧
        (∀ k, ∀ f ∈ m.fields, ∀ g ∈ m.fields, f.column = k → g.name = k → f = g) ∧
        (∀ (a : Placement), ∀ f ∈ m.fields, a.isKey f = true →
          (∀ g ∈ m.fields, a.isKey g = true → g = f) ∧
          ∀ column op v targets, column ≠ f.name →
            a.routePredicate m (.compare (.column column) op (.value v)) = .ok targets →
              targets = a.broadcast ()) ∧
        ∀ k f g, m.fieldForRowColumn? k = some f → m.field? k = some g → f = g := by
  refine ⟨fun s hs => Text.lowers_of_ascii hs, ?_⟩
  intro d name ds m hd hds h
  have hlowers : ∀ f ∈ m.fields, Text.Lowers f.name.toList := by
    intro f hf
    obtain ⟨x, hx, hname⟩ := exists_described_of_mem hd h hf
    rw [← hname]
    exact hds x hx
  have hm : m.Clear := clear_of_ofDescriptor h hlowers
  refine ⟨fun x hx => underscoreName_underscoreName (hds x hx), ?_, ?_, ?_⟩
  · intro k f hf g hg hcolumn hname
    exact hm ⟨hf, .inr hcolumn⟩ ⟨hg, .inl hname⟩
  · intro a f hf hk
    exact ⟨fun g hg hkg => Placement.eq_of_isKey hm hg hf hkg hk,
      fun column op v targets hne hroute => Placement.targets_eq_broadcast hm hf hk hne hroute⟩
  · intro k f g hcolumn hname
    rw [hm.fieldForRowColumn?_of_field? hname, Option.some.injEq] at hcolumn
    exact hcolumn.symm

/-- The fields of a ledger's entries. The second has the column of the first as its mapping key, and
the third a letter whose lower-case form has two characters. -/
def ledgerFields : List FieldDescriptor :=
  [keyed "userId" none, keyed "Amount" (some "user_id"), keyed "kodİ" none]

def ledgerKey : Field := ⟨"userId", "userId", "user_id", .int, false, 0⟩

def ledgerModel : TableModel where
  table := "ledger"
  fields := [ledgerKey, ⟨"Amount", "user_id", "amount", .int, false, 1⟩,
    ⟨"kodİ", "kodİ", "kod_i\u0307", .int, false, 2⟩]

/-- Entries of a ledger that are split by `user_id` are split by their first field alone. A comparison
of the second, which has that mapping key, concerns all targets. -/
theorem name_denotes_one_ledger :
    (∀ x ∈ ledgerFields, Text.Lowers x.name.toList) ∧
    ofDescriptor (.indirect (.record "Ledger" ledgerFields)) = .ok ledgerModel ∧
    (∀ g ∈ ledgerModel.fields, HashScheme.orderScheme.isKey g = true → g = ledgerKey) ∧
    HashScheme.orderScheme.routePredicate ledgerModel
      (.compare (.column "Amount") .eq (.value (.int 3))) = .ok HashScheme.orderScheme.broadcast ∧
    underscoreName (underscoreName "kodİ") = underscoreName "kodİ" := by
  have hlowers : ∀ x ∈ ledgerFields, Text.Lowers x.name.toList := by decide +kernel
  have hmodel : ofDescriptor (.indirect (.record "Ledger" ledgerFields)) = .ok ledgerModel := by
    decide +kernel
  obtain ⟨hnames, -, hkey, -⟩ := name_denotes_one.2 rfl hlowers hmodel
  obtain ⟨honly, hother⟩ := hkey HashScheme.orderScheme.placement ledgerKey (by decide) (by decide)
  have hroute : ∃ targets, HashScheme.orderScheme.routePredicate ledgerModel
      (.compare (.column "Amount") .eq (.value (.int 3))) = .ok targets := ⟨_, rfl⟩
  refine ⟨hlowers, hmodel, honly, ?_, hnames (keyed "kodİ" none) (by decide)⟩
  obtain ⟨targets, htargets⟩ := hroute
  rw [htargets, hother "Amount" .eq (.int 3) targets (by decide) htargets]
  rfl

/-- A capital without a lower-case form is written with an underscore each time, so the column of one
field can be the name of another. -/
example : (ofDescriptor (.record "Mark" [keyed "aϒ" none, keyed "a_ϒ" none])).map (fun m =>
    ((m.fieldByColumn? "a_ϒ").map (·.name), (m.field? "a_ϒ").map (·.name))) =
      .ok (some "aϒ", some "a_ϒ") := by
  decide +kernel

end TableModel

end EntityStore
