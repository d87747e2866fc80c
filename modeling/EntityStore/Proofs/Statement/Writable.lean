import EntityStore.Proofs.Statement.Filling
import EntityStore.Statement.Insert

/-!
# Which statements can be written

A column can be written iff its field is known, and a cell iff it can be read from its record. So an
insert can be written iff its columns and the fields of its assignments are known, and all its cells
can be read (`Insert.failure?_template_eq_none_iff`).
-/

namespace EntityStore

variable {m : TableModel}

namespace Template

@[simp] theorem failure?_quotedColumn_eq_none_iff {f : String} :
    failure? m (quotedColumn f) = none ↔ ∃ g, m.field? f = some g := by
  rw [quotedColumn, failure?_cons_eq_none_iff, Piece.failure?_column_eq_none_iff, failure?_nil]
  exact and_iff_left rfl

@[simp] theorem failure?_parenthesized_eq_none_iff {t : Template} :
    failure? m t.parenthesized = none ↔ failure? m t = none := by
  simp [parenthesized]

end Template

/-- The field an assignment is about. -/
def Assignment.field : Assignment → String
  | inserted f => f
  | value f _ => f

namespace Dialect

@[simp] theorem failure?_assignment_eq_none_iff {d : Dialect} {a : Assignment} :
    (d.assignment a).failure? m = none ↔ ∃ g, m.field? a.field = some g := by
  cases a with
  | inserted f =>
    have hvalue : (d.insertedValue f).failure? m = none ↔ ∃ g, m.field? f = some g := by
      cases d <;> exact Piece.failure?_column_eq_none_iff
    simp [assignment, Assignment.field, hvalue]
  | value f v => simp [assignment, Assignment.field]

@[simp] theorem failure?_upsert_eq_none_iff {d : Dialect} {as : List Assignment} :
    (d.upsert as).failure? m = none ↔ ∀ a ∈ as, ∃ g, m.field? a.field = some g := by
  simp [upsert]

end Dialect

namespace Insert

variable {t : EntityType} {k : Materializer}

@[simp] theorem failure?_tuple_eq_none_iff {items : List Template} :
    (tuple items).failure? m = none ↔ ∀ item ∈ items, item.failure? m = none := by
  simp [tuple]

@[simp] theorem failure?_cell_eq_none_iff {e : Entity t} {f : String} :
    (cell k m e f).failure? m = none ↔ ∃ v, k.readColumn m e f = .ok v := by
  rw [cell]
  cases k.readColumn m e f <;> simp

@[simp] theorem failure?_rowTemplate_eq_none_iff {fields : List String} {e : Entity t} :
    (rowTemplate k m fields e).failure? m = none ↔
      ∀ f ∈ fields, ∃ v, k.readColumn m e f = .ok v := by
  simp [rowTemplate]

/-- An insert can be written iff its columns and the fields of its assignments are known, and all
its cells can be read. -/
theorem failure?_template_eq_none_iff {i : Insert t} {d : Dialect} :
    (i.template d k m).failure? m = none ↔
      (∀ f ∈ i.writtenFields m, ∃ g, m.field? f = some g) ∧
      (∀ e ∈ i.rows, ∀ f ∈ i.writtenFields m, ∃ v, k.readColumn m e f = .ok v) ∧
      ∀ as ∈ i.upsert, ∀ a ∈ as, ∃ g, m.field? a.field = some g := by
  cases hu : i.upsert <;> simp [template, hu]

end Insert

end EntityStore
