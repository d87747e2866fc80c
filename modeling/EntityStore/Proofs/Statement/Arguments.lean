import EntityStore.Proofs.Model.Entity
import EntityStore.Proofs.Statement.Writable

/-!
# The arguments of statements

The arguments of a statement stand in the order of its text: of a select the literals of the
condition on rows, from left to right, those of the condition on groups, the limit and the offset
(`Clauses.args_selectTemplate`); of an insert the fields row by row, and then what the upsert
assigns (`Insert.args_template`, `Insert.map_ok_cells`). The arguments of a template are those of
its parts, so each part of a statement has a lemma.
-/

namespace EntityStore

/-! ## Literals -/

def Term.literals : Term → List Value
  | value v => [v]
  | _ => []

/-- The literals of a condition, from left to right. -/
def Predicate.literals : Predicate → List Value
  | compare _ _ t => t.literals
  | compareTruth _ _ p => p.literals
  | and p q => p.literals ++ q.literals
  | or p q => p.literals ++ q.literals
  | not p => p.literals

namespace Clauses

/-- The literals of the condition on rows. -/
def whereLiterals (c : Clauses) : List Value := c.condition.elim [] Predicate.literals

/-- The literals of the condition on groups. -/
def havingLiterals (c : Clauses) : List Value := c.having.elim [] Predicate.literals

/-- A number of rows as an argument. -/
def countLiterals (n : Option UInt32) : List Value :=
  n.elim [] fun n => [.int (Int64.ofNat n.toNat)]

/-- The arguments of a select, clause by clause. -/
def literals (c : Clauses) : List Value :=
  c.whereLiterals ++ c.havingLiterals ++ countLiterals c.limit ++ countLiterals c.offset

end Clauses

/-- The value that an assignment binds, if it does. -/
def Assignment.literals : Assignment → List Value
  | inserted _ => []
  | value _ v => [v]

/-! ## Arguments of the parts -/

namespace Template

@[simp] theorem args_quotedColumn (f : String) : args (quotedColumn f) = [] := rfl

@[simp] theorem args_parenthesized (t : Template) : args t.parenthesized = args t := by
  simp [parenthesized]

end Template

@[simp] theorem Operand.args_template (o : Operand) : Template.args o.template = [] := by
  cases o <;> rfl

@[simp] theorem Term.args_template (t : Term) : Template.args t.template = t.literals := by
  cases t with
  | operand o => exact o.args_template
  | value v => rfl
  | order d f => rfl

@[simp] theorem Predicate.args_template (p : Predicate) :
    Template.args p.template = p.literals := by
  induction p with
  | compare l op t => simp [template, literals]
  | compareTruth l op p ih => simp [template, literals, ih]
  | and p q ihp ihq => simp [template, literals, ihp, ihq]
  | or p q ihp ihq => simp [template, literals, ihp, ihq]
  | not p ih => simp [template, literals, ih]

namespace Clauses

variable (c : Clauses)

@[simp] theorem args_whereTemplate : Template.args c.whereTemplate = c.whereLiterals := by
  unfold whereTemplate whereLiterals
  cases c.condition <;> simp

@[simp] theorem args_groupTemplate : Template.args c.groupTemplate = [] := by
  unfold groupTemplate
  split
  · rfl
  · simp

/-- A condition on groups that can be written binds its literals. -/
theorem args_havingTemplate {m : TableModel} (h : c.havingTemplate.failure? m = none) :
    Template.args c.havingTemplate = c.havingLiterals := by
  unfold havingTemplate at h ⊢
  unfold havingLiterals
  cases hp : c.having with
  | none => rfl
  | some p =>
    cases hg : c.groupBy.isEmpty with
    | true => simp [hp, hg] at h
    | false => simp

@[simp] theorem args_orderTemplate : Template.args c.orderTemplate = [] := by
  unfold orderTemplate
  split
  · rfl
  · simp [List.flatMap_map, Term.literals]

@[simp] theorem args_countTemplate (word : String) (n : Option UInt32) :
    Template.args (countTemplate word n) = countLiterals n := by
  cases n <;> rfl

theorem args_selectTemplate {m : TableModel} {table : String}
    (h : (c.selectTemplate table).failure? m = none) :
    Template.args (c.selectTemplate table) = c.literals := by
  have hh : c.havingTemplate.failure? m = none := by
    simp only [selectTemplate, Template.failure?_append_eq_none_iff] at h
    exact h.1.1.1.1.2
  simp [selectTemplate, literals, c.args_havingTemplate hh]

@[simp] theorem args_deleteTemplate (table : String) :
    Template.args (c.deleteTemplate table) = c.whereLiterals := by
  simp [deleteTemplate]

end Clauses

/-! ## Arguments of inserts -/

namespace Template

/-- If the arguments of each part are what some function says, those of all parts are. -/
theorem map_args_flatMap {α β : Type} {g : Value → β} {e : α → Template} {r : α → List β}
    {xs : List α} (h : ∀ x ∈ xs, (args (e x)).map g = r x) :
    (xs.flatMap fun x => args (e x)).map g = xs.flatMap r := by
  rw [List.map_flatMap]
  exact List.flatMap_congr h

end Template

@[simp] theorem Dialect.args_assignment (d : Dialect) (a : Assignment) :
    Template.args (d.assignment a) = a.literals := by
  cases a <;> cases d <;> rfl

@[simp] theorem Dialect.args_upsert (d : Dialect) (assignments : List Assignment) :
    Template.args (d.upsert assignments) = assignments.flatMap Assignment.literals := by
  simp [upsert, List.flatMap_map]

namespace Insert

variable {t : EntityType} {k : Materializer} {m : TableModel}

@[simp] theorem args_tuple (items : List Template) :
    Template.args (tuple items) = items.flatMap Template.args := by
  simp [tuple]

/-- The arguments of all rows. -/
def cells (i : Insert t) (k : Materializer) (m : TableModel) : List Value :=
  i.rows.flatMap fun e => Template.args (rowTemplate k m (i.writtenFields m) e)

/-- An insert binds its cells row by row, and then what the upsert assigns. -/
theorem args_template (i : Insert t) (d : Dialect) :
    Template.args (i.template d k m) =
      i.cells k m ++ (i.upsert.getD []).flatMap Assignment.literals := by
  cases hu : i.upsert <;> simp [template, cells, hu, List.flatMap_map]

section Read

/-! A reader that agrees with the columns a strategy can read tells what the cells are. -/

variable {ε : Type} {read : Entity t → String → Except ε Value}
  (hread : ∀ e f v, k.readColumn m e f = .ok v → read e f = .ok v)

include hread

/-- A row that can be written binds what is read from its fields. -/
theorem map_ok_args_rowTemplate {e : Entity t} {fields : List String}
    (h : ∀ f ∈ fields, ∃ v, k.readColumn m e f = .ok v) :
    (Template.args (rowTemplate k m fields e)).map .ok = fields.map (read e) := by
  rw [rowTemplate, args_tuple, List.flatMap_map, ← List.flatMap_singleton' (fields.map _),
    List.flatMap_map]
  refine Template.map_args_flatMap fun f hf => ?_
  obtain ⟨v, hv⟩ := h f hf
  rw [cell, hv, hread e f v hv]
  rfl

/-- The cells of an insert that can be written are its fields, row by row. -/
theorem map_ok_cells {i : Insert t} {d : Dialect} (h : (i.template d k m).failure? m = none) :
    (i.cells k m).map .ok = i.rows.flatMap fun e => (i.writtenFields m).map (read e) :=
  Template.map_args_flatMap fun e he =>
    map_ok_args_rowTemplate hread ((failure?_template_eq_none_iff.1 h).2.1 e he)

end Read

end Insert

end EntityStore
