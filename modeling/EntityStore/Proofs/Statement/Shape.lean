import EntityStore.Proofs.Model.Entity
import EntityStore.Proofs.Session.Sharded

/-!
# Data and the shape of a statement

The shape of a statement is what is left of it without its data: literals, numbers of rows and the
values of assignments all become the same one, and of the records of an insert only their number is
kept.

1. Why a template cannot be written, and its text if it can, depend on its shape alone
   (`Template.sql_eq_of_shape`).
2. Templates of the same shape come from clauses of the same shape
   (`Clauses.shape_selectTemplate_eq`, `Clauses.shape_deleteTemplate_eq`), and from inserts of the same
   shape whose records are filled (`Insert.shape_template_eq`): whether a field of a record can be read
   then depends on the model alone.
3. So no data reaches the text of a statement, nor does it decide whether the statement can be built or
   why not (`sql_determined_by_shape`).
-/

namespace EntityStore

open TableModel (ofDescriptor)

variable {m : TableModel}

/-! ## Templates -/

/-- A piece without its data. -/
def Piece.shape : Piece → Piece
  | argument _ => argument .null
  | p => p

@[simp] theorem Piece.chars_shape (p : Piece) : p.shape.chars m = p.chars m := by
  cases p <;> rfl

@[simp] theorem Piece.failure?_shape (p : Piece) : p.shape.failure? m = p.failure? m := by
  cases p <;> rfl

namespace Template

/-- A template without its data. -/
def shape (t : Template) : Template := t.map Piece.shape

@[simp] theorem shape_nil : shape [] = [] := rfl

@[simp] theorem shape_cons (p : Piece) (t : Template) : shape (p :: t) = p.shape :: shape t := rfl

@[simp] theorem shape_append (s t : Template) : shape (s ++ t) = shape s ++ shape t :=
  List.map_append

@[simp] theorem chars_shape (t : Template) : t.shape.chars m = t.chars m := by
  induction t with
  | nil => rfl
  | cons p t ih => rw [shape_cons, chars_cons, chars_cons, Piece.chars_shape, ih]

@[simp] theorem failure?_shape (t : Template) : t.shape.failure? m = t.failure? m := by
  rw [failure?, shape, List.findSome?_map]
  congr 1
  exact funext Piece.failure?_shape

@[simp] theorem shape_commaList (ts : List Template) :
    shape (commaList ts) = commaList (ts.map shape) := by
  fun_induction commaList ts with
  | case1 => rfl
  | case2 t => rfl
  | case3 t rest hne ih =>
    cases rest with
    | nil => exact absurd rfl hne
    | cons s rest => simp [commaList, ih, Piece.shape]

@[simp] theorem shape_parenthesized (t : Template) : t.parenthesized.shape = t.shape.parenthesized := by
  simp [parenthesized, Piece.shape]

/-- The text of a template, and why it cannot be written if it cannot, depend on its shape alone. -/
theorem sql_eq_of_shape {s t : Template} (h : s.shape = t.shape) :
    (s.toQuery m).map (·.sql) = (t.toQuery m).map (·.sql) := by
  have hfailure : s.failure? m = t.failure? m := by rw [← failure?_shape s, h, failure?_shape]
  have hchars : s.chars m = t.chars m := by rw [← chars_shape s, h, chars_shape]
  rw [toQuery_eq, toQuery_eq, hfailure, hchars]
  cases t.failure? m <;> rfl

end Template

/-! ## Conditions -/

/-- A term without its literal. -/
def Term.shape : Term → Term
  | value _ => value .null
  | t => t

/-- A condition without its literals. -/
def Predicate.shape : Predicate → Predicate
  | compare l op t => compare l op t.shape
  | compareTruth l op p => compareTruth l op p.shape
  | and p q => and p.shape q.shape
  | or p q => or p.shape q.shape
  | not p => not p.shape

@[simp] theorem Operand.shape_template (o : Operand) : Template.shape o.template = o.template := by
  cases o <;> rfl

theorem Term.shape_template (t : Term) : t.template.shape = t.shape.template := by
  cases t with
  | operand o => exact o.shape_template
  | value v => rfl
  | order d f => rfl

theorem Predicate.shape_template (p : Predicate) : p.template.shape = p.shape.template := by
  induction p with
  | compare l op t => simp [template, shape, Term.shape_template, Piece.shape]
  | compareTruth l op p ih => simp [template, shape, ih, Piece.shape]
  | and p q ihp ihq => simp [template, shape, ihp, ihq, Piece.shape]
  | or p q ihp ihq => simp [template, shape, ihp, ihq, Piece.shape]
  | not p ih => simp [template, shape, ih, Piece.shape]

theorem Predicate.shape_conjunction (ps : List Predicate) :
    (conjunction ps).map shape = conjunction (ps.map shape) := by
  cases ps with
  | nil => rfl
  | cons p ps =>
    have hfold : (ps.foldl and p).shape = (ps.map shape).foldl and p.shape := by
      rw [List.foldl_map]
      exact (List.foldl_hom shape fun _ _ => rfl).symm
    exact congrArg some hfold

/-! ## Clauses -/

namespace Clauses

/-- Clauses without their literals and numbers of rows. -/
def shape (c : Clauses) : Clauses :=
  { c with
    conditions := c.conditions.map Predicate.shape
    having := c.having.map Predicate.shape
    limit := c.limit.map fun _ => 0
    offset := c.offset.map fun _ => 0 }

theorem shape_whereTemplate (c : Clauses) : c.whereTemplate.shape = c.shape.whereTemplate := by
  have hcondition : c.shape.condition = c.condition.map Predicate.shape :=
    (Predicate.shape_conjunction c.conditions).symm
  rw [whereTemplate, whereTemplate, hcondition]
  cases c.condition with
  | none => rfl
  | some p => exact congrArg _ p.shape_template

theorem shape_groupTemplate (c : Clauses) : c.groupTemplate.shape = c.shape.groupTemplate := by
  have hcolumn : Template.shape ∘ Template.quotedColumn = Template.quotedColumn := rfl
  change c.groupTemplate.shape = c.groupTemplate
  unfold groupTemplate
  split
  · rfl
  · simp [hcolumn, Piece.shape]

theorem shape_havingTemplate (c : Clauses) : c.havingTemplate.shape = c.shape.havingTemplate := by
  simp only [havingTemplate, shape]
  cases c.having with
  | none => rfl
  | some p =>
    by_cases hgroups : c.groupBy.isEmpty
    · simp [hgroups, Piece.shape]
    · simp [hgroups, Piece.shape, p.shape_template]

theorem shape_orderTemplate (c : Clauses) : c.orderTemplate.shape = c.shape.orderTemplate := by
  change c.orderTemplate.shape = c.orderTemplate
  unfold orderTemplate
  split
  · rfl
  · have horder : (Template.shape ∘ fun p : Direction × String => (Term.order p.1 p.2).template) =
        fun p => (Term.order p.1 p.2).template := rfl
    simp [horder, Piece.shape]

theorem shape_countTemplate_eq {n n' : Option UInt32}
    (h : (n.map fun _ => (0 : UInt32)) = n'.map fun _ => 0) (word : String) :
    (countTemplate word n).shape = (countTemplate word n').shape := by
  cases n with
  | none =>
    cases n' with
    | none => rfl
    | some _ => cases h
  | some _ =>
    cases n' with
    | none => cases h
    | some _ => rfl

theorem shape_selectTemplate_eq {c c' : Clauses} (h : c.shape = c'.shape) (table : String) :
    (c.selectTemplate table).shape = (c'.selectTemplate table).shape := by
  have hlimit := shape_countTemplate_eq (congrArg limit h) " LIMIT "
  have hoffset := shape_countTemplate_eq (congrArg offset h) " OFFSET "
  simp only [selectTemplate, Template.shape_append, shape_whereTemplate, shape_groupTemplate,
    shape_havingTemplate, shape_orderTemplate, h, hlimit, hoffset]

theorem shape_deleteTemplate_eq {c c' : Clauses} (h : c.shape = c'.shape) (table : String) :
    (c.deleteTemplate table).shape = (c'.deleteTemplate table).shape := by
  simp only [deleteTemplate, Template.shape_append, shape_whereTemplate, h]

theorem tableText_eq {c c' : Clauses} (h : c.shape = c'.shape) : c.tableText m = c'.tableText m := by
  have htable : c.shape.table = c'.shape.table := congrArg table h
  exact congrArg (·.getD (modelTable m)) htable

theorem sql_select_eq {c c' : Clauses} (h : c.shape = c'.shape) :
    (c.select m).map (·.sql) = (c'.select m).map (·.sql) := by
  rw [select, tableText_eq h]
  exact Template.sql_eq_of_shape (shape_selectTemplate_eq h _)

theorem sql_delete_eq {c c' : Clauses} (h : c.shape = c'.shape) :
    (c.delete m).map (·.sql) = (c'.delete m).map (·.sql) := by
  rw [delete, tableText_eq h]
  exact Template.sql_eq_of_shape (shape_deleteTemplate_eq h _)

/-- The targets of the statements of a sharded select, with their texts. -/
def texts (statements : List (Target × Query)) : List (Target × String) :=
  statements.map fun p => (p.1, p.2.sql)

theorem texts_selectFrom_cons (c : Clauses) (t : Target) (rest : TargetSet) :
    (c.selectFrom m (t :: rest)).map texts =
      (((c.selectTemplate t.text).toQuery m).map (·.sql)).bind fun sql =>
        ((c.selectFrom m rest).map texts).map fun others => (t, sql) :: others := by
  rw [selectFrom]
  cases (c.selectTemplate t.text).toQuery m with
  | error e => rfl
  | ok q => cases c.selectFrom m rest <;> rfl

theorem texts_selectFrom_eq {c c' : Clauses} (h : c.shape = c'.shape) (targets : TargetSet) :
    (c.selectFrom m targets).map texts = (c'.selectFrom m targets).map texts := by
  induction targets with
  | nil => rfl
  | cons t rest ih =>
    rw [texts_selectFrom_cons, texts_selectFrom_cons, ih,
      Template.sql_eq_of_shape (shape_selectTemplate_eq h t.text)]

end Clauses

/-! ## Inserts -/

/-- An assignment without its value. -/
def Assignment.shape : Assignment → Assignment
  | value f _ => value f .null
  | a => a

theorem Dialect.shape_upsert (d : Dialect) (as : List Assignment) :
    Template.shape (d.upsert as) = d.upsert (as.map Assignment.shape) := by
  have hassignment : ∀ a, Template.shape (d.assignment a) = d.assignment a.shape := by
    intro a
    cases a <;> cases d <;> rfl
  simp [upsert, Function.comp_def, hassignment, Piece.shape]

namespace Insert

variable {ρ : Type}

/-- An insert without its data: of its records it has only the number. -/
def shape (i : Insert ρ) : Insert Unit :=
  { i with
    rows := i.rows.map fun _ => ()
    upsert := i.upsert.map (List.map Assignment.shape) }

theorem length_rows_eq {i j : Insert ρ} (h : i.shape = j.shape) : i.rows.length = j.rows.length := by
  simpa [shape] using congrArg (fun x : Insert Unit => x.rows.length) h

@[simp] theorem shape_tuple (items : List Template) :
    Template.shape (tuple items) = tuple (items.map Template.shape) := by
  simp [tuple]

variable [Record ρ]

/-- Whether a field of a filled record can be written depends on the model alone. -/
theorem shape_cell_eq (h : ofDescriptor (Record.descriptor ρ) = .ok m) {r r' : ρ}
    (hr : Record.Filled r) (hr' : Record.Filled r') (k : Materializer) (field : String) :
    (cell k m r field).shape = (cell k m r' field).shape := by
  unfold cell Materializer.readColumn
  cases hf : m.field? field with
  | none => rfl
  | some f =>
    obtain ⟨v, hv⟩ := Materializer.exists_readField h (TableModel.field?_mem hf) k hr
    obtain ⟨v', hv'⟩ := Materializer.exists_readField h (TableModel.field?_mem hf) k hr'
    simp only [hv, hv']
    rfl

theorem shape_rowTemplate_eq (h : ofDescriptor (Record.descriptor ρ) = .ok m) {r r' : ρ}
    (hr : Record.Filled r) (hr' : Record.Filled r') (k : Materializer) (fields : List String) :
    (rowTemplate k m fields r).shape = (rowTemplate k m fields r').shape := by
  rw [rowTemplate, rowTemplate, shape_tuple, shape_tuple, List.map_map, List.map_map]
  exact congrArg tuple (List.map_congr_left fun f _ => shape_cell_eq h hr hr' k f)

/-- As many filled records are written alike, whatever they hold. -/
theorem map_shape_rowTemplate_eq (h : ofDescriptor (Record.descriptor ρ) = .ok m)
    (k : Materializer) (fields : List String) {rs rs' : List ρ} (hlength : rs.length = rs'.length)
    (hrs : ∀ r ∈ rs, Record.Filled r) (hrs' : ∀ r ∈ rs', Record.Filled r) :
    rs.map (fun r => (rowTemplate k m fields r).shape) =
      rs'.map fun r => (rowTemplate k m fields r).shape := by
  refine List.ext_getElem (by simpa using hlength) fun i hi hi' => ?_
  rw [List.getElem_map, List.getElem_map]
  exact shape_rowTemplate_eq h (hrs _ (List.getElem_mem _)) (hrs' _ (List.getElem_mem _)) k fields

theorem shape_template_eq (h : ofDescriptor (Record.descriptor ρ) = .ok m) {i j : Insert ρ}
    (hij : i.shape = j.shape) (hi : ∀ r ∈ i.rows, Record.Filled r)
    (hj : ∀ r ∈ j.rows, Record.Filled r) (d : Dialect) (k : Materializer) :
    (i.template d k m).shape = (j.template d k m).shape := by
  have hfields : i.writtenFields m = j.writtenFields m := by
    rw [writtenFields, writtenFields, show i.fields = j.fields from congrArg (·.fields) hij]
  have hrows := map_shape_rowTemplate_eq h k (j.writtenFields m) (length_rows_eq hij) hi hj
  have hupsert : i.upsert.map (List.map Assignment.shape) =
      j.upsert.map (List.map Assignment.shape) := congrArg (·.upsert) hij
  cases hu : i.upsert with
  | none =>
    have hu' : j.upsert = none := by simpa [hu] using hupsert.symm
    simp only [template, hu, hu', Template.shape_cons, Template.shape_append,
      Template.shape_commaList, List.map_map, Function.comp_def, hfields, hrows]
  | some as =>
    obtain ⟨as', hu', has⟩ : ∃ as', j.upsert = some as' ∧
        as'.map Assignment.shape = as.map Assignment.shape := by simpa [hu] using hupsert.symm
    simp only [template, hu, hu', Template.shape_cons, Template.shape_append,
      Template.shape_commaList, List.map_map, Function.comp_def, hfields, hrows, d.shape_upsert, has]

theorem sql_query_eq (h : ofDescriptor (Record.descriptor ρ) = .ok m) {i j : Insert ρ}
    (hij : i.shape = j.shape) (hi : ∀ r ∈ i.rows, Record.Filled r)
    (hj : ∀ r ∈ j.rows, Record.Filled r) (d : Dialect) (k : Materializer) :
    (i.query d k m).map (·.sql) = (j.query d k m).map (·.sql) :=
  Template.sql_eq_of_shape (shape_template_eq h hij hi hj d k)

end Insert

/-! ## Statements of a session -/

theorem Except.map_bind {ε α γ δ : Type} (f : γ → δ) (x : Except ε α) (g : α → Except ε γ) :
    (x.bind g).map f = x.bind fun a => (g a).map f := by
  cases x <;> rfl

variable {β : Type} [Driver β]

/-- Statements that differ in their data only have the same text if they can be built, and else cannot
be built for the same reason: selects, deletes, sharded selects with the same route, and inserts of
records of the same type. It does not matter which models have been made before. -/
theorem sql_determined_by_shape {s s' : Site β} (hs : s.registry.Valid) (hs' : s'.registry.Valid) :
    (∀ (t : MappedType) (c c' : Clauses), c.shape = c'.shape →
      ((Session.buildSelect t c).run s).1.map (·.sql) =
          ((Session.buildSelect t c').run s').1.map (·.sql) ∧
        ((Session.buildDelete t c).run s).1.map (·.sql) =
          ((Session.buildDelete t c').run s').1.map (·.sql) ∧
        ∀ db : Database β, (∀ a ∈ db.core.scheme, ∀ m, ofDescriptor t.descriptor = .ok m →
            a.route m c.condition = a.route m c'.condition) →
          ((db.buildSharded t c).run s).1.map Clauses.texts =
            ((db.buildSharded t c').run s').1.map Clauses.texts) ∧
    ∀ (ρ : Type) [Stored ρ] (session : Session β) (i j : Insert ρ), i.shape = j.shape →
      (∀ r ∈ i.rows, Record.Filled r) → (∀ r ∈ j.rows, Record.Filled r) →
        ((session.buildInsert ρ i).run s).1.map (·.sql) =
          ((session.buildInsert ρ j).run s').1.map (·.sql) := by
  refine ⟨fun t c c' h => ⟨?_, ?_, fun db hroute => ?_⟩, fun ρ _ session i j h hi hj => ?_⟩
  · rw [Session.run_buildSelect hs, Session.run_buildSelect hs', Except.map_bind, Except.map_bind]
    exact congrArg _ (funext fun m => Clauses.sql_select_eq h)
  · rw [Session.run_buildDelete hs, Session.run_buildDelete hs', Except.map_bind, Except.map_bind]
    exact congrArg _ (funext fun m => Clauses.sql_delete_eq h)
  · cases ha : db.core.scheme with
    | none => rw [Database.buildSharded, Database.buildSharded, ha]; rfl
    | some a =>
      rw [Database.run_buildSharded ha hs, Database.run_buildSharded ha hs', Except.map_bind,
        Except.map_bind]
      cases hm : t.model with
      | error e => rfl
      | ok m =>
        dsimp only [Except.bind]
        rw [Clauses.selectSharded, Clauses.selectSharded,
          hroute a ha m (MappedType.model_eq_ok_iff.1 hm)]
        cases a.route m c'.condition with
        | error e => rfl
        | ok targets => exact Clauses.texts_selectFrom_eq h targets
  · have hempty : i.rows.isEmpty = j.rows.isEmpty := by
      rw [Bool.eq_iff_iff, List.isEmpty_iff, List.isEmpty_iff, ← List.length_eq_zero_iff,
        ← List.length_eq_zero_iff, Insert.length_rows_eq h]
    rw [Session.run_buildInsert hs, Session.run_buildInsert hs', hempty]
    split
    · rfl
    · cases hm : (Stored.mapped ρ).model with
      | error e => rfl
      | ok m => exact Insert.sql_query_eq (Stored.ofDescriptor_of_model hm) h hi hj _ _

namespace Database

/-- The same search for the orders of two other users, which lie in the same tables. -/
def otherSearch : Clauses where
  conditions := [.and
    (.or (.compare (.column "user_id") .eq (.value (.int 18)))
      (.compare (.column "user_id") .eq (.value (.int 21))))
    (.compare (.column "amount") .lt (.value (.text "3 OR 1 = 1")))]
  limit := some 4000000000

/-- An order with a remark. -/
def remarkInsert (remark : Value) : Insert orderType where
  rows := [⟨[.int 10, .int 3, remark]⟩]
  upsert := some [.value "Remark" remark]

theorem filled_remarkInsert (remark : Value) : ∀ r ∈ (remarkInsert remark).rows, Record.Filled r := by
  intro r hr
  rw [List.mem_singleton.1 hr]
  exact Entity.filled_iff.2 (Nat.le_refl 3)

theorem sql_determined_by_shape_orders :
    newSite.registry.Valid ∧ orderSearch.shape = otherSearch.shape ∧
      (∀ a ∈ orderDatabase.core.scheme, ∀ m, ofDescriptor orderType.descriptor = .ok m →
        a.route m orderSearch.condition = a.route m otherSearch.condition) ∧
      ((orderDatabase.buildSharded orderType orderSearch).run newSite).1.map Clauses.texts =
        ((orderDatabase.buildSharded orderType otherSearch).run newSite).1.map Clauses.texts ∧
      ((orderDatabase.session.buildInsert orderType (remarkInsert (.text "`); DROP TABLE"))).run
          newSite).1.map (·.sql) =
        .ok ("INSERT INTO `order`(`user_id`,`amount`,`remark`) VALUES(?,?,?)" ++
          " ON DUPLICATE KEY UPDATE `remark`=?;") := by
  have hs : newSite.registry.Valid := Registry.valid_empty
  have hshape : orderSearch.shape = otherSearch.shape := rfl
  have hroute : ∀ a ∈ orderDatabase.core.scheme, ∀ m, ofDescriptor orderType.descriptor = .ok m →
      a.route m orderSearch.condition = a.route m otherSearch.condition := by
    rintro a ⟨⟩ m hm
    obtain rfl : orderModel = m := Except.ok.inj (ofDescriptor_orderType.symm.trans hm)
    rfl
  have hnull : ((orderDatabase.session.buildInsert orderType (remarkInsert .null)).run
      newSite).1.map (·.sql) = .ok ("INSERT INTO `order`(`user_id`,`amount`,`remark`) VALUES(?,?,?)" ++
        " ON DUPLICATE KEY UPDATE `remark`=?;") := by
    rfl
  obtain ⟨hclauses, hinsert⟩ := sql_determined_by_shape hs hs
  refine ⟨hs, hshape, hroute, (hclauses orderType _ _ hshape).2.2 orderDatabase hroute, ?_⟩
  have hremark : (remarkInsert (.text "`); DROP TABLE")).shape = (remarkInsert .null).shape := rfl
  have hsql := hinsert orderType orderDatabase.session (remarkInsert (.text "`); DROP TABLE"))
    (remarkInsert .null) hremark (filled_remarkInsert _) (filled_remarkInsert _)
  rw [hsql, hnull]

end Database

end EntityStore
