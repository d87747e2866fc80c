import EntityStore.Proofs.Model.Entity
import EntityStore.Proofs.Statement.Reading

/-!
# A query determines its statement

The clauses of a statement are readable one behind the other, since each opens with a word that is
apart from the words of all later ones, and so are the parts of an insert. If no name in a table has
a backtick, a query has come from one statement only (`statement_of_query`).
-/

namespace EntityStore

open Template

variable {m : TableModel}

/-! ## Clauses -/

theorem begins_before_quotedColumn (f : String) (h : (quotedColumn f).failure? m = none)
    (r : Rest) : ((quotedColumn f).before m r).Begins ["`"] :=
  begins_before_column h r

theorem readable_quotedColumn (hm : m.Unambiguous) (hq : m.FreeOf '`') (stop : Rest → Prop) :
    Readable m stop quotedColumn :=
  readable_column hm hq stop "`" ""

/-- The end of a statement. -/
def Template.close : Template := [.text ";"]

theorem begins_before_close (r : Rest) : (Template.close.before m r).Begins [";"] :=
  begins_before_text (List.mem_singleton_self _) [] r

namespace Clauses

/-- The argument of a number of rows. -/
def countArgument (n : UInt32) : Template := [.argument (.int (Int64.ofNat n.toNat))]

theorem countTemplate_eq (word : String) (n : Option UInt32) :
    countTemplate word n = optionally word countArgument n := by
  cases n <;> rfl

/-- A number of rows fits an argument. -/
theorem ofNat_toNat_inj {n k : UInt32} (h : Int64.ofNat n.toNat = Int64.ofNat k.toNat) : n = k := by
  have hn : (Int64.ofNat n.toNat).toInt = n.toNat :=
    Int64.toInt_ofNat_of_lt (Nat.lt_of_lt_of_le n.toNat_lt (by decide))
  have hk : (Int64.ofNat k.toNat).toInt = k.toNat :=
    Int64.toInt_ofNat_of_lt (Nat.lt_of_lt_of_le k.toNat_lt (by decide))
  rw [h, hk] at hn
  exact UInt32.toNat_inj.1 (by exact_mod_cast hn.symm)

theorem readable_countArgument (stop : Rest → Prop) : Readable m stop countArgument := by
  intro n k hn hk r r' hr hr' h
  obtain ⟨heq, hrest⟩ := readable_argument stop _ _ hn hk r r' hr hr' h
  exact ⟨ofNat_toNat_inj (Value.int.inj heq), hrest⟩

theorem whereTemplate_eq (c : Clauses) :
    c.whereTemplate = optionally " WHERE " Predicate.template c.condition := by
  unfold whereTemplate
  cases c.condition <;> rfl

theorem groupTemplate_eq (c : Clauses) :
    c.groupTemplate = listed " GROUP BY " quotedColumn c.groupBy := by
  unfold groupTemplate
  cases c.groupBy <;> rfl

/-- A condition on groups that can be written stands behind its word. -/
theorem havingTemplate_eq {c : Clauses} (h : c.havingTemplate.failure? m = none) :
    c.havingTemplate = optionally " HAVING " Predicate.template c.having := by
  unfold havingTemplate at h ⊢
  cases hp : c.having with
  | none => rfl
  | some p =>
    cases hg : c.groupBy.isEmpty with
    | true => simp [hp, hg] at h
    | false => simp [optionally]

/-- The layout of an order. -/
def orderItem (o : Direction × String) : Template := (Term.order o.1 o.2).template

theorem orderTemplate_eq (c : Clauses) :
    c.orderTemplate = listed " ORDER BY " orderItem c.orderBy := by
  unfold orderTemplate
  cases c.orderBy <;> rfl

section Parts

/-! Clause by clause, in front of the words that may follow. -/

theorem clause_condition (word : String) (hm : m.Unambiguous) (hq : m.FreeOf '`')
    {words : List String} (hw : ∀ w ∈ words, Apart word w ∧ Apart " ASC" w ∧ Apart " DESC" w) :
    Clause m words (word :: words) (optionally word Predicate.template) :=
  .optionally ((Predicate.readable hm hq).mono fun _ hr => hr.noDirection fun w hmem =>
    (hw w hmem).2) fun w hmem => (hw w hmem).1

theorem clause_group (hm : m.Unambiguous) (hq : m.FreeOf '`') {words : List String}
    (hw : ∀ w ∈ words, Apart " GROUP BY " w ∧ Apart "`" w ∧ Apart "," w) :
    Clause m words (" GROUP BY " :: words) (listed " GROUP BY " quotedColumn) :=
  .listed (Readable.commaList (readable_quotedColumn hm hq _) begins_before_quotedColumn
    fun w hmem => (hw w hmem).2) fun w hmem => (hw w hmem).1

theorem clause_order (hm : m.Unambiguous) (hq : m.FreeOf '`') {words : List String}
    (hw : ∀ w ∈ words, Apart " ORDER BY " w ∧ Apart "`" w ∧ Apart "," w) :
    Clause m words (" ORDER BY " :: words) (listed " ORDER BY " orderItem) :=
  .listed (Readable.commaList (Term.readable_order hm hq _) (fun _ => begins_before_column)
    fun w hmem => (hw w hmem).2) fun w hmem => (hw w hmem).1

theorem clause_count (word : String) {words : List String} (hw : ∀ w ∈ words, Apart word w) :
    Clause m words (word :: words) (optionally word countArgument) :=
  .optionally (readable_countArgument _) hw

/-- What a select is made of, besides its table and its options. -/
abbrev Parts := Option Predicate × List String × Option Predicate × List (Direction × String) ×
  Option UInt32 × Option UInt32

/-- The parts of a select. -/
def parts (c : Clauses) : Parts :=
  (c.condition, c.groupBy, c.having, c.orderBy, c.limit, c.offset)

/-- The clauses of a select, as they can be written. -/
def partsTemplate (p : Parts) : Template :=
  optionally " WHERE " Predicate.template p.1 ++
    (listed " GROUP BY " quotedColumn p.2.1 ++
      (optionally " HAVING " Predicate.template p.2.2.1 ++
        (listed " ORDER BY " orderItem p.2.2.2.1 ++
          (optionally " LIMIT " countArgument p.2.2.2.2.1 ++
            optionally " OFFSET " countArgument p.2.2.2.2.2))))

theorem readable_parts (hm : m.Unambiguous) (hq : m.FreeOf '`') :
    Readable m (Rest.Begins [";"]) partsTemplate := by
  have hoffset : Clause m [";"] [" OFFSET ", ";"] (optionally " OFFSET " countArgument) :=
    clause_count " OFFSET " (by decide)
  have hlimit := (clause_count " LIMIT " (by decide)).append hoffset
  have horder := (clause_order hm hq (by decide)).append hlimit
  have hhaving := (clause_condition " HAVING " hm hq (by decide)).append horder
  have hgroup := (clause_group hm hq (by decide)).append hhaving
  exact ((clause_condition " WHERE " hm hq (by decide)).append hgroup).readable

end Parts

/-- A select that can be written is its parts, between its table and its end. -/
theorem selectTemplate_eq {c : Clauses} {table : String}
    (h : (c.selectTemplate table).failure? m = none) :
    c.selectTemplate table =
      .text "SELECT * FROM " :: .text table :: (partsTemplate c.parts ++ Template.close) := by
  have hh : c.havingTemplate.failure? m = none := by
    simp only [selectTemplate, failure?_append_eq_none_iff] at h
    exact h.1.1.1.1.2
  simp only [selectTemplate, partsTemplate, parts, Template.close, whereTemplate_eq,
    groupTemplate_eq, havingTemplate_eq hh, orderTemplate_eq, countTemplate_eq, List.append_assoc,
    List.cons_append, List.nil_append]

theorem parts_of_select (hm : m.Unambiguous) (hq : m.FreeOf '`') {c c' : Clauses} {q : Query}
    (hc : c.table = none) (hc' : c'.table = none) (h : c.select m = .ok q)
    (h' : c'.select m = .ok q) : c.parts = c'.parts := by
  obtain ⟨hf, hb⟩ := before_of_toQuery_eq_ok h
  obtain ⟨hf', hb'⟩ := before_of_toQuery_eq_ok h'
  rw [selectTemplate_eq hf] at hb hf
  rw [selectTemplate_eq hf'] at hb' hf'
  have heq := hb.trans hb'.symm
  rw [tableText, tableText, hc, hc', before_text_cons_inj, before_text_cons_inj, before_append,
    before_append] at heq
  simp only [failure?_cons_eq_none_iff, failure?_append_eq_none_iff] at hf hf'
  exact (readable_parts hm hq _ _ hf.2.2.1 hf'.2.2.1 _ _ (begins_before_close _)
    (begins_before_close _) heq).1

theorem condition_of_delete (hm : m.Unambiguous) (hq : m.FreeOf '`') {c c' : Clauses} {q : Query}
    (hc : c.table = none) (hc' : c'.table = none) (h : c.delete m = .ok q)
    (h' : c'.delete m = .ok q) : c.condition = c'.condition := by
  obtain ⟨hf, hb⟩ := before_of_toQuery_eq_ok h
  obtain ⟨hf', hb'⟩ := before_of_toQuery_eq_ok h'
  have heq := hb.trans hb'.symm
  simp only [deleteTemplate, whereTemplate_eq, tableText, hc, hc', List.cons_append,
    List.nil_append, before_text_cons_inj, before_append] at heq
  simp only [deleteTemplate, whereTemplate_eq, List.cons_append, List.nil_append,
    failure?_cons_eq_none_iff, failure?_append_eq_none_iff] at hf hf'
  exact ((clause_condition " WHERE " hm hq (by decide)).readable _ _ hf.2.2.1 hf'.2.2.1 _ _
    (begins_before_close _) (begins_before_close _) heq).1

end Clauses

/-! ## Inserts -/

namespace Dialect

/-- What stands for the value an insert tried to write begins differently from a placeholder. -/
theorem begins_before_insertedValue (d : Dialect) {f : String}
    (h : failure? m [d.insertedValue f] = none) (r : Rest) :
    ¬ (before m [d.insertedValue f] r).Begins ["=?"] := by
  cases d with
  | mysql => exact (begins_before_column h r).not_begins (by decide)
  | sqlite => exact (begins_before_column h r).not_begins (by decide)

theorem begins_before_placeholder (v : Value) (r : Rest) :
    (before m [.text "=", .argument v] r).Begins ["=?"] :=
  ⟨"=?", List.mem_singleton_self _, by simp [before]⟩

theorem readable_insertedValue (hm : m.Unambiguous) (hq : m.FreeOf '`') (d : Dialect)
    (stop : Rest → Prop) : Readable m stop fun f => [d.insertedValue f] := by
  cases d with
  | mysql => exact readable_column hm hq stop "=VALUES(`" ")"
  | sqlite => exact readable_column hm hq stop "=excluded.`" ""

theorem readable_assignment (hm : m.Unambiguous) (hq : m.FreeOf '`') (d : Dialect)
    (stop : Rest → Prop) : Readable m stop d.assignment := by
  -- Either assignment is its column, and then one of two texts.
  have hcolumn : ∀ {f g : String} {s t : Template}, failure? m (quotedColumn f ++ s) = none →
      failure? m (quotedColumn g ++ t) = none → ∀ {r r' : Rest},
      before m (quotedColumn f ++ s) r = before m (quotedColumn g ++ t) r' →
      f = g ∧ before m s r = before m t r' := by
    intro f g s t hf hg r r' h
    rw [before_append, before_append] at h
    exact readable_quotedColumn hm hq (fun _ => True) f g (failure?_append_eq_none_iff.1 hf).1
      (failure?_append_eq_none_iff.1 hg).1 _ _ trivial trivial h
  intro a b ha hb r r' hr hr' h
  cases a with
  | inserted f =>
    cases b with
    | inserted g =>
      obtain ⟨rfl, hvalue⟩ := hcolumn ha hb h
      exact ⟨rfl, (d.readable_insertedValue hm hq stop f f (failure?_append_eq_none_iff.1 ha).2
        (failure?_append_eq_none_iff.1 hb).2 r r' hr hr' hvalue).2⟩
    | value g w =>
      obtain ⟨-, hvalue⟩ := hcolumn ha hb h
      refine absurd ?_ (d.begins_before_insertedValue (failure?_append_eq_none_iff.1 ha).2 r)
      rw [hvalue]
      exact begins_before_placeholder w r'
  | value f v =>
    cases b with
    | inserted g =>
      obtain ⟨-, hvalue⟩ := hcolumn ha hb h
      refine absurd ?_ (d.begins_before_insertedValue (failure?_append_eq_none_iff.1 hb).2 r')
      rw [← hvalue]
      exact begins_before_placeholder v r
    | value g w =>
      obtain ⟨rfl, hvalue⟩ := hcolumn ha hb h
      obtain ⟨rfl, hrest⟩ := readable_argument stop v w rfl rfl r r' hr hr'
        (before_text_cons_inj.1 hvalue)
      exact ⟨rfl, hrest⟩

theorem begins_before_assignment (d : Dialect) (a : Assignment)
    (h : (d.assignment a).failure? m = none) (r : Rest) :
    ((d.assignment a).before m r).Begins ["`"] := by
  cases a with
  | inserted f =>
    rw [assignment, before_append]
    exact begins_before_quotedColumn f (failure?_append_eq_none_iff.1 h).1 _
  | value f v =>
    rw [assignment, before_append]
    exact begins_before_quotedColumn f (failure?_append_eq_none_iff.1 h).1 _

/-- What stands behind the word of an upsert. -/
def assignments (d : Dialect) (as : List Assignment) : Template := commaList (as.map d.assignment)

theorem clause_upsert (hm : m.Unambiguous) (hq : m.FreeOf '`') (d : Dialect) :
    Clause m [";"] [d.conflictOpening, ";"] (optionally d.conflictOpening d.assignments) := by
  refine .optionally (.commaList (d.readable_assignment hm hq _) d.begins_before_assignment
    (by decide)) ?_
  cases d <;> decide

end Dialect

namespace Insert

/-- The layout of a value, or of why there is none. -/
def cellItem : Except Error Value → Template
  | .ok v => [.argument v]
  | .error e => [.refuse e]

theorem readable_cellItem (stop : Rest → Prop) : Readable m stop cellItem := by
  intro x y hx hy r r' hr hr' h
  cases x with
  | error e => cases hx
  | ok v =>
    cases y with
    | error e => cases hy
    | ok w =>
      obtain ⟨rfl, hrest⟩ := readable_argument stop v w hx hy r r' hr hr' h
      exact ⟨rfl, hrest⟩

theorem begins_before_cellItem (x : Except Error Value) (h : (cellItem x).failure? m = none)
    (r : Rest) : ((cellItem x).before m r).Begins ["?"] := by
  cases x with
  | error e => cases h
  | ok v => exact ⟨"?", List.mem_singleton_self _, by simp [before, cellItem]⟩

/-- A list between parentheses can be read back if its items can. -/
theorem readable_tuple {α : Type} {e : α → Template} {o : String}
    (he : Readable m (fun _ => True) e)
    (hopen : ∀ x, (e x).failure? m = none → ∀ r, ((e x).before m r).Begins [o])
    (ho : Apart o ")") (stop : Rest → Prop) :
    Readable m stop fun xs : List α => tuple (xs.map e) := by
  have hlist : Readable m (Rest.Begins [")"]) fun xs : List α => commaList (xs.map e) :=
    .commaList he hopen (by simpa using ⟨ho, (by decide : Apart "," ")")⟩)
  have hclose : ∀ r : Rest, (before m [.text ")"] r).Begins [")"] :=
    begins_before_text (List.mem_singleton_self _) []
  intro xs ys hx hy r r' _ _ h
  simp only [tuple, before_parenthesized, before_text_cons_inj] at h
  obtain ⟨rfl, hrest⟩ := hlist xs ys (failure?_parenthesized_eq_none_iff.1 hx)
    (failure?_parenthesized_eq_none_iff.1 hy) _ _ (hclose r) (hclose r') h
  exact ⟨rfl, before_text_cons_inj.1 hrest⟩

/-- The layout of a row of values. -/
def rowItem (row : List (Except Error Value)) : Template := tuple (row.map cellItem)

theorem readable_rowItem (stop : Rest → Prop) : Readable m stop rowItem :=
  readable_tuple (readable_cellItem _) begins_before_cellItem (by decide) stop

theorem begins_before_rowItem (row : List (Except Error Value))
    (_ : (rowItem row).failure? m = none) (r : Rest) : ((rowItem row).before m r).Begins ["("] :=
  begins_before_parenthesized _ r

/-- What an insert is made of, besides its options: its columns, its rows and its upsert. -/
abbrev Parts := List String × List (List (Except Error Value)) × Option (List Assignment)

variable {t : EntityType}

/-- What is written of each record. -/
def values (i : Insert t) (k : Materializer) (m : TableModel) : List (List (Except Error Value)) :=
  i.rows.map fun e => (i.writtenFields m).map (k.readColumn m e)

def parts (i : Insert t) (k : Materializer) (m : TableModel) : Parts :=
  (i.writtenFields m, i.values k m, i.upsert)

/-- The parts of an insert, as they can be written. -/
def partsTemplate (d : Dialect) (p : Parts) : Template :=
  tuple (p.1.map quotedColumn) ++
    .text " VALUES" :: (commaList (p.2.1.map rowItem) ++
      optionally d.conflictOpening d.assignments p.2.2)

theorem readable_parts (hm : m.Unambiguous) (hq : m.FreeOf '`') (d : Dialect) :
    Readable m (Rest.Begins [";"]) (partsTemplate d) := by
  have hcolumns := readable_tuple (readable_quotedColumn hm hq (fun _ => True))
    begins_before_quotedColumn (by decide) (fun _ => True)
  have hrows : Readable m (Rest.Begins [d.conflictOpening, ";"])
      fun rows : List (List (Except Error Value)) => commaList (rows.map rowItem) :=
    .commaList (readable_rowItem _) begins_before_rowItem (by cases d <;> decide)
  have hupsert := d.clause_upsert hm hq
  exact hcolumns.append ((hrows.append hupsert.readable hupsert.begins).text_cons " VALUES")
    fun _ _ _ => trivial

theorem template_eq (i : Insert t) (d : Dialect) (k : Materializer) :
    i.template d k m = .text ("INSERT INTO " ++ Clauses.modelTable m) ::
      (partsTemplate d (i.parts k m) ++ Template.close) := by
  have hrow : rowTemplate k m (i.writtenFields m) =
      fun e : Entity t => rowItem ((i.writtenFields m).map (k.readColumn m e)) := by
    funext e
    rw [rowTemplate, rowItem, List.map_map]
    rfl
  cases hu : i.upsert <;>
    simp [template, hrow, hu, partsTemplate, parts, values, Template.close, optionally,
      Dialect.upsert, Dialect.assignments, Function.comp_def]

theorem parts_of_query (hm : m.Unambiguous) (hq : m.FreeOf '`') {i j : Insert t} {d : Dialect}
    {k l : Materializer} {q : Query} (h : i.query d k m = .ok q) (h' : j.query d l m = .ok q) :
    i.parts k m = j.parts l m := by
  obtain ⟨hf, hb⟩ := before_of_toQuery_eq_ok h
  obtain ⟨hf', hb'⟩ := before_of_toQuery_eq_ok h'
  rw [template_eq] at hb hf hb' hf'
  have heq := hb.trans hb'.symm
  rw [before_text_cons_inj, before_append, before_append] at heq
  simp only [failure?_cons_eq_none_iff, failure?_append_eq_none_iff] at hf hf'
  exact (readable_parts hm hq d _ _ hf.2.1 hf'.2.1 _ _ (begins_before_close _)
    (begins_before_close _) heq).1

/-- Of a record that is written every field that is written can be read. -/
theorem exists_get_eq_ok {i : Insert t} {d : Dialect} {k : Materializer} {q : Query}
    (hmodel : TableModel.ofDescriptor t.descriptor = .ok m) (h : i.query d k m = .ok q)
    {e : Entity t} (he : e ∈ i.rows) {f : String} (hf : f ∈ i.writtenFields m) :
    ∃ v, k.readColumn m e f = .ok v ∧ e.get f = .ok v := by
  obtain ⟨v, hv⟩ := (failure?_template_eq_none_iff.1 (toQuery_eq_ok_iff.1 h).1).2.1 e he f hf
  exact ⟨v, hv, (Materializer.readColumn_eq_ok_iff hmodel).1 hv⟩

/-- Inserts that write the same write the same values of the same fields. -/
theorem map_get_eq {i j : Insert t} {d : Dialect} {k l : Materializer} {q : Query}
    (hmodel : TableModel.ofDescriptor t.descriptor = .ok m) (hi : i.query d k m = .ok q)
    (hj : j.query d l m = .ok q) (h : i.values k m = j.values l m) :
    (i.rows.map fun e => (i.writtenFields m).map e.get) =
      j.rows.map fun e => (j.writtenFields m).map e.get := by
  have hread : ∀ {i : Insert t} {k : Materializer}, i.query d k m = .ok q →
      (i.rows.map fun e => (i.writtenFields m).map e.get) =
        (i.values k m).map (List.map (Except.mapError fun _ => .unknownField "")) := by
    intro i k hi
    rw [values, List.map_map]
    refine List.map_congr_left fun e he => ?_
    rw [Function.comp_apply, List.map_map]
    refine List.map_congr_left fun f hf => ?_
    obtain ⟨v, hv, hget⟩ := exists_get_eq_ok hmodel hi he hf
    rw [Function.comp_apply, hv, hget]
    rfl
  rw [hread hi, hread hj, h]

end Insert

/-! ## Statements -/

/-- If no name in a table has a backtick, a query has come from one statement only: two selects, two
deletes or two inserts with the same query have the same parts, and no two conditions have the same
text and arguments. -/
theorem statement_of_query {d : TypeDescriptor} (h : TableModel.ofDescriptor d = .ok m)
    (hq : m.FreeOf '`') :
    (∀ (c c' : Clauses) (q : Query), c.table = none → c'.table = none →
      (c.select m = .ok q → c'.select m = .ok q →
        c.condition = c'.condition ∧ c.groupBy = c'.groupBy ∧ c.having = c'.having ∧
          c.orderBy = c'.orderBy ∧ c.limit = c'.limit ∧ c.offset = c'.offset) ∧
      (c.delete m = .ok q → c'.delete m = .ok q → c.condition = c'.condition)) ∧
    (∀ (t : EntityType) (i j : Insert t) (dialect : Dialect) (k l : Materializer) (q : Query),
      TableModel.ofDescriptor t.descriptor = .ok m →
        i.query dialect k m = .ok q → j.query dialect l m = .ok q →
          i.writtenFields m = j.writtenFields m ∧
            ((i.rows.map fun e => (i.writtenFields m).map e.get) =
              j.rows.map fun e => (j.writtenFields m).map e.get) ∧
            i.upsert = j.upsert) ∧
    ∀ (p p' : Predicate) (q : Query), p.template.toQuery m = .ok q →
      p'.template.toQuery m = .ok q → p = p' := by
  have hm := TableModel.unambiguous_of_ofDescriptor h
  refine ⟨fun c c' q hc hc' => ⟨fun hs hs' => ?_, Clauses.condition_of_delete hm hq hc hc'⟩,
    fun t i j dialect k l q ht hi hj => ?_, fun p p' q hp hp' => ?_⟩
  · have hparts := Clauses.parts_of_select hm hq hc hc' hs hs'
    simpa only [Clauses.parts, Prod.mk.injEq] using hparts
  · have hparts := Insert.parts_of_query hm hq hi hj
    simp only [Insert.parts, Prod.mk.injEq] at hparts
    exact ⟨hparts.1, Insert.map_get_eq ht hi hj hparts.2.1, hparts.2.2⟩
  · obtain ⟨hf, hb⟩ := before_of_toQuery_eq_ok hp
    obtain ⟨hf', hb'⟩ := before_of_toQuery_eq_ok hp'
    have hnil : Rest.NoDirection ([], []) := by
      intro d
      cases d <;> decide
    exact (Predicate.readable hm hq p p' hf hf' _ _ hnil hnil (hb.trans hb'.symm)).1

/-- A condition whose right side compares with a condition. -/
def settledCondition : Predicate :=
  .compareTruth (.column "amount") .eq
    (.or (.compare (.aggregate .sum "amount") .gt (.value (.int 3)))
      (.not (.compare (.column "Remark") .eq (.order .desc "user_id"))))

/-- Two conditions, one after the other. -/
def twoConditions : Clauses where
  conditions := [settledCondition, .compare (.column "user_id") .lt (.value (.int 9))]
  groupBy := ["user_id"]
  orderBy := [(.asc, "Remark")]

/-- The same conditions in one. -/
def oneCondition : Clauses where
  conditions := [.and settledCondition (.compare (.column "user_id") .lt (.value (.int 9)))]
  groupBy := ["user_id"]
  orderBy := [(.asc, "Remark")]

def allFields : Insert orderType where
  rows := [⟨[.int 10, .int 3, .null]⟩]

/-- The same order, with its fields named. -/
def namedFields : Insert orderType where
  rows := [⟨[.int 10, .int 3, .null]⟩]
  fields := ["user_id", "amount", "Remark"]

theorem statement_of_query_orders :
    orderModel.FreeOf '`' ∧
    (∃ q, twoConditions.select orderModel = .ok q ∧ oneCondition.select orderModel = .ok q ∧
      q.args = [.int 3, .int 9]) ∧
    twoConditions.condition = oneCondition.condition ∧
    (∃ q, allFields.query .mysql .reflective orderModel = .ok q ∧
      namedFields.query .mysql .positional orderModel = .ok q) ∧
    allFields.writtenFields orderModel = namedFields.writtenFields orderModel := by
  have hfree : orderModel.FreeOf '`' := ⟨by decide, by decide⟩
  have h := statement_of_query ofDescriptor_orderType hfree
  have hsql : ∀ c ∈ [twoConditions, oneCondition], c.select orderModel =
      .ok ⟨"SELECT * FROM `order` WHERE (`amount` = ((SUM(`amount`) > ?) OR ( NOT (`remark` = " ++
        "`user_id` DESC)))) AND (`user_id` < ?) GROUP BY `user_id` ORDER BY `remark` ASC;",
        [.int 3, .int 9]⟩ := by
    simp only [List.forall_mem_cons, List.not_mem_nil, false_implies, implies_true, and_true]
    exact ⟨by cbv, by cbv⟩
  have htwo := hsql twoConditions (by simp)
  have hone := hsql oneCondition (by simp)
  have hall : allFields.query .mysql .reflective orderModel =
      .ok ⟨"INSERT INTO `order`(`user_id`,`amount`,`remark`) VALUES(?,?,?);",
        [.int 10, .int 3, .null]⟩ := by cbv
  have hnamed : namedFields.query .mysql .positional orderModel =
      .ok ⟨"INSERT INTO `order`(`user_id`,`amount`,`remark`) VALUES(?,?,?);",
        [.int 10, .int 3, .null]⟩ := by cbv
  exact ⟨hfree, ⟨_, htwo, hone, rfl⟩, ((h.1 _ _ _ rfl rfl).1 htwo hone).1, ⟨_, hall, hnamed⟩,
    (h.2.1 _ _ _ _ _ _ _ ofDescriptor_orderType hall hnamed).1⟩

end EntityStore
