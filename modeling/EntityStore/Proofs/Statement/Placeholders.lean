import EntityStore.Proofs.Statement.Arguments
import EntityStore.Proofs.Statement.Sharded

/-!
# As many placeholders as arguments

A statement has as many placeholders as arguments (`Query.Aligned`), if no name in it has a `?`.
Only an argument writes a `?` if neither the fixed texts of a statement nor the names in it have
one. `Template.Aligned` passes from the parts of a template to the whole; the induction over a
condition follows its tree. `placeholders_match_arguments` is the result for every kind of
statement.
-/

namespace EntityStore

/-- As many placeholders as arguments. -/
def Query.Aligned (q : Query) : Prop := q.sql.toList.count '?' = q.args.length

/-! ## Aligned templates -/

/-- As many placeholders as arguments. -/
def Template.Aligned (m : TableModel) (t : Template) : Prop :=
  (t.chars m).count '?' = (Template.args t).length

namespace Template

variable {m : TableModel}

theorem aligned_nil : Aligned m [] := rfl

theorem Aligned.append {s t : Template} (hs : s.Aligned m) (ht : t.Aligned m) :
    Aligned m (s ++ t) := by
  unfold Aligned at *
  rw [chars_append, args_append, List.count_append, List.length_append, hs, ht]

theorem aligned_argument (v : Value) : Aligned m [.argument v] := rfl

theorem aligned_refuse (e : Error) : Aligned m [.refuse e] := rfl

theorem aligned_text {s : String} (hs : '?' ∉ s.toList) : Aligned m [.text s] := by
  simpa [Aligned, List.count_eq_zero] using hs

theorem Aligned.text_cons {s : String} {t : Template} (ht : t.Aligned m)
    (hs : '?' ∉ s.toList) : Aligned m (.text s :: t) :=
  (aligned_text hs).append ht

/-- A column without a `?` in it or around it writes none. -/
theorem aligned_column (hm : m.FreeOf '?') {o f c : String} (ho : '?' ∉ o.toList)
    (hc : '?' ∉ c.toList) : Aligned m [.column o f c] := by
  show ((Piece.column o f c).chars m ++ []).count '?' = 0
  rw [List.append_nil, List.count_eq_zero]
  cases hf : m.field? f with
  | none => simp [Piece.chars, hf]
  | some g =>
    simpa [Piece.chars, hf, ho, hc] using hm.columns g (TableModel.field?_mem hf)

theorem aligned_quotedColumn (hm : m.FreeOf '?') (f : String) : (quotedColumn f).Aligned m :=
  aligned_column hm (by decide) (by decide)

theorem Aligned.parenthesized {t : Template} (ht : t.Aligned m) : t.parenthesized.Aligned m :=
  (ht.append (aligned_text (by decide))).text_cons (by decide)

theorem aligned_commaList {ts : List Template} (h : ∀ t ∈ ts, t.Aligned m) :
    (commaList ts).Aligned m := by
  fun_induction commaList ts with
  | case1 => exact aligned_nil
  | case2 t => exact h t (List.mem_singleton_self t)
  | case3 t rest _ ih =>
    have hrest := ih fun s hs => h s (List.mem_cons_of_mem t hs)
    exact (h t List.mem_cons_self).append (hrest.text_cons (by decide))

/-- A query is aligned as its template is. -/
theorem Aligned.toQuery {t : Template} (ht : t.Aligned m) {q : Query} (h : t.toQuery m = .ok q) :
    q.Aligned := by
  obtain ⟨-, hsql, hargs⟩ := toQuery_eq_ok_iff.1 h
  rw [Query.Aligned, hsql, hargs]
  exact ht

end Template

open Template

variable {m : TableModel}

/-! ## Conditions -/

theorem Operand.aligned (hm : m.FreeOf '?') (o : Operand) : o.template.Aligned m := by
  cases o with
  | column f => exact aligned_quotedColumn hm f
  | aggregate a f => exact aligned_column hm (by cases a <;> decide) (by decide)

theorem Term.aligned (hm : m.FreeOf '?') (t : Term) : t.template.Aligned m := by
  cases t with
  | operand o => exact o.aligned hm
  | value v => exact aligned_argument v
  | order d f => exact aligned_column hm (by decide) (by cases d <;> decide)

theorem Comparison.sign_free (op : Comparison) : '?' ∉ (" " ++ op.sign ++ " ").toList := by
  cases op <;> decide

theorem Predicate.aligned (hm : m.FreeOf '?') (p : Predicate) : p.template.Aligned m := by
  induction p with
  | compare l op t => exact (l.aligned hm).append ((t.aligned hm).text_cons op.sign_free)
  | compareTruth l op p ih =>
    exact (l.aligned hm).append (ih.parenthesized.text_cons op.sign_free)
  | and p q ihp ihq =>
    exact ihp.parenthesized.append (ihq.parenthesized.text_cons (by decide))
  | or p q ihp ihq =>
    exact ihp.parenthesized.append (ihq.parenthesized.text_cons (by decide))
  | not p ih => exact ih.parenthesized.text_cons (by decide)

/-! ## Clauses -/

namespace Clauses

variable (hm : m.FreeOf '?') (c : Clauses)

include hm

theorem aligned_whereTemplate : c.whereTemplate.Aligned m := by
  unfold whereTemplate
  split
  · exact aligned_nil
  · next p _ => exact (p.aligned hm).text_cons (by decide)

theorem aligned_groupTemplate : c.groupTemplate.Aligned m := by
  unfold groupTemplate
  split
  · exact aligned_nil
  · refine (aligned_commaList ?_).text_cons (by decide)
    exact List.forall_mem_map.2 fun f _ => aligned_quotedColumn hm f

theorem aligned_havingTemplate : c.havingTemplate.Aligned m := by
  unfold havingTemplate
  split
  · exact aligned_nil
  · next p _ =>
    split
    · exact aligned_refuse _
    · exact (p.aligned hm).text_cons (by decide)

theorem aligned_orderTemplate : c.orderTemplate.Aligned m := by
  unfold orderTemplate
  split
  · exact aligned_nil
  · refine (aligned_commaList ?_).text_cons (by decide)
    exact List.forall_mem_map.2 fun o _ => (Term.order o.1 o.2).aligned hm

omit hm in
theorem aligned_countTemplate {word : String} (hword : '?' ∉ word.toList) (n : Option UInt32) :
    (countTemplate word n).Aligned m := by
  cases n with
  | none => exact aligned_nil
  | some n => exact (aligned_argument _).text_cons hword

theorem aligned_selectTemplate {table : String} (ht : '?' ∉ table.toList) :
    (c.selectTemplate table).Aligned m := by
  unfold selectTemplate
  refine .append (.append (.append (.append (.append (.append (.append ?_ ?_) ?_) ?_) ?_) ?_) ?_) ?_
  · exact (aligned_text ht).text_cons (by decide)
  · exact c.aligned_whereTemplate hm
  · exact c.aligned_groupTemplate hm
  · exact c.aligned_havingTemplate hm
  · exact c.aligned_orderTemplate hm
  · exact aligned_countTemplate (by decide) c.limit
  · exact aligned_countTemplate (by decide) c.offset
  · exact aligned_text (by decide)

theorem aligned_deleteTemplate {table : String} (ht : '?' ∉ table.toList) :
    (c.deleteTemplate table).Aligned m := by
  unfold deleteTemplate
  refine .append (.append ?_ ?_) ?_
  · exact (aligned_text ht).text_cons (by decide)
  · exact c.aligned_whereTemplate hm
  · exact aligned_text (by decide)

/-- Neither a table of one's own nor that of the model has a `?`. -/
theorem tableText_free (ht : ∀ table ∈ c.table, '?' ∉ table.toList) :
    '?' ∉ (c.tableText m).toList := by
  unfold tableText
  cases h : c.table with
  | none => simpa [modelTable] using hm.table
  | some table => exact ht table h

end Clauses

theorem Target.text_free {t : Target} (hd : '?' ∉ t.database.toList) (ht : '?' ∉ t.table.toList) :
    '?' ∉ t.text.toList := by
  simpa [text] using ⟨hd, ht⟩

/-! ## Inserts -/

theorem Dialect.aligned_assignment (hm : m.FreeOf '?') (d : Dialect) (a : Assignment) :
    (d.assignment a).Aligned m := by
  cases a with
  | inserted f =>
    refine (aligned_quotedColumn hm f).append ?_
    cases d <;> exact aligned_column hm (by decide) (by decide)
  | value f v =>
    exact (aligned_quotedColumn hm f).append ((aligned_argument v).text_cons (by decide))

theorem Dialect.aligned_upsert (hm : m.FreeOf '?') (d : Dialect) (assignments : List Assignment) :
    (d.upsert assignments).Aligned m := by
  refine (aligned_commaList ?_).text_cons (by cases d <;> decide)
  exact List.forall_mem_map.2 fun a _ => d.aligned_assignment hm a

namespace Insert

variable {t : EntityType}

theorem aligned_tuple {items : List Template} (h : ∀ item ∈ items, item.Aligned m) :
    (tuple items).Aligned m :=
  (aligned_commaList h).parenthesized

theorem aligned_cell (k : Materializer) (e : Entity t) (f : String) :
    (cell k m e f).Aligned m := by
  unfold cell
  split
  · exact aligned_argument _
  · exact aligned_refuse _

theorem aligned_template (hm : m.FreeOf '?') (i : Insert t) (d : Dialect) (k : Materializer) :
    (i.template d k m).Aligned m := by
  unfold template
  refine .append (.append (.text_cons (.append ?_ ?_) ?_) ?_) (aligned_text (by decide))
  · exact aligned_tuple (List.forall_mem_map.2 fun f _ => aligned_quotedColumn hm f)
  · refine (aligned_commaList ?_).text_cons (by decide)
    refine List.forall_mem_map.2 fun e _ => aligned_tuple ?_
    exact List.forall_mem_map.2 fun f _ => aligned_cell k e f
  · simpa [Clauses.modelTable] using hm.table
  · split
    · exact aligned_nil
    · exact d.aligned_upsert hm _

end Insert

/-! ## Statements -/

/-- If no name in a statement has a `?`, its placeholders are as many as its arguments, and these
are the literals of its clauses, or its fields row by row and what its upsert assigns. -/
theorem placeholders_match_arguments (hm : m.FreeOf '?') :
    (∀ (c : Clauses) (q : Query), (∀ table ∈ c.table, '?' ∉ table.toList) →
      (c.select m = .ok q → q.Aligned ∧ q.args = c.literals) ∧
        (c.delete m = .ok q → q.Aligned ∧ q.args = c.whereLiterals)) ∧
    (∀ (c : Clauses) (placement : Placement) (qs : List (Target × Query)),
      c.selectSharded placement m = .ok qs → ∀ p ∈ qs, '?' ∉ p.1.database.toList →
        '?' ∉ p.1.table.toList → p.2.Aligned ∧ p.2.args = c.literals) ∧
    (∀ (t : EntityType) (i : Insert t) (d : Dialect) (k : Materializer) (q : Query),
      i.query d k m = .ok q → q.Aligned ∧
        ∃ cells : List Value,
          q.args = cells ++ (i.upsert.getD []).flatMap Assignment.literals ∧
          cells.map .ok = (i.rows.flatMap fun e => (i.writtenFields m).map (k.readColumn m e)) ∧
          (TableModel.ofDescriptor t.descriptor = .ok m →
            cells.map .ok = i.rows.flatMap fun e => (i.writtenFields m).map e.get)) := by
  refine ⟨fun c q ht => ⟨fun h => ?_, fun h => ?_⟩, fun c placement qs h p hp hd ht => ?_,
    fun t i d k q h => ?_⟩
  · obtain ⟨hf, -, hargs⟩ := toQuery_eq_ok_iff.1 h
    rw [hargs]
    exact ⟨(c.aligned_selectTemplate hm (c.tableText_free hm ht)).toQuery h,
      c.args_selectTemplate hf⟩
  · obtain ⟨-, -, hargs⟩ := toQuery_eq_ok_iff.1 h
    rw [hargs]
    exact ⟨(c.aligned_deleteTemplate hm (c.tableText_free hm ht)).toQuery h,
      c.args_deleteTemplate _⟩
  · have hq := (Clauses.selectSharded_eq_ok_iff.1 h).2 p hp
    obtain ⟨hf, -, hargs⟩ := toQuery_eq_ok_iff.1 hq
    rw [hargs]
    exact ⟨(c.aligned_selectTemplate hm (Target.text_free hd ht)).toQuery hq,
      c.args_selectTemplate hf⟩
  · obtain ⟨hf, -, hargs⟩ := toQuery_eq_ok_iff.1 h
    refine ⟨(i.aligned_template hm d k).toQuery h, i.cells k m, ?_, ?_, fun hmodel => ?_⟩
    · rw [hargs, i.args_template]
    · exact Insert.map_ok_cells (fun _ _ _ hv => hv) hf
    · exact Insert.map_ok_cells (fun _ _ _ hv => (Materializer.readColumn_eq_ok_iff hmodel).1 hv) hf

/-- A select from a table of its own, with a literal that has a `?`. -/
def archiveSelect : Clauses where
  table := some "`archive`.`order`"
  conditions := [.compare (.column "Remark") .eq (.value (.text "why?")),
    .not (.compare (.column "amount") .gt (.value (.int 3)))]
  limit := some 5

/-- Two orders without their amounts. -/
def orderInsert : Insert orderType where
  rows := [⟨[.int 10, .int 3, .null]⟩, ⟨[.int 13, .int 4, .text "why?"]⟩]
  fields := ["Remark", "user_id"]
  upsert := some [.inserted "Remark", .value "amount" (.int 0)]

theorem placeholders_match_arguments_orders :
    orderModel.FreeOf '?' ∧
    archiveSelect.select orderModel =
      .ok ⟨"SELECT * FROM `archive`.`order` WHERE (`remark` = ?) AND ( NOT (`amount` > ?)) LIMIT ?;",
        [.text "why?", .int 3, .int 5]⟩ ∧
    [.text "why?", .int 3, .int 5] = archiveSelect.literals ∧
    ∃ q, orderInsert.query .sqlite .positional orderModel = .ok q ∧ q.Aligned ∧
      q.args = [.null, .int 10, .text "why?", .int 13, .int 0] := by
  have hm : orderModel.FreeOf '?' := ⟨by decide, by decide⟩
  have h := placeholders_match_arguments hm
  have hs : archiveSelect.select orderModel =
      .ok ⟨"SELECT * FROM `archive`.`order` WHERE (`remark` = ?) AND ( NOT (`amount` > ?)) LIMIT ?;",
        [.text "why?", .int 3, .int 5]⟩ := by rfl
  have hi : orderInsert.query .sqlite .positional orderModel =
      .ok ⟨"INSERT INTO `order`(`remark`,`user_id`) VALUES(?,?),(?,?) ON CONFLICT DO UPDATE SET " ++
        "`remark`=excluded.`remark`,`amount`=?;",
        [.null, .int 10, .text "why?", .int 13, .int 0]⟩ := by cbv
  exact ⟨hm, hs, ((h.1 archiveSelect _ (by decide)).1 hs).2, _, hi, (h.2.2 _ _ _ _ _ hi).1, rfl⟩

end EntityStore
