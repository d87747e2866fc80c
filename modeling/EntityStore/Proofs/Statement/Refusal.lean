import EntityStore.Proofs.Model.Record
import EntityStore.Proofs.Statement.Writable

/-!
# Why statements cannot be written

A statement that cannot be written is at fault itself: it names a field that there is not, or it has a
condition on groups without groups. So its failure is always one of the query
(`Clauses.isQueryError_of_select`, `Clauses.isQueryError_of_delete`,
`Clauses.isQueryError_of_selectSharded`).

An insert looks at a field twice, for its column and for its values. The second look may fail in ways
that are no fault of the query, but a field that has a column can be read in every filled record
(`Insert.exists_readColumn`), so the second look never is what fails (`Insert.isQueryError_of_query`).
-/

namespace EntityStore

open TableModel (ofDescriptor)

variable {m : TableModel} {e : Error}

/-! ## Templates -/

namespace Template

/-- If the template cannot be written, the query is at fault. -/
def Classified (m : TableModel) (t : Template) : Prop :=
  ∀ e, t.failure? m = some e → e.isQueryError = true

theorem Classified.nil : Classified m [] := nofun

theorem Classified.append {s t : Template} (hs : s.Classified m)
    (ht : s.failure? m = none → t.Classified m) : Classified m (s ++ t) := by
  intro e he
  rw [failure?, List.findSome?_append] at he
  cases hf : s.failure? m with
  | some e' =>
    rw [failure?] at hf
    rw [hf, Option.some_or] at he
    cases he
    exact hs _ hf
  | none =>
    rw [failure?] at hf
    rw [hf, Option.none_or] at he
    exact ht hf e he

theorem Classified.text_cons {t : Template} (ht : t.Classified m) (s : String) :
    Classified m (.text s :: t) := ht

theorem Classified.column_cons {t : Template} (ht : t.Classified m) (o f c : String) :
    Classified m (.column o f c :: t) := by
  intro e he
  cases hf : m.field? f with
  | none =>
    simp only [failure?, List.findSome?_cons, Piece.failure?, hf, Option.some.injEq] at he
    subst he
    rfl
  | some g =>
    simp only [failure?, List.findSome?_cons, Piece.failure?, hf] at he
    exact ht e he

theorem classified_argument (v : Value) : Classified m [.argument v] := nofun

theorem Classified.parenthesized {t : Template} (ht : t.Classified m) : t.parenthesized.Classified m :=
  (ht.append fun _ => Classified.nil.text_cons _).text_cons _

theorem Classified.commaList {ts : List Template} (h : ∀ t ∈ ts, t.Classified m) :
    Classified m (commaList ts) := by
  fun_induction Template.commaList ts with
  | case1 => exact .nil
  | case2 t => exact h t List.mem_cons_self
  | case3 t rest _ ih =>
    obtain ⟨ht, hrest⟩ := List.forall_mem_cons.1 h
    exact ht.append fun _ => (ih hrest).text_cons _

theorem classified_quotedColumn (f : String) : (quotedColumn f).Classified m :=
  Classified.nil.column_cons _ _ _

theorem Classified.of_toQuery {t : Template} (ht : t.Classified m) (h : t.toQuery m = .error e) :
    e.isQueryError = true := by
  rw [toQuery_eq] at h
  cases hf : t.failure? m with
  | none => simp [hf] at h
  | some e' =>
    rw [hf] at h
    cases h
    exact ht e hf

end Template

open Template (Classified)

/-! ## Conditions -/

theorem Operand.classified_template (o : Operand) : o.template.Classified m := by
  cases o with
  | column f => exact Template.classified_quotedColumn f
  | aggregate a f => exact Classified.nil.column_cons _ _ _

theorem Term.classified_template (t : Term) : t.template.Classified m := by
  cases t with
  | operand o => exact o.classified_template
  | value v => exact Template.classified_argument v
  | order d f => exact Classified.nil.column_cons _ _ _

theorem Predicate.classified_template (p : Predicate) : p.template.Classified m := by
  induction p with
  | compare l op t =>
    exact l.classified_template.append fun _ => t.classified_template.text_cons _
  | compareTruth l op p ih =>
    exact l.classified_template.append fun _ => ih.parenthesized.text_cons _
  | and p q ihp ihq => exact ihp.parenthesized.append fun _ => ihq.parenthesized.text_cons _
  | or p q ihp ihq => exact ihp.parenthesized.append fun _ => ihq.parenthesized.text_cons _
  | not p ih => exact ih.parenthesized.text_cons _

/-! ## Clauses -/

namespace Clauses

variable {c : Clauses}

theorem classified_whereTemplate (c : Clauses) : c.whereTemplate.Classified m := by
  unfold whereTemplate
  split
  · exact .nil
  · next p _ => exact p.classified_template.text_cons _

theorem classified_groupTemplate (c : Clauses) : c.groupTemplate.Classified m := by
  unfold groupTemplate
  split
  · exact .nil
  · refine (Classified.commaList ?_).text_cons _
    exact List.forall_mem_map.2 fun f _ => Template.classified_quotedColumn f

theorem classified_havingTemplate (c : Clauses) : c.havingTemplate.Classified m := by
  unfold havingTemplate
  split
  · exact .nil
  · next p _ =>
    split
    · rintro _ ⟨⟩
      rfl
    · exact p.classified_template.text_cons _

theorem classified_orderTemplate (c : Clauses) : c.orderTemplate.Classified m := by
  unfold orderTemplate
  split
  · exact .nil
  · refine (Classified.commaList ?_).text_cons _
    exact List.forall_mem_map.2 fun p _ => (Term.order p.1 p.2).classified_template

theorem classified_countTemplate (word : String) (n : Option UInt32) :
    (countTemplate word n).Classified m := by
  cases n with
  | none => exact .nil
  | some n => exact (Template.classified_argument _).text_cons _

theorem classified_selectTemplate (c : Clauses) (table : String) :
    (c.selectTemplate table).Classified m := by
  refine .append (.append (.append (.append (.append (.append (.append ?_ ?_) ?_) ?_) ?_) ?_) ?_) ?_
  · exact (Classified.nil.text_cons _).text_cons _
  · exact fun _ => c.classified_whereTemplate
  · exact fun _ => c.classified_groupTemplate
  · exact fun _ => c.classified_havingTemplate
  · exact fun _ => c.classified_orderTemplate
  · exact fun _ => classified_countTemplate _ _
  · exact fun _ => classified_countTemplate _ _
  · exact fun _ => Classified.nil.text_cons _

theorem classified_deleteTemplate (c : Clauses) (table : String) :
    (c.deleteTemplate table).Classified m := by
  refine .append (.append ?_ ?_) ?_
  · exact (Classified.nil.text_cons _).text_cons _
  · exact fun _ => c.classified_whereTemplate
  · exact fun _ => Classified.nil.text_cons _

theorem isQueryError_of_select (h : c.select m = .error e) : e.isQueryError = true :=
  (c.classified_selectTemplate _).of_toQuery h

theorem isQueryError_of_delete (h : c.delete m = .error e) : e.isQueryError = true :=
  (c.classified_deleteTemplate _).of_toQuery h

theorem isQueryError_of_selectFrom {targets : TargetSet} (h : c.selectFrom m targets = .error e) :
    e.isQueryError = true := by
  induction targets with
  | nil => cases h
  | cons t rest ih =>
    rw [selectFrom] at h
    cases hq : (c.selectTemplate t.text).toQuery m with
    | error e' =>
      rw [hq] at h
      cases h
      exact (c.classified_selectTemplate _).of_toQuery hq
    | ok q =>
      cases hqs : c.selectFrom m rest with
      | error e' =>
        rw [hq, hqs] at h
        cases h
        exact ih hqs
      | ok qs => simp [hq, hqs] at h

/-- A sharded select fails for its route or for one of its statements. -/
theorem isQueryError_of_selectSharded {a : Placement} (h : c.selectSharded a m = .error e) :
    e.isQueryError = true := by
  unfold selectSharded at h
  cases hroute : a.route m c.condition with
  | error e' =>
    rw [hroute] at h
    cases h
    rfl
  | ok targets =>
    rw [hroute] at h
    exact isQueryError_of_selectFrom h

end Clauses

/-! ## Inserts -/

theorem Dialect.classified_upsert (d : Dialect) (as : List Assignment) :
    (d.upsert as).Classified m := by
  refine (Classified.commaList ?_).text_cons _
  refine List.forall_mem_map.2 fun a _ => ?_
  cases a with
  | inserted f =>
    refine (Template.classified_quotedColumn f).append fun _ => ?_
    cases d <;> exact Classified.nil.column_cons _ _ _
  | value f v =>
    exact (Template.classified_quotedColumn f).append fun _ =>
      (Template.classified_argument v).text_cons _

namespace Insert

variable {ρ : Type}

theorem classified_tuple {items : List Template} (h : ∀ item ∈ items, item.Classified m) :
    (tuple items).Classified m :=
  (Classified.commaList h).parenthesized

variable [Record ρ]

/-- A field that has a column can be read in every filled record. -/
theorem exists_readColumn (h : ofDescriptor (Record.descriptor ρ) = .ok m) (k : Materializer) {r : ρ}
    (hr : Record.Filled r) {name : String} {f : Field} (hf : m.field? name = some f) :
    ∃ v, k.readColumn m r name = .ok v := by
  obtain ⟨v, hv⟩ := Materializer.exists_readField h (TableModel.field?_mem hf) k hr
  exact ⟨v, by simp only [Materializer.readColumn, hf, hv]⟩

theorem classified_rowTemplate (h : ofDescriptor (Record.descriptor ρ) = .ok m) (k : Materializer)
    {r : ρ} (hr : Record.Filled r) {fields : List String}
    (hfields : ∀ name ∈ fields, ∃ f, m.field? name = some f) :
    (rowTemplate k m fields r).Classified m := by
  refine classified_tuple (List.forall_mem_map.2 fun name hname => ?_)
  obtain ⟨f, hf⟩ := hfields name hname
  obtain ⟨v, hv⟩ := exists_readColumn h k hr hf
  rw [cell, hv]
  exact Template.classified_argument v

theorem classified_template (h : ofDescriptor (Record.descriptor ρ) = .ok m) {i : Insert ρ}
    (hi : ∀ r ∈ i.rows, Record.Filled r) (d : Dialect) (k : Materializer) :
    (i.template d k m).Classified m := by
  refine .append (.append (.append ?_ fun hcolumns => ?_) fun _ => ?_) fun _ => ?_
  · refine (classified_tuple ?_).text_cons _
    exact List.forall_mem_map.2 fun f _ => Template.classified_quotedColumn f
  · refine (Classified.commaList (List.forall_mem_map.2 fun r hr => ?_)).text_cons _
    refine classified_rowTemplate h k (hi r hr) ?_
    simpa using hcolumns
  · cases i.upsert with
    | none => exact .nil
    | some as => exact d.classified_upsert as
  · exact Classified.nil.text_cons _

theorem isQueryError_of_query (h : ofDescriptor (Record.descriptor ρ) = .ok m) {i : Insert ρ}
    (hi : ∀ r ∈ i.rows, Record.Filled r) {d : Dialect} {k : Materializer}
    (he : i.query d k m = .error e) : e.isQueryError = true :=
  (classified_template h hi d k).of_toQuery he

end Insert

end EntityStore
