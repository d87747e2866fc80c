import EntityStore.Proofs.Placement.Pruning
import EntityStore.Proofs.Placement.Raw
import Mathlib.Data.Set.Basic

/-!
# How a route ends

A comparison is at fault if it has an aggregate on its left, a column there that is no field, or no
literal on its right. A condition is routed to an error by its leftmost comparison at fault
(`HashScheme.routePredicate_eq_error`), where what stands below a negation does not count. Without a
fault it is routed to the targets that its comparisons concern, those of both sides of a conjunction
and of either side of a disjunction (`HashScheme.exists_routePredicate_eq_ok`). Whether these are any
matters at the end only.
-/

namespace EntityStore

/-! ## Comparisons of a condition -/

/-- A comparison in a condition. -/
structure Compared where
  left : Operand
  op : Comparison
  right : Expr

/-- The literal that an expression is. -/
def Expr.value? : Expr → Option Value
  | term (.value v) => some v
  | _ => none

theorem Expr.value?_eq_some_iff {x : Expr} {v : Value} :
    x.value? = some v ↔ x = .term (.value v) := by
  constructor
  · intro h
    unfold value? at h
    split at h
    · cases h
      rfl
    · cases h
  · rintro rfl
    rfl

/-- The comparisons of a condition from left to right, without those below a negation. -/
def Predicate.comparisons : Predicate → List Compared
  | compare l op t => [⟨l, op, .term t⟩]
  | compareTruth l op p => ⟨l, op, .predicate p⟩ :: p.comparisons
  | and p q => p.comparisons ++ q.comparisons
  | or p q => p.comparisons ++ q.comparisons
  | not _ => []

/-- What is wrong with a comparison; its left side is looked at first. -/
def Compared.fault? (m : TableModel) (c : Compared) : Option QueryError :=
  match c.left with
  | .aggregate .. => some .notAColumn
  | .column name =>
    match m.field? name with
    | none => some (.illegalField name)
    | some _ =>
      match c.right.value? with
      | none => some .notAValue
      | some _ => none

/-- What is wrong with the leftmost comparison at fault. -/
def Predicate.fault? (m : TableModel) (p : Predicate) : Option QueryError :=
  p.comparisons.findSome? (Compared.fault? m)

theorem Compared.fault?_eq_none_iff {m : TableModel} {c : Compared} :
    c.fault? m = none ↔ ∃ name f v, c.left = .column name ∧ m.field? name = some f ∧
      c.right = .term (.value v) := by
  simp only [← Expr.value?_eq_some_iff]
  unfold fault?
  cases c.left with
  | aggregate g name => simp
  | column name =>
    cases hf : m.field? name <;> cases hv : c.right.value? <;> simp [hf]

/-- A condition is no literal. -/
theorem Compared.fault?_predicate_ne_none {m : TableModel} {l : Operand} {op : Comparison}
    {p : Predicate} : Compared.fault? m ⟨l, op, .predicate p⟩ ≠ none := by
  intro h
  obtain ⟨_, _, _, _, _, hr⟩ := Compared.fault?_eq_none_iff.1 h
  cases hr

namespace Predicate

variable {m : TableModel} {p : Predicate}

theorem fault?_eq_some_iff {e : QueryError} :
    p.fault? m = some e ↔ ∃ before c after, p.comparisons = before ++ c :: after ∧
      c.fault? m = some e ∧ ∀ d ∈ before, d.fault? m = none := List.findSome?_eq_some_iff

theorem fault?_eq_none_iff : p.fault? m = none ↔ ∀ c ∈ p.comparisons, c.fault? m = none :=
  List.findSome?_eq_none_iff

theorem fault?_compare (l : Operand) (op : Comparison) (t : Term) :
    (compare l op t).fault? m = Compared.fault? m ⟨l, op, .term t⟩ := by
  simp [fault?, comparisons]

theorem fault?_compareTruth (l : Operand) (op : Comparison) :
    (compareTruth l op p).fault? m = Compared.fault? m ⟨l, op, .predicate p⟩ := by
  have hne : Compared.fault? m ⟨l, op, .predicate p⟩ ≠ none := Compared.fault?_predicate_ne_none
  obtain ⟨e, he⟩ := Option.ne_none_iff_exists'.1 hne
  rw [fault?, comparisons, List.findSome?_cons, he]

theorem fault?_and (p q : Predicate) : (and p q).fault? m = (p.fault? m).or (q.fault? m) :=
  List.findSome?_append

theorem fault?_or (p q : Predicate) : (or p q).fault? m = (p.fault? m).or (q.fault? m) :=
  List.findSome?_append

end Predicate

namespace HashScheme

variable {s : HashScheme} {m : TableModel} {p q : Predicate}

/-! ## Targets of a condition -/

/-- The targets that a comparison concerns: an equality of the key with an integer the one with the rows
of that key, any other comparison all. -/
def concerned (s : HashScheme) (m : TableModel) (c : Compared) : Set Target :=
  {t | t ∈ s.broadcast ∧ ∀ name f i, c = ⟨.column name, .eq, .term (.value (.int i))⟩ →
    m.field? name = some f → s.isKey f = true → t = s.place i}

/-- The targets that a condition concerns. -/
def reach (s : HashScheme) (m : TableModel) : Predicate → Set Target
  | .compare l op t => s.concerned m ⟨l, op, .term t⟩
  | .compareTruth l op p => s.concerned m ⟨l, op, .predicate p⟩
  | .and p q => s.reach m p ∩ s.reach m q
  | .or p q => s.reach m p ∪ s.reach m q
  | .not _ => {t | t ∈ s.broadcast}

theorem reach_subset (p : Predicate) : s.reach m p ⊆ {t | t ∈ s.broadcast} := by
  induction p with
  | compare l op t => exact fun _ ht => ht.1
  | compareTruth l op p ih => exact fun _ ht => ht.1
  | and p q ihp ihq => exact fun _ ht => ihp ht.1
  | or p q ihp ihq => exact Set.union_subset ihp ihq
  | not p ih => exact subset_rfl

/-- An equality of the key with an integer concerns the one target of that key. -/
theorem mem_concerned_key {name : String} {f : Field} (hf : m.field? name = some f)
    (hk : s.isKey f = true) {i : Int64} {t : Target} :
    t ∈ s.concerned m ⟨.column name, .eq, .term (.value (.int i))⟩ ↔ t = s.place i := by
  constructor
  · rintro ⟨-, ht⟩
    exact ht name f i rfl hf hk
  · rintro rfl
    refine ⟨place_mem_broadcast s i, ?_⟩
    rintro - - j ⟨⟩ - -
    rfl

theorem mem_concerned_other {name : String} {f : Field} (hf : m.field? name = some f)
    {op : Comparison} {v : Value} (h : op = .eq → s.isKey f = true → v.asInt? = none) {t : Target} :
    t ∈ s.concerned m ⟨.column name, op, .term (.value v)⟩ ↔ t ∈ s.broadcast := by
  refine ⟨And.left, fun ht => ⟨ht, ?_⟩⟩
  rintro _ g i ⟨⟩ hg hk
  rw [hf, Option.some.injEq] at hg
  subst hg
  cases h rfl hk

/-! ## Routes of comparisons -/

theorem routePredicate_compare (l : Operand) (op : Comparison) (t : Term) :
    s.routePredicate m (.compare l op t) = s.routeCompare m l op (Expr.term t).value? := by
  cases t <;> rfl

theorem routeCompare_eq_error {c : Compared} {e : QueryError} (h : c.fault? m = some e) :
    s.routeCompare m c.left c.op c.right.value? = .error e := by
  obtain ⟨l, op, r⟩ := c
  cases l with
  | aggregate g name =>
    cases h
    rfl
  | column name =>
    simp only [Compared.fault?] at h
    simp only [routeCompare, Placement.routeCompare]
    cases hf : m.field? name with
    | none =>
      rw [hf, Option.some.injEq] at h
      rw [h]
    | some f =>
      cases hv : r.value? with
      | none =>
        simp only [hf, hv, Option.some.injEq] at h
        simp only [h]
      | some v =>
        simp only [hf, hv] at h
        cases h

theorem routeCompare_key {name : String} {f : Field} (hf : m.field? name = some f)
    (hk : s.isKey f = true) (op : Comparison) (i : Int64) :
    s.routeCompare m (.column name) op (some (.int i)) = .ok (s.targets op i) := by
  have hk' : s.placement.isKey f = true := hk
  simp only [routeCompare, Placement.routeCompare, hf, hk', if_true, Value.asInt?]
  rfl

theorem routeCompare_other {name : String} {f : Field} (hf : m.field? name = some f)
    {op : Comparison} {v : Value} (h : op = .eq → s.isKey f = true → v.asInt? = none) :
    s.routeCompare m (.column name) op (some v) = .ok s.broadcast := by
  simp only [routeCompare, Placement.routeCompare, hf]
  split
  · next hk =>
    cases hv : v.asInt? with
    | none => rfl
    | some i =>
      cases op with
      | eq => cases (h rfl hk).symm.trans hv
      | lt => rfl
      | gt => rfl
  · rfl

/-- A comparison without a fault is routed to the targets that it concerns. -/
theorem exists_routeCompare_eq_ok {c : Compared} (h : c.fault? m = none) :
    ∃ targets, s.routeCompare m c.left c.op c.right.value? = .ok targets ∧
      ∀ t, t ∈ targets ↔ t ∈ s.concerned m c := by
  obtain ⟨name, f, v, hl, hf, hr⟩ := Compared.fault?_eq_none_iff.1 h
  obtain ⟨l, op, r⟩ := c
  cases hl
  cases hr
  by_cases hkey : ∃ i, op = .eq ∧ s.isKey f = true ∧ v = .int i
  · obtain ⟨i, rfl, hk, rfl⟩ := hkey
    refine ⟨_, routeCompare_key hf hk .eq i, fun t => ?_⟩
    rw [mem_concerned_key hf hk]
    exact List.mem_singleton
  · have hother : op = .eq → s.isKey f = true → v.asInt? = none := by
      intro hop hk
      cases v with
      | int i => exact absurd ⟨i, hop, hk, rfl⟩ hkey
      | _ => rfl
    exact ⟨_, routeCompare_other hf hother, fun t => (mem_concerned_other hf hother).symm⟩

/-! ## Routes of conditions -/

/-- A condition without a fault is routed to the targets that it concerns. -/
theorem exists_routePredicate_eq_ok (h : p.fault? m = none) :
    ∃ targets, s.routePredicate m p = .ok targets ∧ ∀ t, t ∈ targets ↔ t ∈ s.reach m p := by
  induction p with
  | compare l op t =>
    rw [Predicate.fault?_compare] at h
    rw [routePredicate_compare]
    exact exists_routeCompare_eq_ok h
  | compareTruth l op p ih =>
    rw [Predicate.fault?_compareTruth] at h
    exact absurd h Compared.fault?_predicate_ne_none
  | and p q ihp ihq =>
    rw [Predicate.fault?_and, Option.or_eq_none_iff] at h
    obtain ⟨a, ha, hmema⟩ := ihp h.1
    obtain ⟨b, hb, hmemb⟩ := ihq h.2
    refine ⟨a.inter b, Placement.routePredicate_and_eq_ok_iff.2 ⟨a, b, ha, hb, rfl⟩, fun t => ?_⟩
    rw [TargetSet.mem_inter, hmema, hmemb]
    rfl
  | or p q ihp ihq =>
    rw [Predicate.fault?_or, Option.or_eq_none_iff] at h
    obtain ⟨a, ha, hmema⟩ := ihp h.1
    obtain ⟨b, hb, hmemb⟩ := ihq h.2
    refine ⟨a.union b, Placement.routePredicate_or_eq_ok_iff.2 ⟨a, b, ha, hb, rfl⟩, fun t => ?_⟩
    rw [TargetSet.mem_union, hmema, hmemb]
    rfl
  | not p ih => exact ⟨s.broadcast, rfl, fun t => Iff.rfl⟩

/-- A condition with a fault is routed to the one that stands leftmost. -/
theorem routePredicate_eq_error {e : QueryError} (h : p.fault? m = some e) :
    s.routePredicate m p = .error e := by
  induction p with
  | compare l op t =>
    rw [Predicate.fault?_compare] at h
    rw [routePredicate_compare]
    exact routeCompare_eq_error h
  | compareTruth l op p ih =>
    rw [Predicate.fault?_compareTruth] at h
    exact routeCompare_eq_error h
  | and p q ihp ihq =>
    rw [Predicate.fault?_and, Option.or_eq_some_iff] at h
    refine Placement.routePredicate_and_eq_error_iff.2 (h.imp ihp fun ⟨hp, hq⟩ => ⟨?_, ihq hq⟩)
    obtain ⟨targets, hok, -⟩ := exists_routePredicate_eq_ok hp
    exact ⟨targets, hok⟩
  | or p q ihp ihq =>
    rw [Predicate.fault?_or, Option.or_eq_some_iff] at h
    refine Placement.routePredicate_or_eq_error_iff.2 (h.imp ihp fun ⟨hp, hq⟩ => ⟨?_, ihq hq⟩)
    obtain ⟨targets, hok, -⟩ := exists_routePredicate_eq_ok hp
    exact ⟨targets, hok⟩
  | not p ih => cases h

/-! ## Ends of a route -/

theorem route_eq_error {e : QueryError} (h : p.fault? m = some e) :
    s.route m (some p) = .error e := by
  have hp : s.placement.routePredicate m p = .error e := routePredicate_eq_error h
  rw [route, Placement.route, Placement.candidates, hp]

theorem route_eq_noDataSource_iff (h : p.fault? m = none) :
    s.route m (some p) = .error .noDataSource ↔ s.reach m p = ∅ := by
  obtain ⟨targets, hok, hmem⟩ := exists_routePredicate_eq_ok (s := s) h
  rw [route_some_eq_noDataSource_iff, hok, Except.ok.injEq, List.eq_nil_iff_forall_not_mem,
    Set.eq_empty_iff_forall_notMem]
  simp only [hmem]

theorem exists_route_eq_ok (h : p.fault? m = none) (hne : (s.reach m p).Nonempty) :
    ∃ targets, s.route m (some p) = .ok targets ∧ targets ≠ [] ∧
      ∀ t, t ∈ targets ↔ t ∈ s.reach m p := by
  obtain ⟨targets, hok, hmem⟩ := exists_routePredicate_eq_ok (s := s) h
  obtain ⟨t, ht⟩ := hne
  have hnil : targets ≠ [] := List.ne_nil_of_mem ((hmem t).2 ht)
  exact ⟨targets, Placement.route_eq_ok_iff.2 ⟨hok, hnil⟩, hnil, hmem⟩

theorem fault?_ne_notAPredicate {c : Compared} {side : String} :
    c.fault? m ≠ some (.notAPredicate side) := by
  intro h
  unfold Compared.fault? at h
  repeat' split at h
  all_goals cases h

theorem route_ne_notAPredicate {side : String} : s.route m (some p) ≠ .error (.notAPredicate side) := by
  intro h
  cases hfault : p.fault? m with
  | some e =>
    obtain ⟨_, _, _, _, hc, _⟩ := Predicate.fault?_eq_some_iff.1 hfault
    cases (route_eq_error (s := s) hfault).symm.trans h
    exact fault?_ne_notAPredicate hc
  | none =>
    rcases (s.reach m p).eq_empty_or_nonempty with hempty | hne
    · cases ((route_eq_noDataSource_iff hfault).2 hempty).symm.trans h
    · obtain ⟨targets, hok, -⟩ := exists_route_eq_ok hfault hne
      cases hok.symm.trans h

/-- How a route ends. Whatever the constructors make is a condition in its stored form, and
* it is routed to the error of its leftmost comparison at fault, if there is one outside of negations;
* otherwise it lacks a data source iff it concerns no target, though parts of it may concern none;
* otherwise it is routed to the targets that it concerns, which are some of all targets;
* that a side of a conjunction or disjunction is no predicate is never found. -/
theorem route_ends (s : HashScheme) (m : TableModel) :
    (∀ stored : RawPredicate, stored.Built → ∃ p : Predicate, p.raw = stored) ∧
    ∀ p : Predicate,
      s.placement.routeRaw m p.raw = s.route m (some p) ∧
      (∀ before c after e, p.comparisons = before ++ c :: after →
        (∀ d ∈ before, d.fault? m = none) → c.fault? m = some e →
        s.route m (some p) = .error e) ∧
      ((∀ c ∈ p.comparisons, c.fault? m = none) →
        (s.route m (some p) = .error .noDataSource ↔ s.reach m p = ∅) ∧
        ((s.reach m p).Nonempty → ∃ targets, s.route m (some p) = .ok targets ∧ targets ≠ [] ∧
          (∀ t, t ∈ targets ↔ t ∈ s.reach m p) ∧ ∀ t ∈ targets, t ∈ s.broadcast)) ∧
      ∀ side, s.placement.routeRaw m p.raw ≠ .error (.notAPredicate side) := by
  refine ⟨fun stored => RawPredicate.built_iff.1, fun p => ?_⟩
  rw [Placement.routeRaw_raw]
  refine ⟨rfl, fun before c after e hp hbefore hc => ?_, fun hall => ?_,
    fun side => route_ne_notAPredicate⟩
  · exact route_eq_error (Predicate.fault?_eq_some_iff.2 ⟨before, c, after, hp, hc, hbefore⟩)
  · have hfault := Predicate.fault?_eq_none_iff.2 hall
    refine ⟨route_eq_noDataSource_iff hfault, fun hne => ?_⟩
    obtain ⟨targets, hok, hnil, hmem⟩ := exists_route_eq_ok hfault hne
    exact ⟨targets, hok, hnil, hmem, fun t ht => reach_subset p ((hmem t).1 ht)⟩

/-- A condition with a fault below a negation and two others: an unknown column, and further right an
aggregate. -/
def faultyCondition : Predicate :=
  .and (.not (.compare (.aggregate .avg "amount") .gt (.value (.int 3))))
    (.or (.compare (.column "price") .eq (.value (.int 1)))
      (.compare (.aggregate .sum "amount") .lt (.value (.int 9))))

/-- The orders of the user 13, beside those of two users at once. -/
def sparseCondition : Predicate :=
  .or (.and (.compare (.column "user_id") .eq (.value (.int 10)))
      (.compare (.column "user_id") .eq (.value (.int 13))))
    (.compare (.column "user_id") .eq (.value (.int 13)))

/-- The unknown column is reported, and that no order is of two users does not stop a route before its
end. -/
theorem route_ends_order :
    orderScheme.route orderModel (some faultyCondition) = .error (.illegalField "price") ∧
      (∀ c ∈ sparseCondition.comparisons, c.fault? orderModel = none) ∧
      (∃ targets, orderScheme.route orderModel (some sparseCondition) = .ok targets ∧
        ∀ t, t ∈ targets ↔ t ∈ orderScheme.reach orderModel sparseCondition) ∧
      orderScheme.route orderModel (some sparseCondition) = .ok [⟨"order_db_1", "order_tab_1"⟩] := by
  obtain ⟨-, hends⟩ := route_ends orderScheme orderModel
  obtain ⟨-, hfault, -, -⟩ := hends faultyCondition
  obtain ⟨-, -, hfree, -⟩ := hends sparseCondition
  have hroute : orderScheme.route orderModel (some sparseCondition) =
      .ok [⟨"order_db_1", "order_tab_1"⟩] := rfl
  have hall : ∀ c ∈ sparseCondition.comparisons, c.fault? orderModel = none :=
    Predicate.fault?_eq_none_iff.1 rfl
  obtain ⟨hempty, hreach⟩ := hfree hall
  refine ⟨?_, hall, ?_, hroute⟩
  · exact hfault [] _ _ _ rfl (by simp) rfl
  · have hne : orderScheme.reach orderModel sparseCondition ≠ ∅ := by
      intro hnone
      cases hroute.symm.trans (hempty.2 hnone)
    obtain ⟨targets, hok, -, hmem, -⟩ := hreach (Set.nonempty_iff_ne_empty.2 hne)
    exact ⟨targets, hok, hmem⟩

end HashScheme

end EntityStore
